import Easel.Json.Basic
import Easel.Text.Quoted

/-!
The command channel: commands wait for the plugin they are meant for, first come, first served. A command that has waited
longer than the channel allows is dropped when somebody looks; a plugin counts as connected for a while after each poll.

Times are of any type with an order and a difference, and each operation is told what time it is. If there are times that
cannot be subtracted, whoever asks has to see first that these are not such.
-/

namespace Easel

/-- Times, of which some may not be subtracted. -/
class Clock (τ : Type) where
  subtracts : τ → τ → Bool

instance : Clock Int := ⟨fun _ _ => true⟩

instance : Clock Number := ⟨Number.combines⟩

/-- A transcript or actions for a plugin, as they were posted; null is as good as nothing. -/
structure Command (τ : Type) where
  number : Nat
  plugin : String
  transcript : Json
  actions : Json
  createdAt : τ

namespace Command

variable {τ : Type}

/-- The number of the command in 32 hexadecimal digits. -/
def id (c : Command τ) : String :=
  String.ofList (Text.hex 32 c.number)

/-- What was not given is left out. -/
def toFields (c : Command τ) : Fields :=
  [("id", .str c.id), ("pluginId", .str c.plugin)] ++
    [("transcript", c.transcript), ("actions", c.actions)].filter fun (_, v) => !v.isNull

end Command

/-- `pending` holds no empty queue. -/
structure Channel (τ : Type) where
  ttl : τ
  connectionTtl : τ
  pending : Keyed (List (Command τ)) := []
  lastSeen : Keyed τ := []
  posted : Nat := 0

namespace Channel

inductive Fault
  | noPlugin
  | noContent
  deriving Repr, DecidableEq

def Fault.message : Fault → String
  | .noPlugin => "plugin_id is required"
  | .noContent => "A command needs a transcript or actions"

variable {τ : Type}

def queue (c : Channel τ) (plugin : String) : List (Command τ) :=
  (c.pending.lookup plugin).getD []

/-- An empty queue is not kept. -/
def setQueue (c : Channel τ) (plugin : String) (commands : List (Command τ)) : Channel τ :=
  { c with pending := if commands.isEmpty then c.pending.erase plugin else c.pending.put plugin commands }

def pendingCount (c : Channel τ) (plugin : String) : Nat :=
  (c.queue plugin).length

def post (c : Channel τ) (now : τ) (plugin : String) (transcript actions : Json) :
    Except Fault (Command τ × Channel τ) :=
  if plugin.isEmpty then .error .noPlugin
  else if transcript.isNull && actions.isNull then .error .noContent
  else
    let command : Command τ := ⟨c.posted + 1, plugin, transcript, actions, now⟩
    .ok (command, { c.setQueue plugin (c.queue plugin ++ [command]) with posted := c.posted + 1 })

/-- Records a poll. -/
def touch (c : Channel τ) (now : τ) (plugin : String) : Channel τ :=
  { c with lastSeen := c.lastSeen.put plugin now }

section Time

variable [Sub τ] [LT τ] [DecidableLT τ]

/-- A command expires when it is older than the limit. -/
def isExpired (c : Channel τ) (now : τ) (command : Command τ) : Bool :=
  command.createdAt < now - c.ttl

/-- Drops what has expired at the head of a queue. -/
def evict (c : Channel τ) (now : τ) (plugin : String) : Channel τ :=
  c.setQueue plugin ((c.queue plugin).dropWhile (c.isExpired now))

/-- The oldest command that has not expired, which stays. -/
def peek (c : Channel τ) (now : τ) (plugin : String) : Option (Command τ) × Channel τ :=
  let c := c.evict now plugin
  ((c.queue plugin).head?, c)

/-- The oldest command that has not expired, taken out. -/
def pop (c : Channel τ) (now : τ) (plugin : String) : Option (Command τ) × Channel τ :=
  let c := c.evict now plugin
  ((c.queue plugin).head?, c.setQueue plugin (c.queue plugin).tail)

/-- Drops all that is pending for a plugin, and says how much that was. -/
def clear (c : Channel τ) (plugin : String) : Nat × Channel τ :=
  (c.pendingCount plugin, c.setQueue plugin [])

def isStale (c : Channel τ) (now seen : τ) : Bool :=
  c.connectionTtl < now - seen

/-- Drops what has expired everywhere. -/
def evictAll (c : Channel τ) (now : τ) : Channel τ :=
  (c.pending.map (·.1)).foldl (·.evict now ·) c

/-- Drops what has expired everywhere, and plugins that have not polled for too long. -/
def evictExpired (c : Channel τ) (now : τ) : Nat × Channel τ :=
  let swept := c.evictAll now
  let count (c : Channel τ) : Nat := (c.pending.flatMap (·.2)).length
  (count c - count swept, { swept with lastSeen := swept.lastSeen.filter fun (_, seen) => !c.isStale now seen })

end Time

section Range

variable [Clock τ]

/-- Whether it can be told what has expired in a queue. -/
def tellsExpiry (c : Channel τ) (now : τ) (plugin : String) : Bool :=
  (c.queue plugin).isEmpty || Clock.subtracts now c.ttl

/-- Whether it can be told if a plugin is connected. -/
def tellsConnection (c : Channel τ) (now : τ) (plugin : String) : Bool :=
  (c.lastSeen.lookup plugin).all (Clock.subtracts now)

def tellsConnections (c : Channel τ) (now : τ) : Bool :=
  c.lastSeen.all fun (_, seen) => Clock.subtracts now seen

def tellsExpiries (c : Channel τ) (now : τ) : Bool :=
  c.pending.isEmpty || Clock.subtracts now c.ttl

/-- Drops as much as `evictExpired` up to the first thing of which nothing can be told, and says whether there is none. -/
def evictTold [Sub τ] [LT τ] [DecidableLT τ] (c : Channel τ) (now : τ) : Channel τ × Bool :=
  if !c.tellsExpiries now then (c, false)
  else if c.tellsConnections now then ((c.evictExpired now).2, true)
  else
    let tells (entry : String × τ) : Bool := Clock.subtracts now entry.2
    let kept := (c.lastSeen.takeWhile tells).filter fun (_, seen) => !c.isStale now seen
    ({ c.evictAll now with lastSeen := kept ++ c.lastSeen.dropWhile tells }, false)

end Range

section Connection

variable [Sub τ] [LE τ] [DecidableLE τ]

def isFresh (c : Channel τ) (now seen : τ) : Bool :=
  now - seen ≤ c.connectionTtl

def isConnected (c : Channel τ) (now : τ) (plugin : String) : Bool :=
  (c.lastSeen.lookup plugin).any (c.isFresh now)

def connectedCount (c : Channel τ) (now : τ) : Nat :=
  c.lastSeen.countP fun (_, seen) => c.isFresh now seen

end Connection

end Channel

end Easel
