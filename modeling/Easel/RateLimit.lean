import Easel.Calendar
import Easel.Keyed

/-!
Limits on requests within sliding windows. For each key the times of the requests that were let through are kept, so that
those within a window can be counted; a request that is refused leaves no trace. Times are in microseconds.
-/

namespace Easel

structure RateLimiter where
  entries : Keyed (List Int) := []

namespace RateLimiter

inductive Refusal
  | tooFast
  | dayUsedUp
  deriving Repr, DecidableEq

def Refusal.message : Refusal → String
  | .tooFast => "Too many requests. Please wait a moment before trying again."
  | .dayUsedUp => "Daily limit reached. You've used all your requests for today. Try again tomorrow."

def times (l : RateLimiter) (key : String) : List Int :=
  (l.entries.lookup key).getD []

def within (now span : Int) (times : List Int) : List Int :=
  times.filter (now - span < ·)

/-- Forgets the requests before the window. Looking at a key makes it known. -/
def prune (l : RateLimiter) (now span : Int) (key : String) : RateLimiter :=
  { l with entries := l.entries.put key (within now span (l.times key)) }

def record (l : RateLimiter) (now : Int) (key : String) : RateLimiter :=
  { l with entries := l.entries.put key (l.times key ++ [now]) }

/-- Lets a request through if fewer than `most` came within the last `span`. -/
def check (l : RateLimiter) (now : Int) (key : String) (most span : Int) : Bool × RateLimiter :=
  let l := l.prune now span key
  if most ≤ (l.times key).length then (false, l) else (true, l.record now key)

def dayKey (client : String) : String := "day:" ++ client

def minuteKey (client : String) : String := "minute:" ++ client

/-- The day counts before the minute, and a request counts in both or in neither. -/
def checkClient (l : RateLimiter) (now : Int) (client : String) (perMinute perDay : Int) : Option Refusal × RateLimiter :=
  let l := l.prune now Calendar.day (dayKey client)
  if perDay ≤ (l.times (dayKey client)).length then (some .dayUsedUp, l)
  else
    let l := l.prune now Calendar.minute (minuteKey client)
    if perMinute ≤ (l.times (minuteKey client)).length then (some .tooFast, l)
    else (none, (l.record now (dayKey client)).record now (minuteKey client))

/-- Forgets all requests older than `span`, and the keys that have none left. -/
def cleanUp (l : RateLimiter) (now span : Int) : RateLimiter :=
  { l with entries := (l.entries.map fun (key, times) => (key, within now span times)).filter (!·.2.isEmpty) }

end RateLimiter

end Easel
