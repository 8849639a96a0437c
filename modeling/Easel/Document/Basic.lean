import Easel.Document.Layer

/-!
A document: one page with a tree of layers, and what the editor keeps beside it. Layers are never forgotten; a layer taken
off the page stays in the store, so its number is not given out again.

A layer's parent and the parent's list of children are kept together: every operation that hangs a layer somewhere takes it
from where it hung before.
-/

namespace Easel

structure Document where
  pageName : String := "Page 1"
  pageChildren : List LayerId := []
  layers : List Layer := []
  selection : List Node := []
  viewport : List Node := []
  notifications : List String := []
  pluginData : List (String × String) := []
  fonts : List (String × String) := []
  fontsFail : Bool := false

namespace Document

def layer? (d : Document) (id : LayerId) : Option Layer :=
  d.layers[id]?

def update (d : Document) (id : LayerId) (f : Layer → Layer) : Document :=
  { d with layers := d.layers.modify id f }

def updateLook (d : Document) (id : LayerId) (f : Look → Look) : Document :=
  d.update id fun l => { l with look := f l.look }

def isRemoved (d : Document) (id : LayerId) : Bool :=
  (d.layer? id).any (·.removed)

def nameOf (d : Document) (id : LayerId) : String :=
  ((d.layer? id).map (·.look.name)).getD ""

def parentOf (d : Document) (id : LayerId) : Option Node :=
  (d.layer? id).bind (·.parent)

/-- The page is a container, and so are frames and groups. -/
def isContainer (d : Document) : Node → Bool
  | .page => true
  | .layer id => (d.layer? id).any (·.isContainer)

def childrenOf (d : Document) : Node → List LayerId
  | .page => d.pageChildren
  | .layer id => ((d.layer? id).map (·.children)).getD []

def updateChildren (d : Document) (p : Node) (f : List LayerId → List LayerId) : Document :=
  match p with
  | .page => { d with pageChildren := f d.pageChildren }
  | .layer id => d.update id fun l => { l with children := f l.children }

/-- Takes a layer from where it hangs. -/
def detach (d : Document) (id : LayerId) : Document :=
  match d.parentOf id with
  | none => d
  | some p => (d.updateChildren p (·.erase id)).update id fun l => { l with parent := none }

/-- Hangs a layer under `p`, at the place that `place` gives it among the children there. -/
def attach (d : Document) (p : Node) (id : LayerId) (place : List LayerId → List LayerId) : Document :=
  ((d.detach id).updateChildren p place).update id fun l => { l with parent := some p }

/-- In front of all others. -/
def append (d : Document) (p : Node) (id : LayerId) : Document :=
  d.attach p id (· ++ [id])

/-- An index below zero counts from the end, and one beyond either end means that end. -/
def clampIndex (index : Int) (length : Nat) : Nat :=
  min length (if index < 0 then index + length else index).toNat

def insert (d : Document) (p : Node) (index : Int) (id : LayerId) : Document :=
  d.attach p id fun ids => ids.insertIdx (clampIndex index ids.length) id

/-- A new layer, which hangs nowhere yet, and its number. -/
def create (d : Document) (look : Look) : LayerId × Document :=
  (d.layers.length, { d with layers := d.layers ++ [{ look }] })

/-- A layer and all below it, each before its children, down to `depth` levels. -/
def walkTo (d : Document) : (depth : Nat) → LayerId → List LayerId
  | 0, _ => []
  | depth + 1, id => id :: (d.childrenOf (.layer id)).flatMap (d.walkTo depth)

/-- No branch of the tree is longer than the number of layers. -/
def walk (d : Document) (id : LayerId) : List LayerId :=
  d.walkTo d.layers.length id

/-- Everything on the page. -/
def all (d : Document) : List LayerId :=
  d.pageChildren.flatMap d.walk

def markRemoved (d : Document) (ids : List LayerId) : Document :=
  ids.foldl (fun d id => d.update id fun l => { l with removed := true }) d

/-- Takes a layer off, with all below it. -/
def remove (d : Document) (id : LayerId) : Document :=
  let d := d.detach id
  d.markRemoved (d.walk id)

/-- The selection without removed layers, unless the page is in it. -/
def liveSelection? (d : Document) : Option (List LayerId) :=
  (d.selection.mapM Node.layer?).map (·.filter fun id => !d.isRemoved id)

def hang (d : Document) (p : Node) (ids : List LayerId) : Document :=
  ids.foldl (·.append p ·) d

/-- Gathers layers under the empty group `g`, which takes the place of the first of them, or the front of `p` if that one
hangs elsewhere. -/
def gather (d : Document) (g : LayerId) (ids : List LayerId) (p : Node) : Document :=
  let siblings := d.childrenOf p
  let index := (ids.head?.bind siblings.idxOf?).getD siblings.length
  (d.insert p index g).hang (.layer g) ids

/-- Puts the children of a group into its own place and takes the group off. -/
def dissolve (d : Document) (g : LayerId) (p : Node) : Document :=
  let index := ((d.childrenOf p).idxOf? g).getD 0
  let released := d.childrenOf (.layer g)
  (released.zipIdx.foldl (fun d (id, offset) => d.insert p (index + offset) id) d).remove g

def notify (d : Document) (message : String) : Document :=
  { d with notifications := d.notifications ++ [message] }

def putData (d : Document) (key value : String) : Document :=
  { d with pluginData := (key, value) :: d.pluginData.filter (·.1 ≠ key) }

/-- A key that was never set holds the empty text. -/
def data (d : Document) (key : String) : String :=
  (d.pluginData.lookup key).getD ""

def addFont (d : Document) (family style : String) : Document :=
  if d.fonts.contains (family, style) then d else { d with fonts := (family, style) :: d.fonts }

@[simp] theorem data_putData (d : Document) (key value : String) : (d.putData key value).data key = value := by
  simp [data, putData]

end Document

end Easel
