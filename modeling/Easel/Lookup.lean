import Easel.Host
import Easel.Text.Case
import Easel.Text.Search

/-!
Finding layers by number or by a piece of their name. Case does not count in names. The best match is an equal name, then
come names that start with the piece and then the others, in both groups the shorter name first; layers that tie keep the
order of the page.
-/

namespace Easel.Lookup

/-- How well a name fits; smaller is better. Both are in lower case. -/
structure Rank where
  tier : Nat
  length : Nat
  deriving Repr, DecidableEq

def Rank.le (a b : Rank) : Bool :=
  a.tier < b.tier || (a.tier = b.tier && a.length ≤ b.length)

def rank (lowered search : List Char) : Rank :=
  if lowered = search then ⟨0, 0⟩
  else if search.isPrefixOf lowered then ⟨1, lowered.length⟩
  else ⟨2, lowered.length⟩

def rankOf (name search : String) : Rank :=
  rank (Text.lower name.toList) search.toList

/-- Whether a name has the piece in it; no piece is in an empty name. -/
def matchesName (search : List Char) (name : String) : Bool :=
  !name.isEmpty && Text.occurs search (Text.lower name.toList)

/-- The layers among `ids` whose name has `fragment` in it, best first. -/
def ranked (d : Document) (ids : List LayerId) (fragment : String) : List LayerId :=
  let search := Text.lower fragment.toList
  let key (id : LayerId) := rank (Text.lower (d.nameOf id).toList) search
  (ids.filter fun id => matchesName search (d.nameOf id)).mergeSort fun a b => (key a).le (key b)

/-- Nothing is looked for unless a text that is not empty is given. -/
def wanted? (v : Json) : Option String :=
  v.string?.filter (!·.isEmpty)

def byId (v : Json) : HostM (Option LayerId) := do
  match wanted? v with
  | none => return none
  | some text => return (← Host.findAll).find? (LayerId.text · = text)

def byName (v : Json) : HostM (List LayerId) := do
  match wanted? v with
  | none => return []
  | some fragment =>
    let ids ← Host.findAll
    return ranked (← Host.view) ids fragment

/-- What a reference to a parent means: the layer of that number, or all that fit the name, if any do. -/
inductive Match
  | one (id : LayerId)
  | several (ids : List LayerId)

def Match.ids : Match → List LayerId
  | .one id => [id]
  | .several ids => ids

def parent (v : Json) : HostM (Option Match) := do
  match ← byId v with
  | some id => return some (.one id)
  | none =>
    match ← byName v with
    | [] => return none
    | ids => return some (.several ids)

/-- A number counts before a name, and the best name before the others. -/
def target (v : Json) : HostM (Option LayerId) := do
  match ← byId v with
  | some id => return some id
  | none => return (← byName v).head?

end Easel.Lookup
