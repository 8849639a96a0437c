import Easel.Document.Basic
import Mathlib.Tactic.Common

/-!
What a document keeps beside its layers: what the user was told, and what plugins remember. No change to the layers has to do with
either.
-/

namespace Easel

namespace Document

/-- The document apart from what the user was told. -/
def mute (d : Document) : Document := { d with notifications := [] }

/-- The document with other notifications and other plugin data. -/
def aside (d : Document) (notes : List String) (data : List (String × String)) : Document :=
  { d with notifications := notes, pluginData := data }

/-- What neither looks at notifications and plugin data nor changes them. -/
def Apart (f : Document → Document) : Prop := ∀ d notes data, f (d.aside notes data) = (f d).aside notes data

variable {f g : Document → Document} {d : Document} {notes : List String} {data : List (String × String)}

theorem Apart.pluginData (hf : Apart f) (d : Document) : (f d).pluginData = d.pluginData := by
  have h : f d = (f d).aside d.notifications d.pluginData := hf d d.notifications d.pluginData
  rw [h]
  rfl

theorem Apart.comp (hg : Apart g) (hf : Apart f) : Apart fun d => g (f d) := by
  intro d notes data
  dsimp only
  rw [hf, hg]

theorem Apart.foldl {step : Document → β → Document} (h : ∀ b, Apart fun d => step d b) :
    ∀ items : List β, Apart fun d => items.foldl step d
  | [] => fun _ _ _ => rfl
  | b :: rest => (Apart.foldl h rest).comp (h b)

theorem apart_update (id : LayerId) (f : Layer → Layer) : Apart (·.update id f) := fun _ _ _ => rfl

theorem apart_updateChildren (p : Node) (f : List LayerId → List LayerId) : Apart (·.updateChildren p f) := by
  intro d notes data
  cases p <;> rfl

theorem apart_detach (id : LayerId) : Apart (·.detach id) := by
  intro d notes data
  have hp : (d.aside notes data).parentOf id = d.parentOf id := rfl
  show (d.aside notes data).detach id = (d.detach id).aside notes data
  rw [detach, detach, hp]
  cases d.parentOf id with
  | none => rfl
  | some p => exact (apart_update id _).comp (apart_updateChildren p _) d notes data

theorem apart_attach (p : Node) (id : LayerId) (place : List LayerId → List LayerId) : Apart (·.attach p id place) :=
  (apart_update id _).comp ((apart_updateChildren p place).comp (apart_detach id))

theorem apart_append (p : Node) (id : LayerId) : Apart (·.append p id) := apart_attach p id _

theorem apart_insert (p : Node) (index : Int) (id : LayerId) : Apart (·.insert p index id) := apart_attach p id _

theorem walkTo_aside : ∀ depth id, (d.aside notes data).walkTo depth id = d.walkTo depth id
  | 0, _ => rfl
  | depth + 1, id => by
    have hc : (d.aside notes data).childrenOf (.layer id) = d.childrenOf (.layer id) := rfl
    rw [walkTo, walkTo, hc, funext (walkTo_aside depth)]

theorem walk_aside (id : LayerId) : (d.aside notes data).walk id = d.walk id := walkTo_aside _ _

theorem all_aside : (d.aside notes data).all = d.all := by
  show d.pageChildren.flatMap _ = d.pageChildren.flatMap _
  rw [funext walk_aside]

theorem apart_markRemoved (ids : List LayerId) : Apart (·.markRemoved ids) :=
  .foldl (fun id => apart_update id _) ids

theorem apart_remove (id : LayerId) : Apart (·.remove id) := by
  intro d notes data
  have hd : (d.aside notes data).detach id = (d.detach id).aside notes data := apart_detach id d notes data
  show ((d.aside notes data).detach id).markRemoved (((d.aside notes data).detach id).walk id) = (d.remove id).aside notes data
  rw [hd, walk_aside]
  exact apart_markRemoved _ (d.detach id) notes data

theorem apart_removeLive (id : LayerId) : Apart fun d => if d.isRemoved id then d else d.remove id := by
  intro d notes data
  have hr : (d.aside notes data).isRemoved id = d.isRemoved id := rfl
  dsimp only
  rw [hr]
  split
  · rfl
  · exact apart_remove id d notes data

theorem apart_hang (p : Node) (ids : List LayerId) : Apart (·.hang p ids) := .foldl (fun id => apart_append p id) ids

theorem apart_gather (g : LayerId) (ids : List LayerId) (p : Node) : Apart (·.gather g ids p) := by
  intro d notes data
  have hc : (d.aside notes data).childrenOf p = d.childrenOf p := by cases p <;> rfl
  show (d.aside notes data).gather g ids p = (d.gather g ids p).aside notes data
  rw [gather, gather, hc]
  exact (apart_hang (.layer g) ids).comp (apart_insert p _ g) d notes data

theorem apart_dissolve (g : LayerId) (p : Node) : Apart (·.dissolve g p) := by
  intro d notes data
  have hc : (d.aside notes data).childrenOf p = d.childrenOf p := by cases p <;> rfl
  have hg : (d.aside notes data).childrenOf (.layer g) = d.childrenOf (.layer g) := rfl
  show (d.aside notes data).dissolve g p = (d.dissolve g p).aside notes data
  rw [dissolve, dissolve, hc, hg]
  exact (apart_remove g).comp (.foldl (fun b : LayerId × Nat => apart_insert p _ b.1) _) d notes data

theorem apart_addFont (family style : String) : Apart (·.addFont family style) := by
  intro d notes data
  cases h : d.fonts.contains (family, style) <;> simp only [addFont, aside, h] <;> rfl

end Document

end Easel
