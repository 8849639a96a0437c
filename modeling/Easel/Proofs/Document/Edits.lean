import Easel.Document.Basic
import Mathlib.Data.List.Basic
import Mathlib.Tactic.Common

/-!
What the edits of a document do to the parents, the children and the marks of its layers. Nothing beyond this file opens an
edit.
-/

namespace Easel.Document

variable {d : Document} {p c : Node} {id x : Nat}

/-- The page, or a layer that was made. -/
def has (d : Document) : Node → Prop
  | .page => True
  | .layer id => id < d.layers.length

/-- What is hung below a removed layer is lost; nothing is lost below the page. -/
def isGone (d : Document) : Node → Bool
  | .page => false
  | .layer id => d.isRemoved id

def kindOf (d : Document) (id : LayerId) : Option Kind :=
  (d.layer? id).map (·.kind)

theorem isContainer_layer : d.isContainer (.layer id) = (d.kindOf id).any Kind.isContainer := by
  rw [isContainer, kindOf]
  cases d.layer? id <;> rfl

theorem isContainer_congr {d' : Document} (h : ∀ x, d'.kindOf x = d.kindOf x) : d'.isContainer c = d.isContainer c := by
  cases c with
  | page => rfl
  | layer x => rw [isContainer_layer, isContainer_layer, h]

theorem layer?_update (d : Document) (id x : LayerId) (f : Layer → Layer) :
    (d.update id f).layer? x = (d.layer? x).map fun l => if x = id then f l else l := by
  show (d.layers.modify id f)[x]? = _
  rw [List.getElem?_modify]
  by_cases h : id = x
  · subst h; simp [layer?]
  · simp [layer?, h, Ne.symm h]

section Update

variable {f : Layer → Layer}

theorem parentOf_update (hf : ∀ l, (f l).parent = l.parent) : (d.update id f).parentOf x = d.parentOf x := by
  rw [parentOf, parentOf, layer?_update]
  cases d.layer? x with
  | none => rfl
  | some l => by_cases h : x = id <;> simp [h, hf]

theorem childrenOf_update (hf : ∀ l, (f l).children = l.children) : (d.update id f).childrenOf c = d.childrenOf c := by
  cases c with
  | page => rfl
  | layer x =>
    rw [childrenOf, childrenOf, layer?_update]
    cases d.layer? x with
    | none => rfl
    | some l => by_cases h : x = id <;> simp [h, hf]

theorem isRemoved_update (hf : ∀ l, (f l).removed = l.removed) : (d.update id f).isRemoved x = d.isRemoved x := by
  rw [isRemoved, isRemoved, layer?_update]
  cases d.layer? x with
  | none => rfl
  | some l => by_cases h : x = id <;> simp [h, hf]

theorem kindOf_update (hf : ∀ l, (f l).kind = l.kind) : (d.update id f).kindOf x = d.kindOf x := by
  rw [kindOf, kindOf, layer?_update]
  cases d.layer? x with
  | none => rfl
  | some l => by_cases h : x = id <;> simp [h, hf]

@[simp] theorem length_update : (d.update id f).layers.length = d.layers.length := by simp [update]

@[simp] theorem selection_update : (d.update id f).selection = d.selection := rfl

end Update

section UpdateChildren

variable {f : List LayerId → List LayerId}

@[simp] theorem parentOf_updateChildren : (d.updateChildren p f).parentOf x = d.parentOf x := by
  cases p with
  | page => rfl
  | layer => exact parentOf_update fun _ => rfl

@[simp] theorem isRemoved_updateChildren : (d.updateChildren p f).isRemoved x = d.isRemoved x := by
  cases p with
  | page => rfl
  | layer => exact isRemoved_update fun _ => rfl

@[simp] theorem kindOf_updateChildren : (d.updateChildren p f).kindOf x = d.kindOf x := by
  cases p with
  | page => rfl
  | layer => exact kindOf_update fun _ => rfl

@[simp] theorem length_updateChildren : (d.updateChildren p f).layers.length = d.layers.length := by
  cases p <;> simp [updateChildren]

@[simp] theorem selection_updateChildren : (d.updateChildren p f).selection = d.selection := by
  cases p <;> rfl

theorem childrenOf_updateChildren_ne (h : c ≠ p) : (d.updateChildren p f).childrenOf c = d.childrenOf c := by
  cases p with
  | page =>
    cases c with
    | page => exact absurd rfl h
    | layer => rfl
  | layer id =>
    cases c with
    | page => rfl
    | layer x =>
      have hx : x ≠ id := fun e => h (congrArg Node.layer e)
      rw [updateChildren, childrenOf, childrenOf, layer?_update]
      simp [hx]

theorem childrenOf_updateChildren_self (h : d.has p) : (d.updateChildren p f).childrenOf p = f (d.childrenOf p) := by
  cases p with
  | page => rfl
  | layer id =>
    obtain ⟨l, hl⟩ : ∃ l, d.layer? id = some l := ⟨_, List.getElem?_eq_getElem h⟩
    rw [updateChildren, childrenOf, childrenOf, layer?_update]
    simp [hl]

end UpdateChildren

theorem parentOf_setParent {q : Option Node} (h : id < d.layers.length) :
    (d.update id fun l => { l with parent := q }).parentOf x = if x = id then q else d.parentOf x := by
  rw [parentOf, parentOf, layer?_update]
  by_cases hx : x = id
  · subst hx
    obtain ⟨l, hl⟩ : ∃ l, d.layer? x = some l := ⟨_, List.getElem?_eq_getElem h⟩
    simp [hl]
  · cases d.layer? x <;> simp [hx]

section Marks

variable {q : Option Node} {b : Bool}

@[simp] theorem childrenOf_setParent :
    (d.update id fun l => { l with parent := q }).childrenOf c = d.childrenOf c :=
  childrenOf_update fun _ => rfl

@[simp] theorem isRemoved_setParent :
    (d.update id fun l => { l with parent := q }).isRemoved x = d.isRemoved x :=
  isRemoved_update fun _ => rfl

@[simp] theorem kindOf_setParent :
    (d.update id fun l => { l with parent := q }).kindOf x = d.kindOf x :=
  kindOf_update fun _ => rfl

@[simp] theorem parentOf_setRemoved :
    (d.update id fun l => { l with removed := b }).parentOf x = d.parentOf x :=
  parentOf_update fun _ => rfl

@[simp] theorem childrenOf_setRemoved :
    (d.update id fun l => { l with removed := b }).childrenOf c = d.childrenOf c :=
  childrenOf_update fun _ => rfl

@[simp] theorem kindOf_setRemoved :
    (d.update id fun l => { l with removed := b }).kindOf x = d.kindOf x :=
  kindOf_update fun _ => rfl

end Marks

theorem lt_of_parentOf (h : d.parentOf id = some p) : id < d.layers.length := by
  by_contra hn
  rw [parentOf, layer?, List.getElem?_eq_none (by omega)] at h
  cases h

/-! ### Taking a layer from where it hangs -/

theorem parentOf_detach : (d.detach id).parentOf x = if x = id then none else d.parentOf x := by
  unfold detach
  split
  · rename_i hp
    split
    · rename_i hx; rw [hx, hp]
    · rfl
  · rename_i p hp
    rw [parentOf_setParent (by simpa using lt_of_parentOf hp), parentOf_updateChildren]

theorem childrenOf_detach : (d.detach id).childrenOf c =
    if d.parentOf id = some c then (d.childrenOf c).erase id else d.childrenOf c := by
  unfold detach
  split
  · rename_i hp
    rw [if_neg (by rw [hp]; simp)]
  · rename_i p hp
    rw [childrenOf_setParent, hp]
    by_cases hc : c = p
    · subst hc
      rw [if_pos rfl]
      by_cases hh : d.has c
      · exact childrenOf_updateChildren_self hh
      · cases c with
        | page => exact absurd trivial hh
        | layer k =>
          have hnone : d.layer? k = none := List.getElem?_eq_none (by simpa [has] using hh)
          rw [updateChildren, childrenOf, childrenOf, layer?_update]
          simp [hnone]
    · rw [if_neg (by simpa using Ne.symm hc), childrenOf_updateChildren_ne hc]

@[simp] theorem isRemoved_detach : (d.detach id).isRemoved x = d.isRemoved x := by
  unfold detach
  split
  · rfl
  · simp

@[simp] theorem kindOf_detach : (d.detach id).kindOf x = d.kindOf x := by
  unfold detach
  split
  · rfl
  · simp

@[simp] theorem length_detach : (d.detach id).layers.length = d.layers.length := by
  unfold detach
  split <;> simp

@[simp] theorem selection_detach : (d.detach id).selection = d.selection := by
  unfold detach
  split <;> simp

/-! ### Hanging a layer somewhere -/

section Attach

variable {place : List LayerId → List LayerId}

theorem parentOf_attach (h : id < d.layers.length) :
    (d.attach p id place).parentOf x = if x = id then some p else d.parentOf x := by
  rw [attach, parentOf_setParent (by simpa using h), parentOf_updateChildren, parentOf_detach]
  split <;> rfl

theorem childrenOf_attach_self (h : d.has p) :
    (d.attach p id place).childrenOf p = place ((d.detach id).childrenOf p) := by
  have h' : (d.detach id).has p := by
    cases p with
    | page => trivial
    | layer k => simpa [has] using h
  rw [attach, childrenOf_setParent, childrenOf_updateChildren_self h']

theorem childrenOf_attach_ne (h : c ≠ p) : (d.attach p id place).childrenOf c = (d.detach id).childrenOf c := by
  rw [attach, childrenOf_setParent, childrenOf_updateChildren_ne h]

@[simp] theorem isRemoved_attach : (d.attach p id place).isRemoved x = d.isRemoved x := by simp [attach]

@[simp] theorem kindOf_attach : (d.attach p id place).kindOf x = d.kindOf x := by simp [attach]

@[simp] theorem length_attach : (d.attach p id place).layers.length = d.layers.length := by simp [attach]

@[simp] theorem selection_attach : (d.attach p id place).selection = d.selection := by simp [attach]

end Attach

/-! ### New layers -/

section Create

variable {look : Look}

theorem layer?_create : (d.create look).2.layer? x = if x = d.layers.length then some { look } else d.layer? x := by
  show (d.layers ++ [({ look } : Layer)])[x]? = _
  by_cases hx : x < d.layers.length
  · rw [List.getElem?_append_left hx, if_neg (by omega)]; rfl
  · by_cases he : x = d.layers.length
    · subst he; simp
    · rw [if_neg he, layer?, List.getElem?_eq_none (by simp; omega), List.getElem?_eq_none (by omega)]

theorem layer?_length : d.layer? d.layers.length = none := List.getElem?_eq_none (Nat.le_refl _)

@[simp] theorem parentOf_create : (d.create look).2.parentOf x = d.parentOf x := by
  rw [parentOf, parentOf, layer?_create]
  split
  · rename_i hx; rw [hx, layer?_length]; rfl
  · rfl

@[simp] theorem childrenOf_create : (d.create look).2.childrenOf c = d.childrenOf c := by
  cases c with
  | page => rfl
  | layer x =>
    rw [childrenOf, childrenOf, layer?_create]
    split
    · rename_i hx; rw [hx, layer?_length]; rfl
    · rfl

@[simp] theorem isRemoved_create : (d.create look).2.isRemoved x = d.isRemoved x := by
  rw [isRemoved, isRemoved, layer?_create]
  split
  · rename_i hx; rw [hx, layer?_length]; rfl
  · rfl

theorem kindOf_create (h : x < d.layers.length) : (d.create look).2.kindOf x = d.kindOf x := by
  rw [kindOf, kindOf, layer?_create, if_neg (Nat.ne_of_lt h)]

theorem kindOf_create_length : (d.create look).2.kindOf d.layers.length = some look.kind := by
  rw [kindOf, layer?_create, if_pos rfl]
  rfl

@[simp] theorem length_create : (d.create look).2.layers.length = d.layers.length + 1 := by simp [create]

@[simp] theorem selection_create : (d.create look).2.selection = d.selection := rfl

end Create

/-! ### Marks -/

theorem isRemoved_markRemoved (ids : List LayerId) :
    (d.markRemoved ids).isRemoved x = (d.isRemoved x || (decide (x ∈ ids) && decide (x < d.layers.length))) := by
  induction ids generalizing d with
  | nil => simp [markRemoved]
  | cons id rest ih =>
    show ((d.update id fun l => { l with removed := true }).markRemoved rest).isRemoved x = _
    rw [ih, length_update, isRemoved, isRemoved, layer?_update]
    by_cases hx : x < d.layers.length
    · obtain ⟨l, hl⟩ : ∃ l, d.layer? x = some l := ⟨_, List.getElem?_eq_getElem hx⟩
      by_cases he : x = id
      · subst he; simp [hl, hx]
      · simp [hl, he]
    · have hnone : d.layer? x = none := List.getElem?_eq_none (by omega)
      simp [hnone, hx]

theorem markRemoved_induction {motive : Document → Prop} (ids : List LayerId) (h : motive d)
    (hs : ∀ d id, motive d → motive (d.update id fun l => { l with removed := true })) :
    motive (d.markRemoved ids) := by
  induction ids generalizing d with
  | nil => exact h
  | cons id rest ih => exact ih (hs d id h)

@[simp] theorem parentOf_markRemoved (ids : List LayerId) : (d.markRemoved ids).parentOf x = d.parentOf x :=
  markRemoved_induction (motive := fun d' => d'.parentOf x = d.parentOf x) ids rfl
    fun _ _ h => parentOf_setRemoved.trans h

@[simp] theorem childrenOf_markRemoved (ids : List LayerId) : (d.markRemoved ids).childrenOf c = d.childrenOf c :=
  markRemoved_induction (motive := fun d' => d'.childrenOf c = d.childrenOf c) ids rfl
    fun _ _ h => childrenOf_setRemoved.trans h

@[simp] theorem kindOf_markRemoved (ids : List LayerId) : (d.markRemoved ids).kindOf x = d.kindOf x :=
  markRemoved_induction (motive := fun d' => d'.kindOf x = d.kindOf x) ids rfl
    fun _ _ h => kindOf_setRemoved.trans h

@[simp] theorem length_markRemoved (ids : List LayerId) : (d.markRemoved ids).layers.length = d.layers.length :=
  markRemoved_induction (motive := fun d' => d'.layers.length = d.layers.length) ids rfl
    fun _ _ h => length_update.trans h

@[simp] theorem selection_markRemoved (ids : List LayerId) : (d.markRemoved ids).selection = d.selection :=
  markRemoved_induction (motive := fun d' => d'.selection = d.selection) ids rfl fun _ _ h => h

/-! ### Looks -/

/-- What the layers look like, in the order of creation. -/
def looks (d : Document) : List Look :=
  d.layers.map (·.look)

theorem looks_update {f : Layer → Layer} (hf : ∀ l, (f l).look = l.look) : (d.update id f).looks = d.looks := by
  refine List.ext_getElem? fun i => ?_
  rw [looks, looks, List.getElem?_map, List.getElem?_map, update, List.getElem?_modify]
  cases d.layers[i]? with
  | none => rfl
  | some l => by_cases h : id = i <;> simp [h, hf]

theorem looks_updateLook {f : Look → Look} : (d.updateLook id f).looks = d.looks.modify id f := by
  refine List.ext_getElem? fun i => ?_
  rw [looks, looks, List.getElem?_map, List.getElem?_modify, List.getElem?_map, updateLook, update, List.getElem?_modify]
  cases d.layers[i]? with
  | none => rfl
  | some l => by_cases h : id = i <;> simp [h]

@[simp] theorem looks_create {look : Look} : (d.create look).2.looks = d.looks ++ [look] := by simp [looks, create]

@[simp] theorem looks_updateChildren {f : List LayerId → List LayerId} : (d.updateChildren p f).looks = d.looks := by
  cases p with
  | page => rfl
  | layer => exact looks_update fun _ => rfl

@[simp] theorem looks_setParent {q : Option Node} : (d.update id fun l => { l with parent := q }).looks = d.looks :=
  looks_update fun _ => rfl

@[simp] theorem looks_setRemoved {b : Bool} : (d.update id fun l => { l with removed := b }).looks = d.looks :=
  looks_update fun _ => rfl

@[simp] theorem looks_detach : (d.detach id).looks = d.looks := by
  unfold detach
  split
  · rfl
  · simp

@[simp] theorem looks_attach {place : List LayerId → List LayerId} : (d.attach p id place).looks = d.looks := by
  simp [attach]

theorem looks_foldl {f : Document → α → Document} (hf : ∀ d a, (f d a).looks = d.looks) (items : List α) :
    (items.foldl f d).looks = d.looks :=
  List.foldlRecOn (motive := fun d' : Document => d'.looks = d.looks) items f rfl fun d' h a _ => (hf d' a).trans h

@[simp] theorem looks_remove : (d.remove id).looks = d.looks :=
  (looks_foldl (fun _ _ => looks_setRemoved) _).trans looks_detach

@[simp] theorem looks_gather {g : LayerId} {ids : List LayerId} : (d.gather g ids p).looks = d.looks :=
  (looks_foldl (fun _ _ => looks_attach) ids).trans looks_attach

@[simp] theorem looks_dissolve {g : LayerId} : (d.dissolve g p).looks = d.looks :=
  looks_remove.trans (looks_foldl (fun _ _ => looks_attach) _)

/-! ### What is beside the layers -/

/-- The document without its layers: what the editor keeps beside them. -/
def beside (d : Document) : Document :=
  { d with pageChildren := [], layers := [] }

theorem selection_of_beside {d' : Document} (h : d'.beside = d.beside) : d'.selection = d.selection := by
  have hselection := congrArg (fun d₀ : Document => d₀.selection) h
  exact hselection

@[simp] theorem beside_update {f : Layer → Layer} : (d.update id f).beside = d.beside := rfl

@[simp] theorem beside_updateChildren {f : List LayerId → List LayerId} : (d.updateChildren p f).beside = d.beside := by
  cases p <;> rfl

@[simp] theorem beside_detach : (d.detach id).beside = d.beside := by
  unfold detach
  split
  · rfl
  · simp

@[simp] theorem beside_attach {place : List LayerId → List LayerId} : (d.attach p id place).beside = d.beside := by simp [attach]

theorem beside_foldl {f : Document → α → Document} (hf : ∀ d a, (f d a).beside = d.beside) (items : List α) :
    (items.foldl f d).beside = d.beside :=
  List.foldlRecOn (motive := fun d' : Document => d'.beside = d.beside) items f rfl fun d' h a _ => (hf d' a).trans h

@[simp] theorem beside_remove : (d.remove id).beside = d.beside :=
  (beside_foldl (fun _ _ => beside_update) _).trans beside_detach

@[simp] theorem beside_gather {g : LayerId} {ids : List LayerId} : (d.gather g ids p).beside = d.beside :=
  (beside_foldl (fun _ _ => beside_attach) ids).trans beside_attach

@[simp] theorem beside_dissolve {g : LayerId} : (d.dissolve g p).beside = d.beside :=
  beside_remove.trans (beside_foldl (fun _ _ => beside_attach) _)

/-! ### One layer -/

/-- A layer of which nothing but the list of its children has changed. -/
theorem layer?_eq_map {d' : Document} {f : List LayerId → List LayerId} (hlook : d'.looks[x]? = d.looks[x]?)
    (hp : d'.parentOf x = d.parentOf x) (hr : d'.isRemoved x = d.isRemoved x)
    (hc : d'.childrenOf (.layer x) = f (d.childrenOf (.layer x))) :
    d'.layer? x = (d.layer? x).map fun l => { l with children := f l.children } := by
  simp only [looks, List.getElem?_map] at hlook
  simp only [parentOf, childrenOf, isRemoved, layer?] at hp hc hr ⊢
  cases hl : d.layers[x]? with
  | none => simpa [hl] using hlook
  | some l =>
    cases hl' : d'.layers[x]? with
    | none => simp [hl, hl'] at hlook
    | some l' =>
      rw [hl, hl'] at hlook hp hc hr
      cases l
      cases l'
      simp_all

/-- A layer is what it looks like, where it hangs, what hangs on it, and whether it is removed. -/
theorem layer?_eq {d' : Document} (hlook : d'.looks[x]? = d.looks[x]?) (hp : d'.parentOf x = d.parentOf x)
    (hc : d'.childrenOf (.layer x) = d.childrenOf (.layer x)) (hr : d'.isRemoved x = d.isRemoved x) : d'.layer? x = d.layer? x := by
  have hmap := layer?_eq_map (f := fun ids => ids) hlook hp hr hc
  rwa [Option.map_id'] at hmap

/-- A document is its layers, those of them on top of the page, and what is beside them. -/
theorem eq_of_beside {d' : Document} (hb : d'.beside = d.beside) (hp : d'.pageChildren = d.pageChildren)
    (hl : ∀ x, d'.layer? x = d.layer? x) : d' = d := by
  have hlayers : d'.layers = d.layers := List.ext_getElem? hl
  cases d
  cases d'
  simp only [beside, mk.injEq] at hb hp hlayers ⊢
  exact ⟨hb.1, hp, hlayers, hb.2.2.2⟩

end Easel.Document
