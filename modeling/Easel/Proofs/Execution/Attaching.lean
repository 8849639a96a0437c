import Easel.Proofs.Document.Copies
import Easel.Proofs.Execution.Completion

/-!
Where new layers are hung. A reference to a parent is read on the page as it was before; a layer and its copies are made first and
hung then, one for each parent that was found.
-/

namespace Easel

open Document

variable {α β : Type} {P P' : Document → Prop} {Q : α → Document → Prop} {d d₁ d' : Document} {look : Look} {t : Execution.Task}
  {ref : String} {n x : Nat} {parents : List Nat} {hung : List (Node × Nat)}

/-! ### What a reference means -/

namespace Document

/-- The layer on the page of that number, or else all whose names fit, best first. -/
def referred (d : Document) (ref : String) : List LayerId :=
  match d.all.find? (LayerId.text · = ref) with
  | some id => [id]
  | none => Lookup.ranked d d.all ref

/-- The parents that an action asks for. -/
def parentsOf (d : Document) (args : Fields) : List LayerId :=
  match Lookup.wanted? (args.value "parentId") with
  | some ref => d.referred ref
  | none => []

theorem mem_ranked {ids : List Nat} (h : x ∈ Lookup.ranked d ids ref) : x ∈ ids :=
  List.mem_of_mem_filter (List.mem_mergeSort.1 h)

theorem nodup_ranked {ids : List Nat} (h : ids.Nodup) : (Lookup.ranked d ids ref).Nodup :=
  (List.mergeSort_perm _ _).nodup_iff.2 (h.filter _)

/-- The names of the layers at hand are all that the ranking looks at. -/
theorem ranked_congr {ids : List Nat} (h : ∀ x ∈ ids, d'.nameOf x = d.nameOf x) :
    Lookup.ranked d' ids ref = Lookup.ranked d ids ref := by
  have hfilter : ids.filter (fun x => Lookup.matchesName (Text.lower ref.toList) (d'.nameOf x)) =
      ids.filter fun x => Lookup.matchesName (Text.lower ref.toList) (d.nameOf x) :=
    List.filter_congr fun x hx => by rw [h x hx]
  unfold Lookup.ranked
  dsimp only
  rw [hfilter, ← List.map_id (List.mergeSort _ _)]
  refine (List.map_mergeSort fun x hx y hy => ?_).trans (by rw [List.map_id])
  rw [id, id, h x (List.mem_of_mem_filter hx), h y (List.mem_of_mem_filter hy)]

theorem mem_referred (h : x ∈ d.referred ref) : x ∈ d.all := by
  unfold referred at h
  split at h
  · rename_i id hid
    rw [List.mem_singleton.1 h]
    exact List.mem_of_find?_eq_some hid
  · exact mem_ranked h

theorem mem_parentsOf {args : Fields} (h : x ∈ d.parentsOf args) : x ∈ d.all := by
  unfold parentsOf at h
  split at h
  · exact mem_referred h
  · cases h

theorem nodup_parentsOf (hl : d.Linked) (args : Fields) : (d.parentsOf args).Nodup := by
  unfold parentsOf
  split
  · unfold referred
    split
    · exact List.nodup_singleton _
    · exact nodup_ranked (nodup_all hl)
  · exact .nil

/-- The new layer is not on the page yet, so it is no parent of its own. -/
theorem Copied.referred (h : d.Copied look n d') (hl : d.Linked) : d'.referred ref = d.referred ref := by
  have hname (x : Nat) (hx : x ∈ d.all) : d'.nameOf x = d.nameOf x := h.nameOf ((mem_all hl).1 hx).lt
  rw [Document.referred, Document.referred, h.all hl, ranked_congr hname]

end Document

/-! ### Calls of the host -/

namespace Host.Completes

theorem listed : Completes P Host.findAll fun ids d => P d ∧ ids = d.all :=
  .bind (.enter (by decide)) fun _ => .bind .view fun d => .pure fun _ h => ⟨h.1, h.2 ▸ rfl⟩

/-- The layer on the page of that number, if there is one. -/
theorem numbered {v : Json} (hw : Lookup.wanted? v = some ref) :
    Completes P (Lookup.byId v) fun found d => P d ∧ found = d.all.find? (LayerId.text · = ref) := by
  unfold Lookup.byId
  simp only [hw]
  exact .bind .listed fun ids => .pure fun d h => ⟨h.1, h.2 ▸ rfl⟩

/-- Names count where no layer has that number. -/
theorem named {v : Json} (hw : Lookup.wanted? v = some ref) :
    Completes (fun d => P d ∧ none = d.all.find? (LayerId.text · = ref)) (Lookup.byName v) fun ids d => P d ∧ ids = d.referred ref := by
  unfold Lookup.byName
  simp only [hw]
  refine .bind .listed fun ids => .bind .view fun d => .pure ?_
  rintro d' ⟨⟨⟨hp, hnone⟩, rfl⟩, rfl⟩
  refine ⟨hp, ?_⟩
  rw [Document.referred, ← hnone]

theorem parent (hw : Lookup.wanted? (.str ref) = some ref) :
    Completes P (Lookup.parent (.str ref)) fun found d =>
      P d ∧ ((found.map Lookup.Match.ids).getD [] = d.referred ref ∧ ∀ m, found = some m → m.ids ≠ []) := by
  unfold Lookup.parent
  refine .bind (numbered hw) fun found => ?_
  split
  · rename_i id
    refine .pure fun d h => ⟨h.1, ?_, ?_⟩
    · rw [Document.referred, ← h.2]
      rfl
    · rintro m hm
      cases hm
      exact List.cons_ne_nil _ _
  · refine .bind (named hw) fun ids => ?_
    split
    · exact .pure fun d h => ⟨h.1, h.2, nofun⟩
    · rename_i ids hne
      refine .pure fun d h => ⟨h.1, h.2, ?_⟩
      rintro m hm
      cases hm
      exact hne

/-- A copy of a layer that has nothing below it is one more like it. -/
theorem clone_copied : Completes (d.Copied look (n + 1)) (Host.clone d.layers.length) fun twin d' =>
    d.Copied look (n + 2) d' ∧ twin = d.layers.length + (n + 1) := by
  refine .bind .view fun d₁ => .intro ?_
  rintro d₁ ⟨h, rfl⟩
  have hlength : d₁.layers.length = d.layers.length + n + 1 := h.length
  have hlayer : d₁.layer? d.layers.length = some { look } := h.layer?_copy (Nat.succ_pos n)
  have hno : d₁.childrenOf (.layer d.layers.length) = [] := by
    rw [childrenOf, hlayer]
    rfl
  rw [hlength, Host.cloneTo]
  refine .bind .view fun d₂ => .intro ?_
  rintro d₂ ⟨rfl, rfl⟩
  rw [hlayer]
  dsimp only
  rw [hno]
  refine .bind (.create (Q := fun twin d' => d.Copied look (n + 2) d' ∧ twin = d.layers.length + (n + 1)) ?_) fun twin =>
    .bind (.pure fun _ h => h) fun _ => .pure fun _ h => h
  rintro d₂ rfl
  exact ⟨h.create, hlength⟩

end Host.Completes

/-! ### Hanging the copies -/

namespace Execution

/-- `d'` is what comes of `d` when one layer for each of `parents` is made and hung. -/
def Attached (d : Document) (parents : List LayerId) (look : Look) (d' : Document) : Prop :=
  ∃ d₁, d.Copied look (d.homes parents).length d₁ ∧ d₁.Hung ((d.homes parents).zipIdx d.layers.length) d'

/-- Beside the new layer there are `twins` of it, numbered on from it. -/
def Twinned (d : Document) (look : Look) (twins : List LayerId) (d' : Document) : Prop :=
  d.Copied look (twins.length + 1) d' ∧ twins = List.range' (d.layers.length + 1) twins.length

namespace Completes

theorem append_hung (h₁ : d₁.parentOf x = none) (hx : homeIn hung x = none) (p : Node) :
    Completes (d₁.Hung hung) (liftM (Host.edit (·.append p x))) fun _ => d₁.Hung (hung ++ [(p, x)]) := by
  refine .call (.edit fun d' h => h.append ?_ p)
  rw [h.parentOf, hx]
  exact h₁

theorem attachOne_hung (hung : List (Node × Nat)) {parent copy : Nat} (hc : d₁.isContainer (.layer parent) = d.isContainer (.layer parent))
    (hlive : d₁.isRemoved parent = false) (h₁ : d₁.parentOf copy = none) (hcopy : homeIn hung copy = none) :
    Completes (d₁.Hung hung) (attachOne parent copy) fun _ => d₁.Hung (hung ++ [(d.home parent, copy)]) := by
  refine .bind .view fun d' => .intro ?_
  rintro d' ⟨h, rfl⟩
  have hcond : (d'.isContainer (.layer parent) && !d'.isRemoved parent) = d.isContainer (.layer parent) := by
    rw [h.isContainer, h.isRemoved, hc, hlive, Bool.not_false, Bool.and_true]
  have hhang (p : Node) : Completes (fun d₂ => d₂ = d') (liftM (Host.edit (·.append p copy))) fun _ => d₁.Hung (hung ++ [(p, copy)]) :=
    (append_hung h₁ hcopy p).mono (fun _ he => he ▸ h) fun _ _ h => h
  rw [hcond, home]
  split
  · exact hhang _
  · exact .bind (hhang .page) fun _ => .emit

/-- The copies are hung in the order of the parents. -/
theorem attachEach_hung (done : List Nat) (h₁ : ∀ p ∈ parents, d₁.isContainer (.layer p) = d.isContainer (.layer p) ∧ d₁.isRemoved p = false)
    (hloose : ∀ x, d.layers.length ≤ x → d₁.parentOf x = none) :
    Completes (d₁.Hung ((done.map d.home).zipIdx d.layers.length))
      ((parents.zipIdx (d.layers.length + done.length)).forM fun hung => attachOne hung.1 hung.2)
      fun _ => d₁.Hung (((done ++ parents).map d.home).zipIdx d.layers.length) := by
  induction parents generalizing done with
  | nil =>
    rw [List.append_nil]
    exact .pure fun _ h => h
  | cons p rest ih =>
    rw [List.zipIdx_cons]
    obtain ⟨hc, hlive⟩ := h₁ p List.mem_cons_self
    have hone := attachOne_hung ((done.map d.home).zipIdx d.layers.length) hc hlive
      (hloose (d.layers.length + done.length) (Nat.le_add_right _ _)) (homeIn_zipIdx_eq_none (.inr (by rw [List.length_map])))
    have hrest := ih (done ++ [p]) fun q hq => h₁ q (List.mem_cons_of_mem _ hq)
    rw [List.map_append, List.zipIdx_append, List.length_map, List.length_append, List.append_assoc] at hrest
    exact .bind hone fun _ => hrest

/-- Each copy is one more layer of the same look. -/
theorem twins_copied (items : List Nat) : Completes (d.Copied look 1) (items.mapM fun _ => (liftM (Host.clone d.layers.length) : Handler LayerId))
    fun twins d' => d.Copied look (items.length + 1) d' ∧ twins = List.range' (d.layers.length + 1) items.length := by
  refine (Completes.mapM (Twinned d look) (fun done item => ?_) items).mono (fun d' h => ⟨h, rfl⟩) fun twins d' h => ?_
  · refine .intro fun d' h => (Completes.call .clone_copied).mono (fun d₂ he => he ▸ h.1) fun twin d₂ h₂ => ?_
    have htwins : done ++ [twin] = List.range' (d.layers.length + 1) (done.length + 1) := by
      rw [List.range'_concat, ← h.2, h₂.2, Nat.one_mul, Nat.add_right_comm, Nat.add_assoc]
    have hlength : (done ++ [twin]).length = done.length + 1 := List.length_append
    exact ⟨by rw [hlength]; exact h₂.1, by rw [hlength]; exact htwins⟩
  · rw [← h.2]
    exact h.1

theorem homes_of_ne_nil (h : parents ≠ []) : d.homes parents = parents.map d.home := by
  rw [homes, if_neg (by simpa using h)]

theorem attach_attached (hs : d.Sound) : Completes (d.Copied look 1) (attach t d.layers.length)
    fun _ => Attached d (d.parentsOf t.args) look := by
  have hroot : Completes (d.Copied look 1) (liftM (Host.edit (·.append .page d.layers.length))) fun _ => Attached d [] look := by
    refine .call (.edit fun d' h => ⟨d', h, Hung.refl.append ?_ .page⟩)
    rw [h.parentOf, Document.parentOf, layer?_length]
    rfl
  refine .bind (.call (.enter (by decide))) fun _ => ?_
  split
  · rename_i hnone
    have hnone : Lookup.wanted? (t.args.value "parentId") = none := hnone
    rw [parentsOf, hnone]
    exact .bind hroot fun _ => .pure fun _ h => h
  · rename_i ref href
    have href : Lookup.wanted? (t.args.value "parentId") = some ref := href
    have hw : Lookup.wanted? (.str ref) = some ref := by
      simpa [Lookup.wanted?, Json.string?] using (Option.filter_eq_some_iff.1 href).2
    rw [parentsOf, href]
    dsimp only
    refine .bind (.call (.parent hw)) fun found => .intro fun d' h => ?_
    rw [h.1.referred hs.linked] at h
    obtain ⟨h, hids, hne⟩ := h
    split
    · rw [← hids]
      exact .bind (hroot.mono (fun _ he => he ▸ h) fun _ _ h => h) fun _ => .bind .emit fun _ => .pure fun _ h => h
    · rename_i found
      have hids : found.ids = d.referred ref := hids
      have hne : found.ids ≠ [] := hne found rfl
      have hlength : found.ids.tail.length + 1 = found.ids.length := by
        rw [List.length_tail]
        have := List.length_pos_iff.2 hne
        omega
      refine .bind ((twins_copied found.ids.tail).mono (fun _ he => he ▸ h) fun _ _ h => h) fun twins => .intro fun d₁ h₁ => ?_
      rw [hlength] at h₁
      obtain ⟨h₁, rfl⟩ := h₁
      -- The copies are numbered on from the layer itself, one for each parent.
      have hzip : found.ids.zip (d.layers.length :: List.range' (d.layers.length + 1) found.ids.tail.length) =
          found.ids.zipIdx d.layers.length := by
        rw [List.zipIdx_eq_zip_range', ← hlength, List.range'_succ]
      have hparents (p : Nat) (hp : p ∈ found.ids) :
          d₁.isContainer (.layer p) = d.isContainer (.layer p) ∧ d₁.isRemoved p = false := by
        have hpage : d.OnPage p := (mem_all hs.linked).1 (mem_referred (hids ▸ hp))
        exact ⟨h₁.isContainer hpage.lt, by rw [h₁.isRemoved, hs.live_of_onPage hpage]⟩
      have hloose (x : Nat) (hx : d.layers.length ≤ x) : d₁.parentOf x = none := by
        rw [h₁.parentOf, Document.parentOf, layer?, List.getElem?_eq_none hx]
        rfl
      have heach := attachEach_hung [] hparents hloose
      have hall : Completes (fun d' => d' = d₁) ((found.ids.zipIdx d.layers.length).forM fun hung => attachOne hung.1 hung.2)
          fun _ => Attached d found.ids look := by
        refine heach.mono (fun _ he => he ▸ .refl) fun _ d' h' => ⟨d₁, ?_, ?_⟩
        · rw [length_homes, Nat.max_eq_right (List.length_pos_iff.2 hne)]
          exact h₁
        · rw [homes_of_ne_nil hne]
          exact h'
      rw [← hids, hzip]
      refine .bind hall fun _ => ?_
      split
      · exact .bind .emit fun _ => .pure fun _ h => h
      · exact .pure fun _ h => h

theorem focus_attached (ids : List LayerId) : Completes (Attached d parents look) (focus ids) fun _ => Attached d parents look := by
  have hsame {nodes : List Node} : Completes (Attached d parents look) (liftM (Host.setSelection nodes)) fun _ => Attached d parents look :=
    .call (.bind (.enter (by decide)) fun _ => .edit fun d' ⟨d₁, h₁, h⟩ => ⟨d₁, h₁, h.length, h.layer, h.page⟩)
  exact .bind hsame fun _ => .call (.bind (.enter (by decide)) fun _ => .edit fun d' ⟨d₁, h₁, h⟩ => ⟨d₁, h₁, h.length, h.layer, h.page⟩)

theorem finish_attached (hs : d.Sound) : Completes (d.Copied look 1) (finish t d.layers.length)
    fun _ => Attached d (d.parentsOf t.args) look := by
  refine .bind (attach_attached hs) fun created => ?_
  split
  · exact focus_attached created
  · exact .pure fun _ h => h

end Completes

end Execution

end Easel
