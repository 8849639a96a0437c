import Easel.Proofs.Execution.Turns

/-!
The parts that handlers share, and the handlers that make layers: all they make they hang on the page, unless a call fails before
they come to that.
-/

namespace Easel.Execution

open Document Host

variable {E P : Document → Prop} {lost : Nat → Prop} {L : List Nat} {d₀ : Document} {t : Task} {id : Nat}

theorem steady_grown : Steady (d₀.Grown lost L) := fun _ _ h hm => h.unmoved hm

namespace Does

theorem of_false {m : Handler α} {Q : α → Document → Prop} (h : ∀ d, ¬P d) : Does E P m Q :=
  fun _ hr => absurd hr.1 (h _)

theorem ifAlive {act : Handler Unit} {R : Document → Prop} (hlive : ∀ d, P d → d.isRemoved id = false)
    (h : Does E P act fun _ => R) : Does E P (ifAlive id act) fun _ => R := by
  refine .bind .view fun d => ?_
  split
  · rename_i hr
    refine .of_false ?_
    rintro d' ⟨hp, rfl⟩
    rw [hlive d hp] at hr
    cases hr
  · exact h.mono (fun _ hp => hp.1) fun _ _ h => h

theorem lookOf : Does E P (lookOf id) fun look d =>
    P d ∧ look = ((d.layer? id).map (·.look)).getD (Look.initial .group) := by
  refine .bind .view fun d => .pure ?_
  rintro d' ⟨hp, rfl⟩
  exact ⟨hp, rfl⟩

section Targets

variable (hE : ∀ d, P d → E d)

include hE

theorem requireTarget : Does E P (requireTarget t) fun id d => P d ∧ id ∈ d.all := by
  unfold Execution.requireTarget
  split
  · exact .refuse hE
  · refine .bind (.call (.target hE)) fun found => ?_
    split
    · exact .refuse fun d h => hE d h.1
    · exact .pure fun d h => ⟨h.1, h.2 _ rfl⟩

theorem requireTrait {trait : Look → Bool} : Does E P (requireTrait t trait id) fun id' d => P d ∧ id' = id := by
  refine .bind .lookOf fun look => ?_
  split
  · exact .pure fun d h => ⟨h.1, rfl⟩
  · exact .refuse fun d h => hE d h.1

end Targets

section Looks

variable (hP : Steady P)

include hP

theorem adjust {f : Look → Look} (hf : ∀ l, (f l).kind = l.kind) : Does E P (adjust id f) fun _ => P :=
  .edit fun d h => hP d _ h (.look hf)

omit hP in
theorem color : Does E P t.color fun _ => P := by
  unfold Task.color
  dsimp only
  split
  · exact .pure fun _ h => h
  · exact .bind (.emit (by simp [Event.code])) fun _ => .pure fun _ h => h

theorem place : Does E P (place t id) fun _ => P := adjust hP fun _ => rfl

theorem applyName : Does E P (applyName t id) fun _ => P := by
  unfold Execution.applyName
  split
  · exact .pure fun _ h => h
  · exact adjust hP fun _ => rfl

theorem applyFill : Does E P (applyFill t id) fun _ => P := by
  have hlook : Does E P (Execution.lookOf id) fun _ => P := lookOf.mono (fun _ h => h) fun _ _ h => h.1
  refine .bind hlook fun look => ?_
  split
  · exact .bind color fun c => adjust hP fun _ => rfl
  · exact .pure fun _ h => h

theorem applyCorner : Does E P (applyCorner t id) fun _ => P := by
  unfold Execution.applyCorner
  split
  · exact .pure fun _ h => h
  · exact adjust hP fun _ => rfl

end Looks

end Does

/-! ### Selecting -/

theorem mem_all_iff {d : Document} {x : Nat} (h : d₀.Grown lost L d) : x ∈ d.all ↔ d.OnPage x := mem_all h.sound.linked

theorem focus_does {ids : List Nat} :
    Does (d₀.Kept lost) (fun d => d₀.Grown lost L d ∧ (∀ id ∈ ids, d.OnPage id) ∧ ids.Nodup) (focus ids)
      fun _ => d₀.Grown lost L := by
  refine .bind (.call (.setSelection (fun d h => h.1.toKept) fun d h => h.1.select h.2.1 h.2.2)) fun _ => ?_
  exact .call (.zoomTo (fun d h => h.toKept) steady_grown)

theorem focus_one_does : Does (d₀.Kept lost) (fun d => d₀.Grown lost L d ∧ id ∈ d.all) (focus [id])
    fun _ => d₀.Grown lost L := by
  refine focus_does.mono (fun d h => ⟨h.1, fun y hy => ?_, List.nodup_singleton _⟩) fun _ _ h => h
  rw [List.mem_singleton.1 hy]
  exact (mem_all_iff h.1).1 h.2

/-! ### Creating -/

/-- A copy of a new layer is one more new layer. -/
theorem clone_turns {ids done : List Nat} :
    Turns (d₀.Kept lost) (fun d => d₀.Grown lost (id :: done) d ∧ ∀ y ∈ ids, d.OnPage y) (Host.clone id)
      fun twin d => d₀.Grown lost (id :: (done ++ [twin])) d ∧ ∀ y ∈ ids, d.OnPage y := by
  refine .bind .view fun d => .intro ?_
  rintro d' ⟨⟨h, hids⟩, rfl⟩
  have hg : d.Loose id := h.loose id List.mem_cons_self
  have hlt : id < d.layers.length := hg.lt
  obtain ⟨n, hn⟩ : ∃ n, d.layers.length = n + 1 := ⟨d.layers.length - 1, by omega⟩
  -- A layer that hangs nowhere yet has no children, so the copying ends with the layer itself.
  have hno : d.childrenOf (.layer id) = [] :=
    List.eq_nil_iff_forall_not_mem.2 fun y hy => hg.childless y (h.sound.linked.mem_iff.1 hy)
  rw [hn, Host.cloneTo]
  refine .bind .view fun d' => .intro ?_
  rintro d'' ⟨rfl, rfl⟩
  split
  · rename_i hl
    exact absurd hl (by rw [layer?, List.getElem?_eq_getElem hlt]; simp)
  · rename_i l hl
    rw [hno]
    refine .bind (.create (Q := fun twin d => d₀.Grown lost (id :: (done ++ [twin])) d ∧ ∀ y ∈ ids, d.OnPage y)
      (fun d he => he ▸ h.toKept) ?_) fun twin => .bind (.pure fun _ h => h) fun _ => .pure fun _ h => h
    rintro d'' rfl
    exact ⟨h.create, fun y hy => (under_of_same fun _ => parentOf_create).2 (hids y hy)⟩

/-- Of the layers `copies`, those still waiting in `rest` are to be hung, each below its parent. -/
def Hanging (lost : LayerId → Prop) (d₀ : Document) (copies : List LayerId) (rest : List (LayerId × LayerId))
    (d : Document) : Prop :=
  d₀.Grown lost (rest.map Prod.snd) d ∧ (∀ y ∈ rest.map Prod.fst, d.OnPage y) ∧
    ∀ y ∈ copies, y ∈ rest.map Prod.snd ∨ d.OnPage y

theorem attachOne_does {copies : List Nat} {parent copy : Nat} {rest : List (Nat × Nat)} :
    Does (d₀.Kept lost) (Hanging lost d₀ copies ((parent, copy) :: rest)) (attachOne parent copy)
      fun _ => Hanging lost d₀ copies rest := by
  -- Below the parent, or on the page if the parent is no container: either way the copy is on the page then.
  have hhang (p : Node) (d : Document) (h : Hanging lost d₀ copies ((parent, copy) :: rest) d) (hc : d.isContainer p)
      (hp : d.Under p .page) : Hanging lost d₀ copies rest (d.append p copy) := by
    obtain ⟨hgrown, hparents, hcopies⟩ := h
    have hhas : d.has p := by
      cases p with
      | page => trivial
      | layer k => exact OnPage.lt hp
    have hcopy := hgrown.loose copy List.mem_cons_self
    obtain ⟨hgrown, hon, hkeep⟩ := hgrown.hang (.append hcopy.lt hhas) hc hp
    refine ⟨hgrown, fun y hy => hkeep y (hparents y (List.mem_cons_of_mem _ hy)), fun y hy => ?_⟩
    obtain hy | hy := hcopies y hy
    · obtain rfl | hy := List.mem_cons.1 hy
      · exact .inr hon
      · exact .inl hy
    · exact .inr (hkeep y hy)
  refine .bind .view fun d => ?_
  split
  · rename_i hc
    rw [Bool.and_eq_true] at hc
    refine .edit ?_
    rintro d' ⟨h, rfl⟩
    exact hhang _ d h hc.1 (h.2.1 parent List.mem_cons_self)
  · refine .bind (.edit fun d' h => hhang .page d' h.1 rfl .refl) fun _ => ?_
    exact .emit (by simp [Event.code])

/-- A layer and its copies are hung one after the other, each below the parent that stands in its place. -/
theorem attachEach_does {parents copies : List Nat} (hl : parents.length = copies.length) :
    Does (d₀.Kept lost) (fun d => d₀.Grown lost copies d ∧ ∀ y ∈ parents, d.OnPage y)
      ((parents.zip copies).forM fun hung => Execution.attachOne hung.1 hung.2)
      fun _ d => d₀.Grown lost [] d ∧ (∀ y ∈ copies, d.OnPage y) ∧ copies.Nodup := by
  have hfst : (parents.zip copies).map Prod.fst = parents := List.map_fst_zip (Nat.le_of_eq hl)
  have hsnd : (parents.zip copies).map Prod.snd = copies := List.map_snd_zip (Nat.le_of_eq hl.symm)
  refine .intro fun d h => ?_
  have hstart : Hanging lost d₀ copies (parents.zip copies) d := by
    rw [Hanging, hfst, hsnd]
    exact ⟨h.1, h.2, fun _ => .inl⟩
  refine .mono (.forM (Hanging lost d₀ copies) _ fun _ _ => attachOne_does) (fun d' he => he ▸ hstart) ?_
  exact fun _ d' h' => ⟨h'.1, fun y hy => (h'.2.2 y hy).resolve_left (by simp), h.1.nodup⟩

theorem attach_does : Does (d₀.Kept lost) (d₀.Grown lost [id]) (attach t id)
    fun ids d => d₀.Grown lost [] d ∧ (∀ id ∈ ids, d.OnPage id) ∧ ids.Nodup := by
  have hroot : Does (d₀.Kept lost) (d₀.Grown lost [id]) (liftM (Host.edit (·.append .page id)))
      fun _ d => d₀.Grown lost [] d ∧ (∀ y ∈ [id], d.OnPage y) ∧ [id].Nodup := by
    refine .edit fun d h => ?_
    obtain ⟨hgrown, hon, -⟩ := h.hang (.append (h.loose id List.mem_cons_self).lt trivial) (p := .page) rfl .refl
    refine ⟨hgrown, fun y hy => ?_, List.nodup_singleton _⟩
    rw [List.mem_singleton.1 hy]
    exact hon
  refine .bind (.call (.enter fun _ h => h.toKept)) fun _ => ?_
  split
  · exact .bind hroot fun _ => .pure fun _ h => h
  · refine .bind (.call (.parent fun _ h => h.toKept)) fun found => ?_
    split
    · refine .bind (.mono hroot (fun _ h => h.1) fun _ _ h => h) fun _ => ?_
      exact .bind (.emit (by simp [Event.code])) fun _ => .pure fun _ h => h
    · rename_i found
      -- The parents are on the page, and stay there while the copies are made.
      let waiting (twins : List Nat) (d : Document) : Prop :=
        d₀.Grown lost (id :: twins) d ∧ ∀ y ∈ found.ids, d.OnPage y
      refine .intro fun d hd => ?_
      obtain ⟨hne, hpage⟩ := hd.2 found rfl
      have hstart : waiting [] d := ⟨hd.1, fun y hy => (mem_all_iff hd.1).1 (hpage y hy)⟩
      refine .bind (.mono (.mapM waiting (fun _ _ => .call clone_turns) _) (fun d' he => he ▸ hstart) fun _ _ h => h) ?_
      intro twins
      refine .intro fun d h => ?_
      -- The layer itself is hung below the first parent, so one copy fewer is made than there are parents.
      have hlength : found.ids.length = (id :: twins).length := by
        rw [List.length_cons, h.2, List.length_tail]
        have := List.length_pos_iff.2 hne
        omega
      refine .bind ((attachEach_does hlength).mono (fun d' he => he ▸ h.1) fun _ _ h => h) fun _ => ?_
      dsimp only
      split
      · exact .bind (.emit (by simp [Event.code])) fun _ => .pure fun _ h => h
      · exact .pure fun _ h => h

theorem finish_does : Does (d₀.Kept lost) (d₀.Grown lost [id]) (finish t id) fun _ => d₀.Grown lost [] := by
  refine .bind attach_does fun created => ?_
  split
  · exact focus_does
  · exact .pure fun _ h => h.1

theorem createKind_does {k : Kind} : Does (d₀.Kept lost) (d₀.Grown lost []) (liftM (Host.createKind k))
    fun id => d₀.Grown lost [id] :=
  .call (.create (fun _ h => h.toKept) fun _ h => h.create)

theorem createBox_does {k : Kind} {side : Number} :
    Does (d₀.Kept lost) (d₀.Grown lost []) (createBox t k side) fun _ => d₀.Grown lost [] :=
  .bind createKind_does fun _ => .bind (.place steady_grown) fun _ => .bind (.adjust steady_grown fun _ => rfl) fun _ =>
    .bind (.applyFill steady_grown) fun _ => .bind (.applyCorner steady_grown) fun _ =>
      .bind (.applyName steady_grown) fun _ => finish_does

theorem createCircle_does : Does (d₀.Kept lost) (d₀.Grown lost []) (createCircle t) fun _ => d₀.Grown lost [] :=
  .bind createKind_does fun _ => .bind (.place steady_grown) fun _ => .bind (.adjust steady_grown fun _ => rfl) fun _ =>
    .bind (.applyFill steady_grown) fun _ => .bind (.applyName steady_grown) fun _ => finish_does

theorem createLine_does : Does (d₀.Kept lost) (d₀.Grown lost []) (createLine t) fun _ => d₀.Grown lost [] := by
  refine .bind createKind_does fun id => .bind (.place steady_grown) fun _ => ?_
  refine .bind (.adjust steady_grown fun _ => rfl) fun _ => ?_
  have hrest : Does (d₀.Kept lost) (d₀.Grown lost [id]) (do applyName t id; finish t id) fun _ => d₀.Grown lost [] :=
    .bind (.applyName steady_grown) fun _ => finish_does
  dsimp only
  split
  · exact .bind .color fun c => .bind (.adjust steady_grown fun _ => rfl) fun _ => hrest
  · split
    · exact .bind (.adjust steady_grown fun _ => rfl) fun _ => hrest
    · exact hrest

theorem createText_does : Does (d₀.Kept lost) (d₀.Grown lost []) (createText t) fun _ => d₀.Grown lost [] := by
  refine .bind createKind_does fun id => .bind (.place steady_grown) fun _ => ?_
  have hfont : Does (d₀.Kept lost) (d₀.Grown lost [id]) (Handler.attempt (Host.loadFont defaultFontFamily defaultFontStyle))
      fun _ => d₀.Grown lost [id] := by
    refine .mono (.attempt (.loadFont (fun _ h => h) steady_grown)) (fun _ h => h) fun result d h => ?_
    cases result <;> exact h
  refine .bind hfont fun loaded => ?_
  have hnamed : Does (d₀.Kept lost) (d₀.Grown lost [id]) (do
      applyFill t id
      applyName t id
      if loaded.isOk then
        adjust id fun l => { l with caption := l.caption.map ({ · with autoResize := fittingText }) }
      finish t id) fun _ => d₀.Grown lost [] := by
    refine .bind (.applyFill steady_grown) fun _ => .bind (.applyName steady_grown) fun _ => ?_
    dsimp only
    split
    · exact .bind (.adjust steady_grown fun _ => rfl) fun _ => finish_does
    · exact finish_does
  cases t.number? "fontSize" with
  | none =>
    dsimp only
    split
    · exact .bind (.adjust steady_grown fun _ => rfl) fun _ => hnamed
    · exact .bind (.emit (by simp [Event.code])) fun _ => .bind (.adjust steady_grown fun _ => rfl) fun _ => hnamed
  | some fontSize =>
    have hsized : Does (d₀.Kept lost) (d₀.Grown lost [id]) (do
        adjust id fun l => { l with caption := l.caption.map ({ · with fontSize }) }
        applyFill t id
        applyName t id
        if loaded.isOk then
          adjust id fun l => { l with caption := l.caption.map ({ · with autoResize := fittingText }) }
        finish t id) fun _ => d₀.Grown lost [] := .bind (.adjust steady_grown fun _ => rfl) fun _ => hnamed
    dsimp only
    split
    · exact .bind (.adjust steady_grown fun _ => rfl) fun _ => hsized
    · exact .bind (.emit (by simp [Event.code])) fun _ => .bind (.adjust steady_grown fun _ => rfl) fun _ => hsized

end Easel.Execution
