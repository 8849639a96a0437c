import Easel.Proofs.Execution.Consistency

/-!
What stays listed. Of the layers on the page an action takes off only those that it deletes or dissolves, with one exception: a
group whose first layer hangs on another one in it. It comes to hang on itself, and all that is in it is lost.
-/

namespace Easel.Execution

open Document Host

variable {P : Document → Prop} {fair : Document → Action → Prop} {h h₀ h' : Host} {options : ExecutionOptions} {a : Action}
  {t : Task} {ids : List Nat} {p : Node}

/-! ### Grouping where no call fails -/

theorem containerOf_run {r : Run} {id : Nat} (hp : r.host.document.parentOf id = some p) :
    (containerOf id).run r = (.ok p, r) := by
  unfold containerOf
  rw [run_bind_eq, Handler.call_run, view_run]
  simp only [hp]
  rfl

theorem applyName_moved {d : Document} {r : Run} {id : Nat} (hr : r.host.document = d) :
    d.Moved [] none ((applyName t id).run r).2.host.document := by
  subst hr
  unfold applyName
  split
  · exact .refl
  · rename_i name _
    exact .look (f := fun l => l.rename name) fun _ => rfl

section Quiet

variable (hq : h.faults = Faults.none)

include hq

theorem enter_none (call : HostCall) : (enter call).run h = (.ok (), { h with calls := h.calls + 1 }) := by
  rw [enter_run, hq]
  rfl

theorem getSelection_none (hids : h.document.liveSelection? = some ids) : getSelection.run h =
    (.ok ids, { h with document := { h.document with selection := ids.map .layer }, calls := h.calls + 1 }) := by
  unfold getSelection
  rw [run_bind_eq, enter_none hq]
  dsimp only
  rw [run_bind_eq, view_run]
  simp only [hids]
  rfl

theorem byName_none {name : Json} {fragment : String} (hw : Lookup.wanted? name = some fragment) :
    (Lookup.byName name).run h =
      (.ok (Lookup.ranked h.document h.document.all fragment), { h with calls := h.calls + 1 }) := by
  unfold Lookup.byName
  simp only [hw]
  rw [run_bind_eq, findAll, run_bind_eq, enter_none hq]
  rfl

theorem focus_none (events : List Event) : (focus ids).run ⟨h, events⟩ = (.ok (),
    { host := { h with
        document := { h.document with selection := ids.map .layer, viewport := ids.map .layer }, calls := h.calls + 2 }
      events }) := by
  unfold focus
  rw [run_bind_eq, Handler.call_run, setSelection, run_bind_eq, enter_none hq]
  dsimp only
  rw [edit_run]
  dsimp only
  rw [Handler.call_run, zoomTo, run_bind_eq, enter_none (h := { h with
    document := { h.document with selection := ids.map .layer }, calls := h.calls + 1 }) hq]
  rfl

theorem group_none (hne : ids ≠ []) (hp : h.document.has p) (hc : h.document.isContainer p) : (Host.group ids p).run h =
    (.ok h.document.layers.length,
      { h with
        document := (h.document.create (Look.initial .group)).2.gather h.document.layers.length ids p
        calls := h.calls + 2 }) := by
  have hnil : ids.isEmpty = false := by cases ids with
    | nil => exact absurd rfl hne
    | cons => rfl
  unfold Host.group
  rw [run_bind_eq, enter_none hq]
  simp only [hnil, Bool.false_eq_true, if_false]
  rw [run_bind_eq, createKind, create_run, enter_none (h := { h with calls := h.calls + 1 }) hq]
  dsimp only
  rw [run_bind_eq, view_run]
  simp only [isContainer_create hp, hc, Bool.not_true, Bool.false_eq_true, if_false]
  rfl

theorem groupSelection_none {first : Nat} {rest : List Nat} (hne : rest ≠ []) (hs : h.document.Sound)
    (hids : h.document.liveSelection? = some (first :: rest)) (hp : h.document.parentOf first = some p) :
    ∃ g d, Gathering h.document (first :: rest) g d ∧
      (d.gather g (first :: rest) p).Moved [] none ((groupSelection t).run ⟨h, []⟩).2.host.document := by
  obtain ⟨second, rest, rfl⟩ := List.exists_cons_of_ne_nil hne
  refine ⟨_, _, gathering_create hs hids rfl, ?_⟩
  unfold groupSelection
  rw [run_bind_eq, Handler.call_run, getSelection_none hq hids]
  dsimp only
  rw [run_bind_eq, containerOf_run (p := p) hp]
  dsimp only
  have hread : ({ h.document with selection := (first :: second :: rest).map .layer } : Document).Sound := hs.read hids
  rw [run_bind_eq, Handler.call_run, group_none (h := { h with
    document := { h.document with selection := (first :: second :: rest).map .layer }, calls := h.calls + 1 }) hq
    (List.cons_ne_nil _ _) (hread.linked.has hp) (hread.container _ _ hp)]
  dsimp only
  exact applyName_moved rfl

end Quiet

/-! ### What is lost -/

/-- The action groups what is selected, and closes a round with it. -/
def Folds (d : Document) (a : Action) : Prop := opOf? a = some .group ∧ Rounds d

/-- The action deletes the layer, or dissolves it. -/
def Excused (a : Action) (d d' : Document) (id : LayerId) : Prop := mayLose (opOf? a) d id ∧ d'.isRemoved id = true

theorem perform_kept (options : ExecutionOptions) (hs : h.document.Sound) (hno : ¬Folds h.document a) :
    h.document.Kept (mayLose (opOf? a) h.document) (perform options a h).2.2.document := by
  cases ha : opOf? a with
  | none =>
    rw [(perform_of_opOf? options h ha).1]
    exact .refl hs
  | some op =>
    obtain ⟨-, hb, -⟩ := perform_does options hs ha
    refine hb.2 ?_
    rintro ⟨rfl, hr⟩
    exact hno ⟨ha, hr⟩

theorem perform_fresh (hs : h.document.Sound) (hno : ¬Folds h.document a) (hv : h.document.InView)
    (hok : (perform options a h).1 = .succeeded) {x : Nat} (hx : h.document.layers.length ≤ x)
    (hx' : x < (perform options a h).2.2.document.layers.length) : (perform options a h).2.2.document.OnPage x := by
  cases ha : opOf? a with
  | none => exact absurd hok (perform_of_opOf? options h ha).2.1
  | some op =>
    obtain ⟨-, -, he⟩ := perform_does options hs ha
    refine ((he hok).kept ?_).2 hv x hx hx'
    rintro ⟨rfl, hr⟩
    exact hno ⟨ha, hr⟩

/-- The layers that are lost with a round are those in it and those that hang on them. -/
theorem onPage_of_folds (options : ExecutionOptions) (hq : h.faults = Faults.none) (hs : h.document.Sound)
    (hf : Folds h.document a) (x : Nat) : (perform options a h).2.2.document.OnPage x ↔
      h.document.OnPage x ∧ ∀ y, h.document.Chosen y → ¬h.document.Under (.layer x) (.layer y) := by
  obtain ⟨ha, first, rest, p, s, hids, -, hp, hsr, hps⟩ := hf
  obtain ⟨g, d, hg, hm⟩ := groupSelection_none (t := taskOf options a) hq (List.ne_nil_of_mem hsr) hs hids hp
  rw [← hg.onPage_round hp hsr hps, perform_eq, apply_of_opOf? ha]
  exact under_of_same hm.parentOf

/-! ### Runs -/

theorem steady_kept {d₀ : Document} {lost : Nat → Prop} : Steady (d₀.Kept lost) := fun _ _ h hm => h.unmoved hm

theorem Reaches.kept (hr : Reaches (fun d a => ¬Folds d a) h h') (hs : h.document.Sound) :
    h.document.Kept anything h'.document := by
  induction hr with
  | refl => exact .refl hs
  | tail _ hm ih =>
    cases hm with
    | act options report a _ hno =>
      refine step_steady steady_kept report (ih.trans ?_)
      exact (perform_kept options ih.sound hno).mono fun _ _ => trivial
    | notify message => exact notify_steady steady_kept ih message

/-- Where no call fails, an action takes off the page what it deletes or dissolves, and nothing else unless it closes a round;
then just what is selected is lost, with all below it. As long as no round is closed, what a completed action makes is listed
until it is removed. -/
theorem all_lost_iff_folds (hb : Blank h₀) (hq : h₀.faults = Faults.none) :
    (∀ h, Reaches (fun _ _ => True) h₀ h → ∀ options a,
      let d := h.document
      let d' := (perform options a h).2.2.document
      ((∀ id ∈ d.all, ¬Excused a d d' id → d'.all.count id = 1) ↔ ¬Folds d a) ∧
      (Folds d a → ∀ id, id ∈ d'.all ↔ id ∈ d.all ∧ ∀ s, d.Chosen s → ¬d.Under (.layer id) (.layer s))) ∧
    ∀ h, Reaches (fun d a => ¬Folds d a) h₀ h → ∀ options report a, ¬Folds h.document a →
      (perform options a h).1 = .succeeded → ∀ h', Reaches (fun d a => ¬Folds d a) ((step options report a).run h).2 h' →
      ∀ id, h.document.layers.length ≤ id → id < (perform options a h).2.2.document.layers.length →
        h'.document.all.count id = 1 ∨ h'.document.isRemoved id = true := by
  constructor
  · intro h hr options a d d'
    have hs : d.Sound := hr.sound (blank_sound hb)
    have hl' : d'.Linked := (perform_sound options a hs).1.linked
    have hfolds (hf : Folds d a) (x : Nat) := onPage_of_folds options ((hr.rel Host.stepwise_faults).trans hq) hs hf x
    refine ⟨⟨fun hall hf => ?_, fun hno id hid hex => ?_⟩, fun hf id => ?_⟩
    · -- The first layer of the group was listed and is lost, although nothing was deleted.
      obtain ⟨ha, first, rest, p, s, hids, hpage, -⟩ := id hf
      have hfirst : d.Chosen first := (mem_liveSelection hids).1 List.mem_cons_self
      have hcount := hall first ((mem_all hs.linked).2 hpage) fun hex => by rw [Excused, ha] at hex; exact hex.1
      have hmem : first ∈ d'.all := List.count_pos_iff.1 (by omega)
      exact ((hfolds hf first).1 ((mem_all hl').1 hmem)).2 first hfirst .refl
    · refine count_all hl' (((perform_kept options hs hno).page id ((mem_all hs.linked).1 hid)).resolve_right hex)
    · rw [mem_all hl', mem_all hs.linked]
      exact hfolds hf id
  · intro h hr options report a hno hok h' hr' id hid hid'
    have hkept : h₀.document.Kept anything h.document := hr.kept (blank_sound hb)
    -- To begin with nothing is selected, so nothing off the page is.
    have hview : h₀.document.InView := by
      obtain ⟨pageName, fontsFail, hb⟩ := hb
      rw [hb]
      exact fun id hid => by cases hid.1
    have hpage := perform_fresh hkept.sound hno (hkept.view hview) hok hid hid'
    have hstep : (perform options a h).2.2.document.Kept anything ((step options report a).run h).2.document :=
      step_steady steady_kept report (.refl (perform_sound options a hkept.sound).1)
    have hlast := hstep.trans (hr'.kept hstep.sound)
    refine (hlast.page id hpage).imp (fun hp => count_all hlast.sound.linked hp) And.right

/-! ### A round -/

theorem selectByName_none {r : Run} (hq : r.host.faults = Faults.none) {name : Json} {fragment : String}
    (hw : Lookup.wanted? name = some fragment) {id : Nat} {ids : List Nat}
    (hids : Lookup.ranked r.host.document r.host.document.all fragment = id :: ids) :
    ((selectByName name).run r).2.host.document =
      { r.host.document with selection := (id :: ids).map .layer, viewport := (id :: ids).map .layer } := by
  obtain ⟨h, events⟩ := r
  unfold selectByName
  rw [run_bind_eq, Handler.call_run, byName_none hq hw]
  dsimp only
  rw [hids]
  dsimp only
  rw [run_bind_eq, focus_none (h := { h with calls := h.calls + 1 }) hq]
  dsimp only
  split <;> rfl

theorem steady_rounds : Steady Rounds := by
  rintro d d₁ ⟨first, rest, p, s, hids, hpage, hp, hs, hps⟩ hm
  refine ⟨first, rest, p, s, ?_, (under_of_same hm.parentOf).2 hpage, (hm.parentOf _).trans hp, hs,
    (under_of_same hm.parentOf).2 hps⟩
  rw [← hids, liveSelection?, liveSelection?, hm.selection]
  simp only [hm.isRemoved]

/-- A rectangle in a frame whose name contains its own. -/
def nested : List Action :=
  [⟨"create_frame", [("name", .str "ab")], .null⟩, ⟨"create_rectangle", [("name", .str "a"), ("parentId", .str "ab")], .null⟩]

def nestedHost : Host := ((runActions {} nested).run {}).2

/-- The name that is looked for stands before the names that it is part of. -/
theorem ranked_nested : Lookup.ranked nestedHost.document nestedHost.document.all "a" = [1, 0] := by
  have hall : nestedHost.document.all = [0, 1] := by decide +kernel
  have hpair (le : Nat → Nat → Bool) : [0, 1].mergeSort le = if le 0 1 then [0, 1] else [1, 0] := by
    simp [List.mergeSort, List.merge]
  rw [hall]
  unfold Lookup.ranked
  dsimp only
  rw [show List.filter _ [0, 1] = [0, 1] by decide +kernel, hpair]
  decide +kernel

def selectInner : Action := ⟨"select", [("name", .str "a")], .null⟩

theorem rounds_nested : Rounds (perform {} selectInner nestedHost).2.2.document := by
  have ha : opOf? selectInner = some .select := by decide +kernel
  have hq : nestedHost.faults = Faults.none := (runActions_reaches {} nested {}).rel Host.stepwise_faults
  have hdoc : (perform {} selectInner nestedHost).2.2.document =
      { nestedHost.document with selection := [1, 0].map .layer, viewport := [1, 0].map .layer } := by
    rw [perform_eq, apply_of_opOf? ha]
    show ((select (taskOf {} selectInner)).run ⟨nestedHost, []⟩).2.host.document = _
    unfold select
    rw [run_bind_eq, Handler.call_run, show (Lookup.byId (taskOf {} selectInner).target).run nestedHost =
      (.ok none, nestedHost) from rfl]
    exact selectByName_none hq (by decide +kernel) ranked_nested
  have hlive : nestedHost.document.isRemoved 1 = false ∧ nestedHost.document.isRemoved 0 = false := by decide +kernel
  have hinner : nestedHost.document.parentOf 1 = some (.layer 0) := by decide +kernel
  have houter : nestedHost.document.parentOf 0 = some .page := by decide +kernel
  rw [hdoc]
  refine ⟨1, [0], .layer 0, 0, ?_, .step hinner (.step houter .refl), hinner, List.mem_cons_self, .refl⟩
  show some (List.filter (fun id => !nestedHost.document.isRemoved id) [1, 0]) = _
  simp [hlive]

/-- Grouping the rectangle together with the frame it is in, both are lost. -/
theorem lost_in_round : ∃ h, Reaches (fun _ _ => True) {} h ∧
    ¬∀ id ∈ h.document.all, ¬Excused ⟨"group", [], .null⟩ h.document (perform {} ⟨"group", [], .null⟩ h).2.2.document id →
      (perform {} ⟨"group", [], .null⟩ h).2.2.document.all.count id = 1 := by
  have hr : Reaches (fun _ _ => True) {} ((step {} {} selectInner).run nestedHost).2 :=
    (runActions_reaches {} nested {}).tail (.act {} {} selectInner nestedHost trivial)
  refine ⟨_, hr, fun hall => ?_⟩
  obtain ⟨hlost, -⟩ := all_lost_iff_folds (show Blank {} from ⟨"Page 1", false, rfl⟩) rfl
  exact ((hlost _ hr {} ⟨"group", [], .null⟩).1.1 hall) ⟨by decide +kernel, step_steady steady_rounds {} rounds_nested⟩

end Easel.Execution
