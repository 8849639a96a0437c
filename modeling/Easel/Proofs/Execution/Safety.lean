import Easel.Proofs.Execution.Atomicity
import Easel.Proofs.Execution.Drawing
import Easel.Proofs.Validation

/-!
Actions that pass the check are carried out, or refused for their target, as long as no calls fail but those that load fonts.
What a handler takes for granted of its arguments holds by the check, and what it takes for granted of the document holds of
every document that batches can leave.
-/

namespace Easel

/-- The arguments that are used as texts, whatever they are. -/
def Op.texts : Op → List String
  | .createRectangle | .createCircle | .createEllipse | .createLine | .createPolygon | .createStar | .createFrame =>
    ["name", "parentId"]
  | .createText => ["text", "name", "parentId"]
  | .findByName | .group => ["name"]
  | _ => []

theorem Op.texts_declared (op : Op) : ∀ name ∈ op.texts, ∃ f ∈ op.spec.fields, f.name = name ∧ f.type = .string := by
  cases op <;> decide

namespace Execution

open Document Host

variable {options : ExecutionOptions} {a : Action} {op : Op} {h h₀ h' : Host} {d : Document} {e : Event}
  {allowed : Document → Action → Prop}

/-! ### Arguments -/

theorem passes_of_opOf? (ha : opOf? a = some op) : Validation.Passes op a.args a.target := by
  rw [opOf?] at ha
  split at ha
  · rename_i ho
    exact (Action.objections_eq_nil_iff ha).1 ho
  · cases ha

theorem text_of_passes {target : Json} {args : Fields} {name : String} (hp : Validation.Passes op args target)
    (hn : name ∈ op.texts) : (args.value name).isNull = true ∨ (args.value name).isString = true := by
  obtain ⟨f, hf, rfl, ht⟩ := op.texts_declared name hn
  exact Validation.text_of_checkField ht (hp.fields f hf)

theorem value_of_number? {v : Json} {n : Number} (hn : v.number? = some n) : v = .num n := by
  cases v <;> cases hn
  rfl

theorem opacity_of_passes {target : Json} {args : Fields} (hp : Validation.Passes .setOpacity args target) :
    ∃ n, args.value "opacity" = .num n := by
  obtain hnull | ⟨n, hn, -⟩ := Validation.number_of_checkField rfl (hp.fields _ List.mem_cons_self)
  · rw [hp.required "opacity" List.mem_cons_self] at hnull
    cases hnull
  · exact ⟨n, hn⟩

/-! ### Documents -/

/-- Nothing stands in the place of an attribute. -/
def Bare (l : Look) : Prop := l.extras = []

theorem suits_bare (t : Task) (op : Op) : Suits t op Bare where
  initial k := by cases k <;> rfl
  change f hf l hl := by
    have hl : l.extras = [] := hl
    cases hf <;> simp [Bare, Look.rename, Look.moveTo, Look.turn, Look.fill, Look.outline, Look.setStrokeWeight, Look.fade,
      Look.resize, Look.resizeTo, Look.forget, hl]

/-- Every search in the document ends, and so does every removal; a layer is found among the children of what it hangs on. -/
structure Walkable (d : Document) : Prop where
  search_ends : d.Visits d.pageChildren d.all
  removal_ends : ∀ id < d.layers.length, RemovalEnds d id
  release_ends : ∀ id p, d.parentOf id = some p → RemovalEnds (d.release id p) id
  child_found : ∀ id p, d.parentOf id = some p → id ∈ d.childrenOf p
  selected : ∀ n ∈ d.selection, ∃ id < d.layers.length, n = .layer id

theorem walkable (hs : d.Sound) : Walkable d where
  search_ends := visits_all hs.linked
  removal_ends id hid := removalEnds hs.linked hid
  release_ends id p hp := by
    have hm := Moved.release (g := id) hs.linked (hs.linked.has hp)
    refine removalEnds (hm.linked hs.linked) ?_
    rw [hm.length]
    exact lt_of_parentOf hp
  child_found id p hp := hs.linked.mem_iff.2 hp
  selected := hs.selected

theorem sound_deleting (hs : h.document.Sound) (i : Nat) : (documentAfter deleteEach i h).Sound := by
  have hm : Does (h.document.Kept anything) (fun d => d = h.document) (do deleteEach ((← Host.getSelection).take i))
      fun _ => Deleting h.document [] :=
    .bind (getSelection_deleting hs) fun _ => .mono deleteEach_does (fun _ h => h.take i) fun _ _ h => h
  exact (does_run hm (fun _ _ h => h.1.1) rfl).sound

theorem sound_ungrouping (hs : h.document.Sound) (i : Nat) : (documentAfter ungroupEach i h).Sound := by
  have hm : Does (h.document.Kept (groups h.document)) (fun d => d = h.document)
      (do ungroupEach ((← Host.getSelection).take i)) fun _ => Dissolving h.document [] :=
    .bind (getSelection_dissolving hs) fun _ => .mono ungroupEach_does (fun _ h => h.take i) fun _ _ h => h
  exact (does_run hm (fun _ _ h => h.1.1) rfl).sound

theorem Reaches.fair (hr : Reaches allowed h h') (hf : Fair h) : Fair h' := by
  intro n call hc
  rw [hr.rel Host.stepwise_faults]
  exact hf n call hc

/-! ### Ends -/

/-- What an action that passes the check may be refused for. -/
def refusalCodes : List String :=
  ["MISSING_TARGET", "TARGET_NOT_FOUND", "UNSUPPORTED_CAPABILITY"]

theorem refusal_of_blamesTarget (he : e.blamesTarget) : e.code ∈ refusalCodes := by
  cases e <;> first | exact he.elim | simp [Event.code, refusalCodes]

/-- A handler never ends because a call failed. -/
theorem handle_ends (hs : h.document.Sound) (hf : Fair h) (t : Task) {halt : Halt}
    (he : ((handle op t).run ⟨h, []⟩).1 = .error halt) : ∃ e, halt = .refused e ∧ e.code ∈ refusalCodes := by
  have hend := handle_tries op t ⟨h, []⟩ hs ⟨h, []⟩ ⟨hf, rfl, rfl⟩
  rcases hr : (handle op t).run ⟨h, []⟩ with ⟨halt' | u, r⟩ <;> rw [hr] at hend he
  · cases he
    obtain ⟨⟨e, rfl⟩, -⟩ := hend
    exact ⟨e, rfl, refusal_of_blamesTarget ((handle_plain op t).blamesTarget_of_refused (congrArg Prod.fst hr))⟩
  · cases he

theorem code_of_isRemark (he : e.isRemark) : e.code ≠ "ACTION_FAILED" := by
  cases e <;> first | exact he.elim | simp [Event.code]

theorem event?_refused (a : Action) (e : Event) : (outcomeOf a (.error (.refused e))).event? = some e := by
  cases e <;> rfl

theorem perform_not_failed (hs : h.document.Sound) (hf : Fair h) (options : ExecutionOptions) (a : Action) :
    ∀ e ∈ (perform options a h).2.1, e.code ≠ "ACTION_FAILED" := by
  intro e he
  obtain ⟨-, hx⟩ | ⟨-, -, hx⟩ | ⟨op, -, -, hx⟩ := apply_cases options a <;> rw [perform_eq, hx] at he
  · obtain rfl : e = .unknownOperation (.str a.op) := List.mem_singleton.1 he
    simp [Event.code]
  · obtain rfl : e = .invalidAction a.op a.objections := List.mem_singleton.1 he
    simp [Event.code]
  · rcases List.mem_append.1 he with he | he
    · exact code_of_isRemark ((handle_plain op _).remarks (fun _ he => by cases he) e he)
    · rcases hr : ((handle op (taskOf options a)).run ⟨h, []⟩).1 with halt | u <;> rw [hr] at he
      · obtain ⟨e', rfl, hc⟩ := handle_ends hs hf (taskOf options a) hr
        rw [event?_refused, Option.toList_some, List.mem_singleton] at he
        rw [he]
        exact fun hcode => absurd (hcode ▸ hc) (by decide)
      · cases he

theorem mem_diagnostics_tally {endings : Endings} {d : Diagnostic} (hd : d ∈ (tally endings).diagnostics) :
    ∃ ending ∈ endings, d.event ∈ ending.2 := by
  induction endings using List.reverseRecOn with
  | nil => cases hd
  | append_singleton endings ending ih =>
    rw [tally_concat, record_diagnostics, List.mem_append] at hd
    obtain hd | hd := hd
    · obtain ⟨ending', hm, he⟩ := ih hd
      exact ⟨ending', List.mem_append_left _ hm, he⟩
    · obtain ⟨e, he, rfl⟩ := List.mem_map.1 hd
      exact ⟨ending, List.mem_append_right _ (List.mem_singleton_self _), he⟩

/-- What a handler takes for granted, and what becomes of it. -/
structure Safe (options : ExecutionOptions) (op : Op) (a : Action) (h : Host) : Prop where
  texts : ∀ name ∈ op.texts, (a.args.value name).isNull = true ∨ (a.args.value name).isString = true
  opacity : op = .setOpacity → ∃ n, a.args.value "opacity" = .num n
  target : a.target.isNull = true ∨ a.target.isString = true
  attributes : h.document.Drawn Bare
  walks : Walkable h.document
  deletion_walks : ∀ i, Walkable (documentAfter deleteEach i h)
  ungrouping_walks : ∀ i, Walkable (documentAfter ungroupEach i h)
  /-- It is carried out, or it is refused for its target. -/
  ends : ∀ halt, ((handle op (taskOf options a)).run ⟨h, []⟩).1 = .error halt →
    ∃ e, halt = .refused e ∧ e.code ∈ refusalCodes

theorem safe (hs : h.document.Sound) (hf : Fair h) (hd : h.document.Drawn Bare) (ha : opOf? a = some op) :
    Safe options op a h := by
  have hp := passes_of_opOf? ha
  exact
    { texts := fun name hn => text_of_passes hp hn
      opacity := by rintro rfl; exact opacity_of_passes hp
      target := hp.target
      attributes := hd
      walks := walkable hs
      deletion_walks := fun i => walkable (sound_deleting hs i)
      ungrouping_walks := fun i => walkable (sound_ungrouping hs i)
      ends := fun halt => handle_ends hs hf _ }

/-- However many batches were carried out on a host that began blank and of which no calls fail but those that load fonts, the
next one leaves it such a host again and reports no action that failed on its way; and on no such host does an action that passes
the check come to anything but its end or a refusal of its target. -/
theorem checked_actions_safe (hb : Blank h₀) (hf : Fair h₀) (hr : Reaches (fun _ _ => True) h₀ h) :
    (∀ options (items : List (Json ⊕ Action)), ∃ report h', (execute options (items.map coerce)).run h = (.ok report, h') ∧
        Reaches (fun _ _ => True) h₀ h' ∧ ∀ d ∈ report.diagnostics, d.code ≠ "ACTION_FAILED") ∧
      ∀ options a op, Op.ofName? a.op = some op → a.objections = [] → Safe options op a h := by
  have hquiet : Quiet h := fun n => hr.fair hf n .notify (by decide)
  have hdrawn : h.document.Drawn Bare := by
    refine hr.drawn (fun options a op _ => suits_bare _ op) ?_
    obtain ⟨pageName, fontsFail, hdoc⟩ := hb
    rw [hdoc]
    exact fun l hl => by cases hl
  have hsound {h' : Host} (hr : Reaches (fun _ _ => True) h₀ h') : h'.document.Sound := hr.sound (blank_sound hb)
  refine ⟨fun options items => ?_, fun options a op hop ho => ?_⟩
  · generalize items.map coerce = actions
    obtain ⟨endings, h₁, hrun, hq, hl, he⟩ := runActions_quiet options actions hquiet
    obtain ⟨h', hx⟩ := execute_quiet options actions hrun hq
    have hreach := hr.trans (execute_reaches options actions h)
    rw [hx] at hreach
    refine ⟨tally endings, h', hx, hreach, fun d hd => ?_⟩
    obtain ⟨ending, hm, hmem⟩ := mem_diagnostics_tally hd
    obtain ⟨i, hi⟩ := List.mem_iff_getElem?.1 hm
    have hlt : i < actions.length := by
      rw [← hl]
      exact (List.getElem?_eq_some_iff.1 hi).1
    have hat : Reaches (fun _ _ => True) h₀ (hostAt options actions h i) :=
      hr.trans (runActions_reaches options (actions.take i) h)
    rw [he i hlt] at hi
    cases hi
    exact perform_not_failed (hsound hat) (hat.fair hf) options actions[i] d.event hmem
  · have ha : opOf? a = some op := by rw [opOf?, if_pos ho, hop]
    exact safe (hsound hr) (hr.fair hf) hdrawn ha

/-- A text is made without its font and with a colour that is none; then it is filled by name, and nothing is grouped. -/
theorem checked_actions_safe_without_font :
    let h₀ : Host := { faults := Faults.always [(.loadFont, "no font")] }
    let first : List (Json ⊕ Action) := [.inr ⟨"create_text", [("text", .str "sun"), ("color", .arr [.null])], .null⟩]
    let second : List (Json ⊕ Action) := [.inr ⟨"set_fill", [("color", .obj [])], .str "text"⟩, .inr ⟨"group", [], .null⟩]
    let h := ((execute {} (first.map coerce)).run h₀).2
    Blank h₀ ∧ Fair h₀ ∧ Reaches (fun _ _ => True) h₀ h ∧
      (∃ report h', (execute {} (second.map coerce)).run h = (.ok report, h') ∧ Reaches (fun _ _ => True) h₀ h' ∧
        ∀ d ∈ report.diagnostics, d.code ≠ "ACTION_FAILED") ∧
      Safe {} .setFill ⟨"set_fill", [("color", .obj [])], .str "text"⟩ h := by
  intro h₀ first second h
  have hb : Blank h₀ := ⟨"Page 1", false, rfl⟩
  have hf : Fair h₀ := by
    intro n call hc
    cases call <;> first | rfl | exact absurd rfl hc
  have hr : Reaches (fun _ _ => True) h₀ h := execute_reaches {} _ h₀
  obtain ⟨hrun, hsafe⟩ := checked_actions_safe hb hf hr
  exact ⟨hb, hf, hr, hrun {} second, hsafe {} _ .setFill (by decide) rfl⟩

end Execution

end Easel
