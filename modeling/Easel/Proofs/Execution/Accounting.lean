import Easel.Proofs.Execution.Makeup
import Easel.Proofs.Execution.Runs
import Mathlib.Data.List.Induction
import Mathlib.Tactic.Common

/-!
What the report on a batch says, whatever calls of the host fail. Every action is counted once, as succeeded, failed or unknown,
and the diagnostics of an action end with what ended it.
-/

namespace Easel

/-- What each part of a handler does to a host, and so whatever is made of such parts. -/
structure Host.Stepwise (R : Host → Host → Prop) : Prop where
  refl : ∀ h, R h h
  trans : ∀ {h₁ h₂ h₃}, R h₁ h₂ → R h₂ h₃ → R h₁ h₃
  enter : ∀ h, R h { h with calls := h.calls + 1 }
  create : ∀ look h, R h { h with document := (h.document.create look).2 }
  edit : ∀ {f}, Document.Edit f → ∀ h, R h { h with document := f h.document }

variable {R : Host → Host → Prop}

theorem Host.Plain.run_rel {m : HostM α} (hm : Host.Plain m) (hR : Host.Stepwise R) (h : Host) : R h (m.run h).2 := by
  induction hm generalizing h with
  | pure | view | throw => exact hR.refl h
  | edit he => exact hR.edit he h
  | enter call => rw [Host.enter_run]; exact hR.enter h
  | create look =>
    -- The call is counted before it fails or makes a layer.
    rw [Host.create_run, Host.enter_run]
    cases h.faults h.calls .createNode with
    | none => exact hR.trans (hR.enter h) (hR.create look _)
    | some message => exact hR.enter h
  | @bind _ _ m k _ _ ihm ihk =>
    have hm := ihm h
    rw [run_bind_eq]
    rcases hr : m.run h with ⟨e | a, h'⟩ <;> rw [hr] at hm
    · exact hm
    · exact hR.trans hm (ihk a h')

theorem Execution.Plain.run_rel {m : Handler α} (hm : Plain m) (hR : Host.Stepwise R) (r : Run) : R r.host (m.run r).2.host := by
  induction hm generalizing r with
  | pure | emit | refuse => exact hR.refl _
  | call h => rw [Handler.call_run]; exact h.run_rel hR r.host
  | attempt h => rw [Handler.attempt_run]; exact h.run_rel hR r.host
  | @bind _ _ m k _ _ ihm ihk =>
    have hm := ihm r
    rw [run_bind_eq]
    rcases hr : m.run r with ⟨e | a, r'⟩ <;> rw [hr] at hm
    · exact hm
    · exact hR.trans hm (ihk a r')

/-- Which calls fail is laid down for good. -/
theorem Host.stepwise_faults : Host.Stepwise fun h h' => h'.faults = h.faults where
  refl _ := rfl
  trans h h' := h'.trans h
  enter _ := rfl
  create _ _ := rfl
  edit _ _ := rfl

namespace Execution

theorem Plain.blamesTarget_of_refused {m : Handler α} (hm : Plain m) {r : Run} {e : Event}
    (h : (m.run r).1 = .error (.refused e)) : e.blamesTarget := by
  induction hm generalizing r with
  | pure | emit | attempt => cases h
  | refuse he => cases h; exact he
  | @call _ m _ =>
    rw [Handler.call_run] at h
    dsimp only at h
    split at h <;> cases h
  | @bind _ _ m k _ _ ihm ihk =>
    rw [run_bind_eq] at h
    rcases hr : m.run r with ⟨e' | a, r'⟩ <;> rw [hr] at h
    · cases h
      exact ihm (congrArg Prod.fst hr)
    · exact ihk a h

theorem Plain.remarks {m : Handler α} (hm : Plain m) {r : Run} (hr : ∀ e ∈ r.events, e.isRemark) :
    ∀ e ∈ (m.run r).2.events, e.isRemark := by
  induction hm generalizing r with
  | pure | refuse | attempt => exact hr
  | emit e he => exact fun e' he' => (List.mem_append.1 he').elim (hr e') fun h => List.mem_singleton.1 h ▸ he
  | call => rw [Handler.call_run]; exact hr
  | @bind _ _ m k _ _ ihm ihk =>
    have hm := ihm hr
    rw [run_bind_eq]
    rcases hrun : m.run r with ⟨e | a, r'⟩ <;> rw [hrun] at hm
    · exact hm
    · exact ihk a hm

/-- The task that a known and well formed action gives its handler. -/
def taskOf (options : ExecutionOptions) (a : Action) : Task :=
  ⟨a.op, a.args, a.target, options⟩

theorem apply_cases (options : ExecutionOptions) (a : Action) :
    (Op.ofName? a.op = none ∧ apply options a = Handler.refuse (.unknownOperation (.str a.op))) ∨
      (Op.ofName? a.op).isSome ∧ a.objections ≠ [] ∧
        apply options a = Handler.refuse (.invalidAction a.op a.objections) ∨
      ∃ op, Op.ofName? a.op = some op ∧ a.objections = [] ∧ apply options a = handle op (taskOf options a) := by
  unfold apply
  split
  · rename_i hop
    exact .inl ⟨hop, rfl⟩
  · rename_i op hop
    split
    · rename_i ho
      exact .inr (.inr ⟨op, hop, ho, rfl⟩)
    · rename_i ho
      exact .inr (.inl ⟨by rw [hop]; rfl, ho, rfl⟩)

theorem perform_eq (options : ExecutionOptions) (a : Action) (h : Host) :
    perform options a h =
      let result := ((apply options a).run ⟨h, []⟩).1
      let r := ((apply options a).run ⟨h, []⟩).2
      (outcomeOf a result, r.events ++ (outcomeOf a result).event?.toList, r.host) := rfl

theorem perform_rel (hR : Host.Stepwise R) (options : ExecutionOptions) (a : Action) (h : Host) :
    R h (perform options a h).2.2 := by
  obtain ⟨-, he⟩ | ⟨-, -, he⟩ | ⟨op, -, -, he⟩ := apply_cases options a <;> rw [perform_eq, he]
  · exact hR.refl h
  · exact hR.refl h
  · exact (handle_plain op _).run_rel hR ⟨h, []⟩

/-- The codes of the events that end an action of a known operation. -/
def failureCodes : List String :=
  ["INVALID_ACTION", "MISSING_TARGET", "TARGET_NOT_FOUND", "UNSUPPORTED_CAPABILITY", "ACTION_FAILED"]

theorem code_of_blamesTarget {e : Event} (h : e.blamesTarget) : e.code ∈ failureCodes ∧ ∀ op, e ≠ .unknownOperation op := by
  cases e <;> first | exact h.elim | exact ⟨by simp [Event.code, failureCodes], fun _ h => by cases h⟩

theorem outcomeOf_handle (options : ExecutionOptions) (a : Action) (op : Op) (r : Run) :
    let outcome := outcomeOf a ((handle op (taskOf options a)).run r).1
    outcome = .succeeded ∨ ∃ e, outcome = .failed e ∧ e.code ∈ failureCodes := by
  have hp := handle_plain op (taskOf options a)
  rcases hr : ((handle op (taskOf options a)).run r).1 with (e | e) | _
  · obtain ⟨hc, hu⟩ := code_of_blamesTarget (hp.blamesTarget_of_refused hr)
    refine .inr ⟨e, ?_, hc⟩
    unfold outcomeOf
    split <;> simp_all
  · exact .inr ⟨_, rfl, by simp [Event.code, failureCodes]⟩
  · exact .inl rfl

/-- How an action can end: unknown, with one event and nothing else, or of a known operation, and then succeeded or failed for
one of five reasons. -/
theorem perform_cases (options : ExecutionOptions) (a : Action) (h : Host) :
    (Op.ofName? a.op = none ∧ (perform options a h).1 = .unknown (.unknownOperation (.str a.op)) ∧
        (perform options a h).2.1 = [.unknownOperation (.str a.op)]) ∨
      (Op.ofName? a.op).isSome ∧
        ((perform options a h).1 = .succeeded ∨
          ∃ e, (perform options a h).1 = .failed e ∧ e.code ∈ failureCodes) := by
  obtain ⟨hop, he⟩ | ⟨hop, -, he⟩ | ⟨op, hop, -, he⟩ := apply_cases options a <;> rw [perform_eq, he]
  · exact .inl ⟨hop, rfl, rfl⟩
  · exact .inr ⟨hop, .inr ⟨.invalidAction a.op a.objections, rfl, by simp [Event.code, failureCodes]⟩⟩
  · exact .inr ⟨by rw [hop]; rfl, outcomeOf_handle options a op _⟩

/-- What does not pass the check is refused before anything is done. -/
theorem perform_refused (options : ExecutionOptions) {a : Action} (h : Host) (hop : (Op.ofName? a.op).isSome)
    (ho : a.objections ≠ []) :
    perform options a h = (.failed (.invalidAction a.op a.objections), [.invalidAction a.op a.objections], h) := by
  obtain ⟨hno, -⟩ | ⟨-, -, he⟩ | ⟨-, -, hall, -⟩ := apply_cases options a
  · rw [hno] at hop
    cases hop
  · rw [perform_eq, he]
    rfl
  · exact absurd hall ho

/-- The events of an action that failed end with the failure. -/
theorem getLast_events_of_failed {options : ExecutionOptions} {a : Action} {h : Host} {e : Event}
    (he : (perform options a h).1 = .failed e) : (perform options a h).2.1.getLast? = some e := by
  show (_ ++ (perform options a h).1.event?.toList).getLast? = some e
  rw [he]
  exact List.getLast?_concat

/-- No notification fails. -/
def Quiet (h : Host) : Prop := ∀ n, h.faults n .notify = none

theorem notify_run {h : Host} (hq : Quiet h) (message : String) : (Host.notify message).run h =
    (.ok (), { h with document := h.document.notify message, calls := h.calls + 1 }) := by
  unfold Host.notify
  rw [run_bind_eq, Host.enter_run, hq]
  rfl

theorem notify_quiet {h : Host} (hq : Quiet h) (message : String) :
    ∃ h', (Host.notify message).run h = (.ok (), h') ∧ Quiet h' :=
  ⟨_, notify_run hq message, hq⟩

theorem forM_notify_quiet (events : List Event) :
    ∀ {h : Host}, Quiet h → ∃ h', (events.forM fun e => Host.notify e.message).run h = (.ok (), h') ∧ Quiet h' := by
  induction events with
  | nil => exact fun hq => ⟨_, rfl, hq⟩
  | cons e rest ih =>
    intro h hq
    obtain ⟨h₁, he, hq₁⟩ := notify_quiet hq e.message
    obtain ⟨h₂, hr, hq₂⟩ := ih hq₁
    refine ⟨h₂, ?_, hq₂⟩
    show (Host.notify e.message >>= fun _ => rest.forM fun e => Host.notify e.message).run h = _
    rw [run_bind_eq, he]
    exact hr

theorem step_quiet (options : ExecutionOptions) (report : Report) (a : Action) {h : Host} (hq : Quiet h) :
    ∃ h', (step options report a).run h =
      (.ok (record report (perform options a h).1 (perform options a h).2.1), h') ∧ Quiet h' := by
  have hq' : Quiet (perform options a h).2.2 := by
    intro n
    rw [perform_rel Host.stepwise_faults]
    exact hq n
  obtain ⟨h', hn, hq''⟩ := forM_notify_quiet ((perform options a h).2.1.filter (·.isUserFacing)) hq'
  refine ⟨h', ?_, hq''⟩
  show (((perform options a h).2.1.filter (·.isUserFacing)).forM (fun e => Host.notify e.message) >>= fun _ =>
    pure (record report (perform options a h).1 (perform options a h).2.1) : HostM Report).run (perform options a h).2.2 = _
  rw [run_bind_eq, hn]
  rfl

theorem runActions_concat (options : ExecutionOptions) (actions : List Action) (a : Action) :
    runActions options (actions ++ [a]) = runActions options actions >>= fun report => step options report a := by
  simp [runActions, List.foldlM_append]

/-- The host as the action at position `i` finds it. -/
def hostAt (options : ExecutionOptions) (actions : List Action) (h : Host) (i : Nat) : Host :=
  ((runActions options (actions.take i)).run h).2

/-- The outcomes of actions, each with all its events. -/
abbrev Endings := List (Outcome × List Event)

def tally (endings : Endings) : Report :=
  endings.foldl (fun report e => record report e.1 e.2) {}

/-- A run whose notifications are heard reports on what each action came to. -/
theorem runActions_quiet (options : ExecutionOptions) (actions : List Action) {h : Host} (hq : Quiet h) :
    ∃ endings h', (runActions options actions).run h = (.ok (tally endings), h') ∧ Quiet h' ∧
      endings.length = actions.length ∧
      ∀ i (hi : i < actions.length), endings[i]? =
        some ((perform options actions[i] (hostAt options actions h i)).1,
          (perform options actions[i] (hostAt options actions h i)).2.1) := by
  -- An action is carried out on what all before it have left, so the induction takes the last one off.
  induction actions using List.reverseRecOn with
  | nil => exact ⟨[], h, rfl, hq, rfl, fun i hi => absurd hi (by simp)⟩
  | append_singleton actions a ih =>
    obtain ⟨endings, h₁, hr, hq₁, hl, he⟩ := ih
    obtain ⟨h₂, hs, hq₂⟩ := step_quiet options (tally endings) a hq₁
    refine ⟨endings ++ [((perform options a h₁).1, (perform options a h₁).2.1)], h₂, ?_, hq₂, by simp [hl], ?_⟩
    · rw [runActions_concat, run_bind_eq, hr]
      simpa [tally] using hs
    · intro i hi
      rw [List.length_append, List.length_singleton] at hi
      by_cases hlast : i = actions.length
      · subst hlast
        have hat : hostAt options (actions ++ [a]) h actions.length = h₁ := by
          simp [hostAt, hr]
        rw [List.getElem?_append_right (by omega)]
        simp [hat, hl]
      · have hi' : i < actions.length := by omega
        have hat : hostAt options (actions ++ [a]) h i = hostAt options actions h i := by
          simp [hostAt, List.take_append_of_le_length (Nat.le_of_lt hi')]
        rw [List.getElem?_append_left (by omega), he i hi', hat, List.getElem_append_left hi']

/-- The report on a batch is that on its actions, with or without a last notification. -/
theorem execute_quiet (options : ExecutionOptions) (actions : List Action) {h h₁ : Host} {report : Report}
    (hr : (runActions options actions).run h = (.ok report, h₁)) (hq : Quiet h₁) :
    ∃ h', (execute options actions).run h = (.ok report, h') := by
  unfold execute
  rw [run_bind_eq, hr]
  by_cases hs : options.notifySummary
  · simp only [hs, if_true]
    rw [run_bind_eq, notify_run hq]
    exact ⟨_, rfl⟩
  · simp only [hs]
    exact ⟨_, rfl⟩

/-- The diagnostics of the action at position `i`. -/
def about (report : Report) (i : Int) : List Diagnostic :=
  report.diagnostics.filter (·.index = some i)

theorem tally_concat (endings : Endings) (e : Outcome × List Event) :
    tally (endings ++ [e]) = record (tally endings) e.1 e.2 := by
  simp [tally]

theorem record_attempted (report : Report) (outcome : Outcome) (events : List Event) :
    (record report outcome events).attempted = report.attempted + 1 := by
  cases outcome <;> rfl

theorem record_diagnostics (report : Report) (outcome : Outcome) (events : List Event) :
    (record report outcome events).diagnostics =
      report.diagnostics ++ events.map (Diagnostic.mk (some report.attempted)) := by
  cases outcome <;> rfl

theorem tally_attempted (endings : Endings) : (tally endings).attempted = endings.length := by
  induction endings using List.reverseRecOn with
  | nil => rfl
  | append_singleton endings e ih => rw [tally_concat, record_attempted, ih]; simp

/-- How an action is counted. -/
inductive Tag
  | succeeded
  | failed
  | unknown
  deriving DecidableEq

def Outcome.tag : Outcome → Tag
  | .succeeded => .succeeded
  | .failed _ => .failed
  | .unknown _ => .unknown

def counted (report : Report) : Tag → List Int
  | .succeeded => report.succeeded
  | .failed => report.failed
  | .unknown => report.unknown

theorem counted_record (report : Report) (outcome : Outcome) (events : List Event) (tag : Tag) :
    counted (record report outcome events) tag =
      counted report tag ++ if outcome.tag = tag then [report.attempted] else [] := by
  cases outcome <;> cases tag <;> simp [record, counted, Outcome.tag]

theorem mem_counted_tally (endings : Endings) (tag : Tag) (i : Int) :
    i ∈ counted (tally endings) tag ↔
      ∃ (k : Nat) (e : Outcome × List Event), endings[k]? = some e ∧ e.1.tag = tag ∧ i = k := by
  induction endings using List.reverseRecOn with
  | nil => cases tag <;> simp [tally, counted]
  | append_singleton endings e ih =>
    rw [tally_concat, counted_record, List.mem_append, ih, tally_attempted]
    constructor
    · rintro (⟨k, e', hk, ht, hi⟩ | hi)
      · exact ⟨k, e', by rw [List.getElem?_append_left (List.getElem?_eq_some_iff.1 hk).1, hk], ht, hi⟩
      · split at hi
        · rename_i ht
          exact ⟨endings.length, e, by simp, ht, by simpa using hi⟩
        · simp at hi
    · rintro ⟨k, e', hk, ht, hi⟩
      by_cases hlast : k < endings.length
      · rw [List.getElem?_append_left hlast] at hk
        exact .inl ⟨k, e', hk, ht, hi⟩
      · have hlt := (List.getElem?_eq_some_iff.1 hk).1
        rw [List.length_append, List.length_singleton] at hlt
        obtain rfl : k = endings.length := by omega
        obtain rfl : e = e' := by simpa using hk
        rw [if_pos ht]
        exact .inr (by simp [hi])

theorem counted_tally_sorted (endings : Endings) (tag : Tag) : (counted (tally endings) tag).Pairwise (· < ·) := by
  induction endings using List.reverseRecOn with
  | nil => cases tag <;> exact .nil
  | append_singleton endings e ih =>
    rw [tally_concat, counted_record, List.pairwise_append]
    refine ⟨ih, by split <;> simp, fun i hi j hj => ?_⟩
    obtain ⟨k, e', hk, -, rfl⟩ := (mem_counted_tally endings tag i).1 hi
    have hlt := (List.getElem?_eq_some_iff.1 hk).1
    rw [tally_attempted] at hj
    split at hj
    · rw [List.mem_singleton] at hj
      omega
    · simp at hj

theorem about_tally (endings : Endings) (k : Nat) :
    about (tally endings) k = endings[k]?.elim [] fun e => e.2.map (Diagnostic.mk (some (k : Int))) := by
  induction endings using List.reverseRecOn with
  | nil => rfl
  | append_singleton endings e ih =>
    have hsplit : about (tally (endings ++ [e])) k = about (tally endings) k ++
        (e.2.map (Diagnostic.mk (some (endings.length : Int)))).filter (·.index = some (k : Int)) := by
      rw [tally_concat, about, record_diagnostics, List.filter_append, tally_attempted, about]
    rw [hsplit, ih, List.filter_map]
    by_cases hk : k = endings.length
    · subst hk
      have hall : e.2.filter (fun _ => true) = e.2 := List.filter_eq_self.2 fun _ _ => rfl
      simp [Function.comp_def, hall]
    · have hne : (endings.length : Int) ≠ k := by omega
      by_cases hlt : k < endings.length
      · simp [Function.comp_def, hne, List.getElem?_append_left hlt]
      · rw [List.getElem?_eq_none (by omega), List.getElem?_eq_none (by simp; omega)]
        simp [Function.comp_def, hne]

theorem indices_tally (endings : Endings) :
    ∃ indices : List Int, (tally endings).diagnostics.map (·.index) = indices.map some ∧
      indices.Pairwise (· ≤ ·) ∧ ∀ i ∈ indices, 0 ≤ i ∧ i < endings.length := by
  induction endings using List.reverseRecOn with
  | nil => exact ⟨[], rfl, .nil, by simp⟩
  | append_singleton endings e ih =>
    obtain ⟨indices, hm, hs, hr⟩ := ih
    refine ⟨indices ++ e.2.map fun _ => (endings.length : Int), ?_, ?_, ?_⟩
    · rw [tally_concat, record_diagnostics, tally_attempted, List.map_append, hm]
      simp [Function.comp_def]
    · rw [List.pairwise_append]
      refine ⟨hs, List.pairwise_map.2 (List.pairwise_of_forall fun _ _ => Int.le_refl _), fun i hi j hj => ?_⟩
      obtain ⟨-, -, rfl⟩ := List.mem_map.1 hj
      exact Int.le_of_lt (hr i hi).2
    · intro i hi
      rw [List.length_append, List.length_singleton]
      rcases List.mem_append.1 hi with hi | hi
      · have := hr i hi
        omega
      · obtain ⟨-, -, rfl⟩ := List.mem_map.1 hi
        omega

/-- What is no action is read as one. -/
def coerce : Json ⊕ Action → Action :=
  Sum.elim Action.ofJson id

/-- What a report on `actions` says of a run that starts at `h`. -/
structure Accounts (options : ExecutionOptions) (actions : List Action) (h : Host) (report : Report) : Prop where
  attempted : report.attempted = actions.length
  succeeded_sorted : report.succeeded.Pairwise (· < ·)
  failed_sorted : report.failed.Pairwise (· < ·)
  unknown_sorted : report.unknown.Pairwise (· < ·)
  succeeded_disjoint_failed : report.succeeded.Disjoint report.failed
  succeeded_disjoint_unknown : report.succeeded.Disjoint report.unknown
  failed_disjoint_unknown : report.failed.Disjoint report.unknown
  covered : ∀ i, i ∈ report.succeeded ∨ i ∈ report.failed ∨ i ∈ report.unknown ↔ 0 ≤ i ∧ i < actions.length
  unknown_iff : ∀ i (hi : i < actions.length), (i : Int) ∈ report.unknown ↔ Op.ofName? actions[i].op = none
  diagnostics_sorted : ∃ indices : List Int, report.diagnostics.map (·.index) = indices.map some ∧
    indices.Pairwise (· ≤ ·) ∧ ∀ i ∈ indices, 0 ≤ i ∧ i < actions.length
  unknown_once : ∀ i (hi : i < actions.length), (i : Int) ∈ report.unknown →
    about report i = [⟨some i, .unknownOperation (.str actions[i].op)⟩]
  failed_last : ∀ i (hi : i < actions.length), (i : Int) ∈ report.failed →
    ∃ e, (perform options actions[i] (hostAt options actions h i)).1 = .failed e ∧
      (about report i).getLast? = some ⟨some i, e⟩ ∧ e.code ∈ failureCodes

theorem disjoint_counted (endings : Endings) (tag tag' : Tag) (ht : tag ≠ tag') :
    (counted (tally endings) tag).Disjoint (counted (tally endings) tag') := by
  intro i hi hi'
  obtain ⟨k, e, hk, he, rfl⟩ := (mem_counted_tally endings tag i).1 hi
  obtain ⟨k', e', hk', he', hkk⟩ := (mem_counted_tally endings tag' k).1 hi'
  obtain rfl : k = k' := by omega
  rw [hk] at hk'
  cases hk'
  exact ht (he.symm.trans he')

/-- No position is left out, since every outcome is counted under some tag. -/
theorem covered_tally (endings : Endings) (i : Int) :
    i ∈ (tally endings).succeeded ∨ i ∈ (tally endings).failed ∨ i ∈ (tally endings).unknown ↔
      0 ≤ i ∧ i < endings.length := by
  constructor
  · intro hi
    have hmem : ∃ tag, i ∈ counted (tally endings) tag := by
      rcases hi with hi | hi | hi
      · exact ⟨.succeeded, hi⟩
      · exact ⟨.failed, hi⟩
      · exact ⟨.unknown, hi⟩
    obtain ⟨tag, hi⟩ := hmem
    obtain ⟨k, e, hk, -, rfl⟩ := (mem_counted_tally endings tag i).1 hi
    have hlt := (List.getElem?_eq_some_iff.1 hk).1
    omega
  · rintro ⟨h0, hi⟩
    obtain ⟨k, rfl⟩ := Int.eq_ofNat_of_zero_le h0
    have hk : k < endings.length := by omega
    have hin (tag : Tag) (ht : endings[k].1.tag = tag) : (k : Int) ∈ counted (tally endings) tag :=
      (mem_counted_tally endings tag k).2 ⟨k, endings[k], List.getElem?_eq_getElem hk, ht, rfl⟩
    cases ht : endings[k].1.tag with
    | succeeded => exact .inl (hin .succeeded ht)
    | failed => exact .inr (.inl (hin .failed ht))
    | unknown => exact .inr (.inr (hin .unknown ht))

section Tally

variable {options : ExecutionOptions} {actions : List Action} {h : Host} {endings : Endings} {i : Nat}
  (he : ∀ i (hi : i < actions.length), endings[i]? =
    some ((perform options actions[i] (hostAt options actions h i)).1,
      (perform options actions[i] (hostAt options actions h i)).2.1))

include he

theorem mem_counted_iff (tag : Tag) (hi : i < actions.length) : (i : Int) ∈ counted (tally endings) tag ↔
    (perform options actions[i] (hostAt options actions h i)).1.tag = tag := by
  rw [mem_counted_tally]
  constructor
  · rintro ⟨k, e, hk, ht, hik⟩
    obtain rfl : i = k := by omega
    rw [he i hi] at hk
    cases hk
    exact ht
  · exact fun ht => ⟨i, _, he i hi, ht, rfl⟩

theorem mem_unknown_iff (hi : i < actions.length) :
    (i : Int) ∈ (tally endings).unknown ↔ Op.ofName? actions[i].op = none := by
  refine (mem_counted_iff he .unknown hi).trans ?_
  obtain ⟨hop, ho, -⟩ | ⟨hop, ho | ⟨e, ho, -⟩⟩ := perform_cases options actions[i] (hostAt options actions h i) <;> rw [ho]
  · exact ⟨fun _ => hop, fun _ => rfl⟩
  all_goals
    refine ⟨fun ht => (by cases ht), fun hn => ?_⟩
    rw [hn] at hop
    cases hop

theorem about_unknown (hi : i < actions.length) (hu : (i : Int) ∈ (tally endings).unknown) :
    about (tally endings) i = [⟨some i, .unknownOperation (.str actions[i].op)⟩] := by
  have ht := (mem_counted_iff he .unknown hi).1 hu
  rw [about_tally, he i hi]
  obtain ⟨-, -, hv⟩ | ⟨-, ho | ⟨e, ho, -⟩⟩ := perform_cases options actions[i] (hostAt options actions h i)
  · exact congrArg _ hv
  all_goals
    rw [ho] at ht
    cases ht

theorem getLast_about_failed (hi : i < actions.length) (hf : (i : Int) ∈ (tally endings).failed) :
    ∃ e, (perform options actions[i] (hostAt options actions h i)).1 = .failed e ∧
      (about (tally endings) i).getLast? = some ⟨some i, e⟩ ∧ e.code ∈ failureCodes := by
  have ht := (mem_counted_iff he .failed hi).1 hf
  obtain ⟨-, ho, -⟩ | ⟨-, ho | ⟨e, ho, hc⟩⟩ := perform_cases options actions[i] (hostAt options actions h i)
  · rw [ho] at ht
    cases ht
  · rw [ho] at ht
    cases ht
  · refine ⟨e, ho, ?_, hc⟩
    rw [about_tally, he i hi]
    show (List.map _ _).getLast? = _
    rw [List.getLast?_map, getLast_events_of_failed ho]
    rfl

theorem accounts_tally (hl : endings.length = actions.length) : Accounts options actions h (tally endings) where
  attempted := by rw [tally_attempted, hl]
  succeeded_sorted := counted_tally_sorted endings .succeeded
  failed_sorted := counted_tally_sorted endings .failed
  unknown_sorted := counted_tally_sorted endings .unknown
  succeeded_disjoint_failed := disjoint_counted endings .succeeded .failed (by decide)
  succeeded_disjoint_unknown := disjoint_counted endings .succeeded .unknown (by decide)
  failed_disjoint_unknown := disjoint_counted endings .failed .unknown (by decide)
  covered i := by rw [covered_tally, hl]
  unknown_iff i hi := mem_unknown_iff he hi
  diagnostics_sorted := by rw [← hl]; exact indices_tally endings
  unknown_once i hi := about_unknown he hi
  failed_last i hi := getLast_about_failed he hi

end Tally

/-- Whatever calls but notifications fail, a batch is carried out to its end, and its report accounts for every action. -/
theorem execute_accounts (options : ExecutionOptions) (items : List (Json ⊕ Action)) (h : Host) (hq : Quiet h) :
    ∃ report h', (execute options (items.map coerce)).run h = (.ok report, h') ∧
      Accounts options (items.map coerce) h report := by
  obtain ⟨endings, h₁, hr, hq₁, hl, he⟩ := runActions_quiet options (items.map coerce) hq
  have hfinish : ∃ h₂, (execute options (items.map coerce)).run h = (.ok (tally endings), h₂) := by
    unfold execute
    rw [run_bind_eq, hr]
    by_cases hs : options.notifySummary
    · obtain ⟨h₂, hn, -⟩ := notify_quiet hq₁ (tally endings).summary
      refine ⟨h₂, ?_⟩
      simp only [hs, if_true]
      rw [run_bind_eq, hn]
      rfl
    · refine ⟨h₁, ?_⟩
      simp only [hs]
      rfl
  obtain ⟨h₂, hx⟩ := hfinish
  exact ⟨tally endings, h₂, hx, accounts_tally he hl⟩

/-- A value that is no action, an operation that does not exist, a layer that cannot be made and one that is not there. -/
theorem execute_accounts_without_layers :
    let h : Host := { faults := Faults.always [(.createNode, "no room"), (.loadFont, "no font")] }
    let items := [.inl (.bool true), .inr ⟨"fly", [], .null⟩, .inr ⟨"create_text", [], .null⟩, .inr ⟨"delete", [], .str "sun"⟩]
    Quiet h ∧ ∃ report h', (execute {} (items.map coerce)).run h = (.ok report, h') ∧ Accounts {} (items.map coerce) h report :=
  ⟨fun _ => rfl, execute_accounts {} _ _ fun _ => rfl⟩

end Execution

end Easel
