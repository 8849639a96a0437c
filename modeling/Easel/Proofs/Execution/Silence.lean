import Easel.Proofs.Execution.Atomicity
import Easel.Proofs.Execution.Composition
import Easel.Proofs.Execution.Discretion

/-!
A host that cannot tell the user anything, beside one that can. Both carry out the same actions in the same way until there is
something to tell: a notification that fails within an action only ends the action, which is done by then, but one that fails
behind an action ends the batch.
-/

namespace Easel.Execution

open Document Host

variable {α β : Type} {data : List (String × String)} {options : ExecutionOptions} {actions : List Action} {h g : Host} {r s : Run}
  {t : Task}

/-- Every notification fails. -/
def Mute (h : Host) : Prop := ∀ n, (h.faults n .notify).isSome

/-- Hosts with one document, apart from what the user was told. -/
def Kin (h g : Host) : Prop := ∃ data, Host.Twins data h g

/-- Runs on such hosts, with the same events so far. -/
structure KinRuns (r s : Run) : Prop where
  host : Kin r.host s.host
  events : s.events = r.events

theorem Kin.mute (hk : Kin h g) : g.document.mute = h.document.mute := by
  obtain ⟨data, hk⟩ := hk
  obtain ⟨notes, hn⟩ := hk.document
  have hd : h.document.pluginData = data := hk.data
  rw [hn, ← hd]
  rfl

theorem kin_of_mute (hcalls : g.calls = h.calls) (hdoc : g.document.mute = h.document.mute)
    (hfaults : ∀ n call, call ≠ .notify → g.faults n call = h.faults n call) : Kin h g := by
  refine ⟨h.document.pluginData, hcalls, ⟨g.document.notifications, ?_⟩, rfl, hfaults⟩
  have hg : g.document = g.document.mute.aside g.document.notifications g.document.pluginData := rfl
  have hd : g.document.pluginData = h.document.pluginData := congrArg (·.pluginData) hdoc
  rw [hg, hdoc, hd]
  rfl

/-! ### Handlers -/

theorem kin_of_discreet {m : HostM α} (hm : ∀ data, Host.Discreet data m) : Parallel Kin m := by
  rintro h g ⟨data, hk⟩
  obtain ⟨ha, h'⟩ := hm data h g hk
  exact ⟨ha, data, h'⟩

theorem kinRuns_of_discreet {m : Handler α} (hm : ∀ data, Discreet data m) : Parallel KinRuns m := by
  rintro r s ⟨⟨data, hk⟩, he⟩
  obtain ⟨ha, h'⟩ := hm data r s ⟨hk, he⟩
  exact ⟨ha, ⟨data, h'.host⟩, h'.events⟩

theorem setData_kin (key value : String) : Parallel Kin (Host.setData key value) := by
  refine .bind (kin_of_discreet fun _ => .enter (by decide)) fun _ => ?_
  rintro h g ⟨data, hk⟩
  obtain ⟨notes, hn⟩ := hk.document
  refine ⟨rfl, (h.document.putData key value).pluginData, hk.calls, ⟨notes, ?_⟩, rfl, hk.faults⟩
  show g.document.putData key value = (h.document.putData key value).aside notes _
  have hd : data = h.document.pluginData := hk.data.symm
  rw [hn, hd]
  rfl

theorem call_kin {m : HostM α} (hm : Parallel Kin m) : Parallel KinRuns (liftM m : Handler α) := by
  intro r s hrs
  obtain ⟨ha, h'⟩ := hm r.host s.host hrs.host
  rw [Handler.call_run, Handler.call_run, ha]
  exact ⟨rfl, h', hrs.events⟩

/-- On a mute host the handler does the same, but it may fail where it comes to its end on another. -/
def Muffled (m : Handler Unit) : Prop := ∀ r s, KinRuns r s → Quiet r.host → Mute s.host →
  KinRuns (m.run r).2 (m.run s).2 ∧
    ((m.run s).1 = (m.run r).1 ∨ (m.run r).1 = .ok () ∧ ∃ e, (m.run s).1 = .error (.failed e))

theorem Muffled.of_kin {m : Handler Unit} (hm : Parallel KinRuns m) : Muffled m := by
  intro r s hrs _ _
  obtain ⟨ha, h'⟩ := hm r s hrs
  exact ⟨h', .inl ha⟩

theorem Muffled.bind {m : Handler α} {k : α → Handler Unit} (hp : Plain m) (hm : Parallel KinRuns m) (hk : ∀ a, Muffled (k a)) :
    Muffled (m >>= k) := by
  intro r s hrs hq hmute
  obtain ⟨ha, h'⟩ := hm r s hrs
  -- Which calls fail is laid down for good, so what follows runs on one host that is heard and one that is mute.
  have hr := hp.run_rel Host.stepwise_faults r
  have hs := hp.run_rel Host.stepwise_faults s
  rw [run_bind_eq, run_bind_eq]
  rcases hmr : m.run r with ⟨e | a, r'⟩ <;> rcases hms : m.run s with ⟨e' | a', s'⟩ <;>
    rw [hmr, hms] at ha h' <;> rw [hmr] at hr <;> rw [hms] at hs <;> cases ha
  · exact ⟨h', .inl rfl⟩
  · refine hk a r' s' h' (fun n => ?_) fun n => ?_
    · rw [hr]
      exact hq n
    · rw [hs]
      exact hmute n

theorem Muffled.view {k : Document → Handler Unit} (hk : ∀ d notes data, k (d.aside notes data) = k d)
    (h : ∀ d, Muffled (k d)) : Muffled (liftM Host.view >>= k) := by
  intro r s hrs hq hmute
  obtain ⟨data, hkin⟩ := hrs.host
  obtain ⟨notes, hn⟩ := hkin.document
  have hrun (q : Run) : (liftM Host.view >>= k : Handler Unit).run q = (k q.host.document).run q := rfl
  rw [hrun, hrun, hn, hk]
  exact h r.host.document r s hrs hq hmute

theorem notify_mute (hm : Mute h) (message : String) :
    ∃ e, (Host.notify message).run h = (.error e, { h with calls := h.calls + 1 }) := by
  obtain ⟨fault, hfault⟩ := Option.isSome_iff_exists.1 (hm h.calls)
  refine ⟨.failed fault, ?_⟩
  unfold Host.notify
  rw [run_bind_eq, Host.enter_run, hfault]

theorem notify_muffled (message : String) : Muffled (liftM (Host.notify message)) := by
  intro r s hrs hq hmute
  obtain ⟨e, he⟩ := notify_mute hmute message
  obtain ⟨⟨data, hk⟩, hevents⟩ := hrs
  obtain ⟨notes, hn⟩ := hk.document
  rw [Handler.call_run, Handler.call_run, notify_run hq, he]
  refine ⟨⟨⟨data, by rw [hk.calls], ⟨notes, hn⟩, hk.data, hk.faults⟩, hevents⟩, .inr ⟨rfl, e, rfl⟩⟩

theorem findByName_muffled : Muffled (findByName t) := by
  refine .bind (.call (Lookup.byName_plain _)) (kinRuns_of_discreet fun _ => .call (.byName _)) fun ids => ?_
  split
  · exact .of_kin (kinRuns_of_discreet fun _ => .emit _)
  · rename_i best _
    refine .bind (.focus _) (kinRuns_of_discreet fun _ => .focus _) fun _ => ?_
    refine .bind (.call (.setData _ _)) (call_kin (setData_kin _ _)) fun _ => ?_
    exact .view (fun _ _ _ => rfl) fun d => notify_muffled _

theorem handle_muffled (op : Op) (t : Task) : Muffled (handle op t) := by
  by_cases hop : op = .findByName
  · subst hop
    exact findByName_muffled
  · exact .of_kin (kinRuns_of_discreet fun _ => handle_discreet hop t)

/-! ### Actions -/

/-- An action does the same on a mute host, and it has the same to tell. -/
theorem perform_kin (hk : Kin h g) (hq : Quiet h) (hm : Mute g) (options : ExecutionOptions) (a : Action) :
    Kin (perform options a h).2.2 (perform options a g).2.2 ∧
      (perform options a g).2.1.filter (·.isUserFacing) = (perform options a h).2.1.filter (·.isUserFacing) := by
  have hstart : KinRuns ⟨h, []⟩ ⟨g, []⟩ := ⟨hk, rfl⟩
  obtain ⟨-, he⟩ | ⟨-, -, he⟩ | ⟨op, -, -, he⟩ := apply_cases options a <;> rw [perform_eq, perform_eq, he]
  · exact ⟨hk, rfl⟩
  · exact ⟨hk, rfl⟩
  · -- An action that failed only for its last notification is reported as failed, which is not told the user.
    obtain ⟨h', hsame | ⟨hok, e, herror⟩⟩ := handle_muffled op (taskOf options a) ⟨h, []⟩ ⟨g, []⟩ hstart hq hm
    · dsimp only
      rw [hsame, h'.events]
      exact ⟨h'.host, rfl⟩
    · dsimp only
      rw [hok, herror, h'.events]
      refine ⟨h'.host, ?_⟩
      simp [outcomeOf, Outcome.event?, Event.isUserFacing]

/-! ### Batches -/

/-- The action at position `i` has something to tell the user. -/
def Tells (options : ExecutionOptions) (actions : List Action) (h : Host) (i : Nat) : Prop :=
  ∃ a, actions[i]? = some a ∧ ∃ e ∈ (perform options a (hostAt options actions h i)).2.1, e.isUserFacing

theorem forM_notify_mute (hm : Mute g) {events : List Event} (he : events ≠ []) :
    ∃ e, (events.forM fun e => Host.notify e.message).run g = (.error e, { g with calls := g.calls + 1 }) := by
  cases events with
  | nil => exact absurd rfl he
  | cons event rest =>
    obtain ⟨e, hn⟩ := notify_mute hm event.message
    refine ⟨e, ?_⟩
    show (Host.notify event.message >>= fun _ => rest.forM fun e => Host.notify e.message).run g = _
    rw [run_bind_eq, hn]

/-- Notifications leave the document as it is, whether they are heard or not. -/
theorem mute_notify (message : String) (h : Host) : ((Host.notify message).run h).2.document.mute = h.document.mute := by
  unfold Host.notify
  rw [run_bind_eq, Host.enter_run]
  cases h.faults h.calls .notify <;> rfl

theorem mute_forM_notify (events : List Event) (h : Host) :
    ((events.forM fun e => Host.notify e.message).run h).2.document.mute = h.document.mute := by
  induction events generalizing h with
  | nil => rfl
  | cons event rest ih =>
    have hfirst := mute_notify event.message h
    show ((Host.notify event.message >>= fun _ => rest.forM fun e => Host.notify e.message).run h).2.document.mute = _
    rw [run_bind_eq]
    rcases hr : (Host.notify event.message).run h with ⟨e | u, h'⟩ <;> rw [hr] at hfirst
    · exact hfirst
    · exact (ih h').trans hfirst

theorem mute_step (options : ExecutionOptions) (report : Report) (a : Action) (h : Host) :
    ((step options report a).run h).2.document.mute = (perform options a h).2.2.document.mute := by
  have hforM := mute_forM_notify ((perform options a h).2.1.filter (·.isUserFacing)) (perform options a h).2.2
  rw [step_run, run_bind_eq]
  generalize (((perform options a h).2.1.filter (·.isUserFacing)).forM fun e => Host.notify e.message).run
    (perform options a h).2.2 = told at hforM ⊢
  obtain ⟨e | u, h'⟩ := told <;> exact hforM

theorem step_untold (report : Report) {a : Action} (hnone : (perform options a h).2.1.filter (·.isUserFacing) = []) :
    (step options report a).run h =
      (.ok (record report (perform options a h).1 (perform options a h).2.1), (perform options a h).2.2) := by
  rw [step_run, hnone]
  rfl

theorem Mute.perform (hm : Mute g) (options : ExecutionOptions) (a : Action) : Mute (perform options a g).2.2 := by
  intro n
  rw [perform_rel Host.stepwise_faults]
  exact hm n

theorem step_told (hm : Mute g) (report : Report) {a : Action} (hsome : (perform options a g).2.1.filter (·.isUserFacing) ≠ []) :
    ∃ e g', (step options report a).run g = (.error e, g') := by
  obtain ⟨e, he⟩ := forM_notify_mute (hm.perform options a) hsome
  rw [step_run, run_bind_eq, he]
  exact ⟨e, _, rfl⟩

/-- The first actions of a batch, as far as a host that is heard carries them out. -/
theorem runActions_take_quiet (hq : Quiet h) (options : ExecutionOptions) (actions : List Action) (n : Nat) :
    ∃ report, (runActions options (actions.take n)).run h = (.ok report, hostAt options actions h n) ∧
      Quiet (hostAt options actions h n) := by
  obtain ⟨endings, h', hr, hq', -⟩ := runActions_quiet options (actions.take n) hq
  have hat : hostAt options actions h n = h' := congrArg Prod.snd hr
  exact ⟨_, hat ▸ hr, hat ▸ hq'⟩

theorem filter_userFacing_eq_nil_iff {a : Action} {i : Nat} (ha : actions[i]? = some a) :
    (perform options a (hostAt options actions h i)).2.1.filter (·.isUserFacing) = [] ↔ ¬Tells options actions h i := by
  simp [Tells, ha]

/-- As long as there is nothing to tell, a mute host goes along. -/
theorem runActions_kin (hk : Kin h g) (hq : Quiet h) (hm : Mute g) {n : Nat} (hn : n ≤ actions.length)
    (hnone : ∀ i < n, ¬Tells options actions h i) :
    ∃ report g', (runActions options (actions.take n)).run g = (.ok report, g') ∧ report.attempted = n ∧
      Kin (hostAt options actions h n) g' ∧ Mute g' := by
  -- The reports may differ, but no action looks at them.
  induction n with
  | zero => exact ⟨{}, g, rfl, rfl, hk, hm⟩
  | succ n ih =>
    obtain ⟨report, g', hr, hattempted, hkin, hmute⟩ := ih (Nat.le_of_lt hn) fun i hi => hnone i (Nat.lt_succ_of_lt hi)
    obtain ⟨heard, hloud, hquiet⟩ := runActions_take_quiet hq options actions n
    have ha : actions[n]? = some actions[n] := List.getElem?_eq_getElem hn
    obtain ⟨hkin', hevents⟩ := perform_kin hkin hquiet hmute options actions[n]
    have hfilter := (filter_userFacing_eq_nil_iff ha).2 (hnone n (Nat.lt_succ_self n))
    refine ⟨record report (perform options actions[n] g').1 (perform options actions[n] g').2.1, _, ?_, ?_, ?_,
      hmute.perform options actions[n]⟩
    · rw [List.take_succ_eq_append_getElem hn, runActions_concat, run_bind_eq, hr]
      exact step_untold report (hevents.trans hfilter)
    · rw [record_attempted, hattempted]
      rfl
    · rw [hostAt_succ hn hloud, step_untold heard hfilter]
      exact hkin'

/-- Where there is something to tell, a mute host has done its last action. -/
theorem runActions_cut (hk : Kin h g) (hq : Quiet h) (hm : Mute g) {i : Nat} (htells : Tells options actions h i)
    (hfirst : ∀ j < i, ¬Tells options actions h j) :
    ∃ e g', (runActions options actions).run g = (.error e, g') ∧
      g'.document.mute = (hostAt options actions h (i + 1)).document.mute := by
  obtain ⟨a, ha, htold⟩ := htells
  obtain ⟨hi, rfl⟩ := List.getElem?_eq_some_iff.1 ha
  obtain ⟨report, g', hr, -, hkin, hmute⟩ := runActions_kin hk hq hm (Nat.le_of_lt hi) hfirst
  obtain ⟨heard, hloud, hquiet⟩ := runActions_take_quiet hq options actions i
  obtain ⟨hkin', hevents⟩ := perform_kin hkin hquiet hmute options actions[i]
  have hsome : (perform options actions[i] g').2.1.filter (·.isUserFacing) ≠ [] := by
    rw [hevents, Ne, filter_userFacing_eq_nil_iff ha]
    exact not_not.2 ⟨_, ha, htold⟩
  obtain ⟨e, g'', hstep⟩ := step_told hmute report hsome
  have hcut : (runActions options (actions.take (i + 1))).run g = (.error e, g'') := by
    rw [List.take_succ_eq_append_getElem hi, runActions_concat, run_bind_eq, hr]
    exact hstep
  refine ⟨e, g'', ?_, ?_⟩
  · rw [← List.take_append_drop (i + 1) actions, runActions_append, run_bind_eq, hcut]
  · have hdoc : g''.document.mute = (perform options actions[i] g').2.2.document.mute := by
      rw [← mute_step options report, hstep]
    rw [hdoc, hkin'.mute, hostAt_succ hi hloud, mute_step]

/-- What a batch comes to on a host that cannot tell the user anything, beside one that can. -/
structure Silenced (options : ExecutionOptions) (actions : List Action) (h g : Host) : Prop where
  /-- Nothing is lost as long as no action has something to tell. -/
  whole : (∀ i, ¬Tells options actions h i) →
    ((execute options actions).run g).2.document.mute = ((execute options actions).run h).2.document.mute ∧
      ∃ report, ((runActions options actions).run g).1 = .ok report ∧ report.attempted = actions.length
  /-- The first that has is the last that is carried out. -/
  cut : ∀ i, Tells options actions h i → (∀ j < i, ¬Tells options actions h j) →
    (∃ e, ((execute options actions).run g).1 = .error e) ∧
      ((execute options actions).run g).2.document.mute = (hostAt options actions h (i + 1)).document.mute

theorem mute_execute {report : Report} (hr : (runActions options actions).run h = (.ok report, g)) :
    ((execute options actions).run h).2.document.mute = g.document.mute := by
  unfold execute
  rw [run_bind_eq, hr]
  by_cases hs : options.notifySummary
  · have hnotify := mute_notify report.summary g
    simp only [hs, if_true]
    rw [run_bind_eq]
    rcases hn : (Host.notify report.summary).run g with ⟨e | u, g'⟩ <;> rw [hn] at hnotify <;> exact hnotify
  · simp only [hs]
    rfl

/-- Whether the user can be told matters to the document only from the first action on that has something to tell: on a host
without notifications the batch ends with that action. -/
theorem silenced (hq : Quiet h) (hm : Mute g) (hcalls : g.calls = h.calls) (hdoc : g.document.mute = h.document.mute)
    (hfaults : ∀ n call, call ≠ .notify → g.faults n call = h.faults n call) (options : ExecutionOptions)
    (items : List (Json ⊕ Action)) : Silenced options (items.map coerce) h g := by
  generalize items.map coerce = actions
  have hk := kin_of_mute hcalls hdoc hfaults
  refine ⟨fun hnone => ?_, fun i htells hfirst => ?_⟩
  · obtain ⟨report, g', hr, hattempted, hkin, -⟩ := runActions_kin hk hq hm le_rfl fun i _ => hnone i
    obtain ⟨heard, hloud, -⟩ := runActions_take_quiet hq options actions actions.length
    rw [List.take_length] at hr hloud
    refine ⟨?_, report, by rw [hr], hattempted⟩
    rw [mute_execute hr, mute_execute hloud, hkin.mute]
  · obtain ⟨e, g', hr, hend⟩ := runActions_cut hk hq hm htells hfirst
    have hx : (execute options actions).run g = (.error e, g') := by
      unfold execute
      rw [run_bind_eq, hr]
    rw [hx]
    exact ⟨⟨e, rfl⟩, hend⟩

/-- Where nobody can be told that there is no such action, the rectangle after it is not drawn. -/
theorem silenced_by_unknown_action :
    let h : Host := {}
    let g : Host := { faults := Faults.always [(.notify, "no channel")] }
    let options : ExecutionOptions := { notifySummary := false }
    let items : List (Json ⊕ Action) := [.inr ⟨"make_coffee", [], .null⟩, .inr ⟨"create_rectangle", [], .null⟩]
    Quiet h ∧ Mute g ∧ Silenced options (items.map coerce) h g ∧ Tells options (items.map coerce) h 0 ∧
      ((execute options (items.map coerce)).run h).2.document.all.length = 1 ∧
      ((execute options (items.map coerce)).run g).2.document.all.length = 0 := by
  intro h g options items
  have hq : Quiet h := fun _ => rfl
  have hm : Mute g := fun _ => rfl
  exact ⟨hq, hm, silenced hq hm rfl rfl (fun _ call hc => by cases call <;> first | rfl | exact absurd rfl hc) options items,
    ⟨_, rfl, _, List.mem_singleton_self _, rfl⟩, by decide +kernel, by decide +kernel⟩

end Easel.Execution
