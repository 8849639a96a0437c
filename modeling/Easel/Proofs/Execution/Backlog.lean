import Easel.Proofs.Execution.Atomicity
import Easel.Proofs.Execution.Discretion
import Easel.Proofs.Execution.Speech

/-!
Messages that were not shown yet. A host whose document still holds some carries out batches like one whose document holds none, and
what it has to say comes behind them.
-/

namespace Easel

open Document

variable {α β : Type} {backlog : List String} {V : Event → Prop}

namespace Host

/-- The host with other messages in front of its own. -/
def behind (backlog : List String) (h : Host) : Host :=
  { h with document := { h.document with notifications := backlog ++ h.document.notifications } }

/-- Hosts that differ in a backlog of messages go on alike, and what the program has to say comes behind the backlog. -/
abbrev Heedless (backlog : List String) (m : HostM α) : Prop := Parallel (fun h g => g = h.behind backlog) m

theorem twins_behind (backlog : List String) (h : Host) : Twins h.document.pluginData h (h.behind backlog) :=
  ⟨rfl, ⟨_, rfl⟩, rfl, fun _ _ _ => rfl⟩

/-- Twins with the same calls laid down to fail differ in a backlog only, if that is all there is in the one document before the
messages of the other. -/
theorem Twins.eq_behind {data : List (String × String)} {h g : Host} (ht : Twins data h g) (hfaults : g.faults = h.faults)
    (hnotes : g.document.notifications = backlog ++ h.document.notifications) : g = h.behind backlog := by
  obtain ⟨notes, hdocument⟩ := ht.document
  have hdata : h.document.pluginData = data := ht.data
  have hnotes' : notes = backlog ++ h.document.notifications := by
    rw [hdocument] at hnotes
    exact hnotes
  have hbehind : g.document = (h.behind backlog).document := by
    rw [hdocument, hnotes', ← hdata]
    rfl
  have hcalls : g.calls = h.calls := ht.calls
  calc
    g = ⟨g.document, g.faults, g.calls⟩ := rfl
    _ = ⟨(h.behind backlog).document, h.faults, h.calls⟩ := by rw [hbehind, hfaults, hcalls]

theorem Mum.notifications {m : HostM α} (hm : ∀ N, Mum N m) (h : Host) :
    (m.run h).2.document.notifications = h.document.notifications := by
  have hmum := hm h.document.notifications h rfl
  rcases hr : m.run h with ⟨e | a, h'⟩ <;> rw [hr] at hmum <;> exact hmum

namespace Heedless

theorem of_mum {m : HostM α} (hp : Plain m) (hd : ∀ data, Discreet data m) (hm : ∀ N, Mum N m) : Heedless backlog m := by
  rintro h _ rfl
  obtain ⟨hanswer, htwins⟩ := hd _ h _ (twins_behind backlog h)
  refine ⟨hanswer, htwins.eq_behind ?_ ?_⟩
  · rw [hp.run_rel stepwise_faults, hp.run_rel stepwise_faults]
    rfl
  · rw [Mum.notifications hm, Mum.notifications hm]
    rfl

theorem enter (call : HostCall) : Heedless backlog (Host.enter call) := by
  rintro h _ rfl
  rw [Host.enter_run, Host.enter_run]
  exact ⟨rfl, rfl⟩

theorem notify (message : String) : Heedless backlog (Host.notify message) := by
  apply Parallel.bind (enter .notify)
  rintro _ h _ rfl
  refine ⟨rfl, ?_⟩
  show Host.mk { h.document with notifications := (backlog ++ h.document.notifications) ++ [message] } h.faults h.calls = _
  rw [List.append_assoc]
  rfl

theorem setData (key value : String) : Heedless backlog (Host.setData key value) := by
  apply Parallel.bind (enter .setData)
  rintro _ h _ rfl
  exact ⟨rfl, rfl⟩

end Heedless
end Host

namespace Execution

/-- The run of a handler on a host with a backlog. -/
def Run.behind (backlog : List String) (r : Run) : Run := { r with host := r.host.behind backlog }

abbrev Heedless (backlog : List String) (m : Handler α) : Prop := Parallel (fun r s => s = Run.behind backlog r) m

theorem Mum.notifications {m : Handler α} (hm : ∀ N, Mum V N m) {r : Run} (hv : ∀ e ∈ r.events, V e) :
    (m.run r).2.host.document.notifications = r.host.document.notifications := by
  have hmum := hm r.host.document.notifications r ⟨rfl, hv⟩
  rcases hr : m.run r with ⟨e | a, r'⟩ <;> rw [hr] at hmum <;> exact hmum.1

/-- What has been said before may be anything that the handler may say. -/
theorem run_behind {m : Handler α} (hp : Plain m) (hd : ∀ data, Discreet data m) (hm : ∀ N, Mum V N m) {r : Run}
    (hv : ∀ e ∈ r.events, V e) : m.run (Run.behind backlog r) = ((m.run r).1, Run.behind backlog (m.run r).2) := by
  have htwins : Twins r.host.document.pluginData r (Run.behind backlog r) := ⟨Host.twins_behind backlog r.host, rfl⟩
  obtain ⟨hanswer, htwins'⟩ := hd _ r _ htwins
  have hhost : (m.run (Run.behind backlog r)).2.host = (m.run r).2.host.behind backlog := by
    apply htwins'.host.eq_behind
    · rw [hp.run_rel Host.stepwise_faults, hp.run_rel Host.stepwise_faults]
      rfl
    · rw [Mum.notifications hm hv, Mum.notifications hm (r := Run.behind backlog r) hv]
      rfl
  refine Prod.ext hanswer ?_
  calc
    (m.run (Run.behind backlog r)).2 =
        ⟨(m.run (Run.behind backlog r)).2.host, (m.run (Run.behind backlog r)).2.events⟩ := rfl
    _ = ⟨(m.run r).2.host.behind backlog, (m.run r).2.events⟩ := by rw [hhost, htwins'.events]

namespace Heedless

variable {t : Task}

theorem of_mum {m : Handler α} (hp : Plain m) (hd : ∀ data, Discreet data m) (hm : ∀ N, Mum (fun _ => True) N m) :
    Heedless backlog m := by
  rintro r _ rfl
  rw [run_behind hp hd hm fun _ _ => trivial]
  exact ⟨rfl, rfl⟩

theorem call {m : HostM α} (hm : Host.Heedless backlog m) : Heedless backlog (liftM m : Handler α) := by
  rintro r _ rfl
  obtain ⟨hanswer, hhost⟩ := hm r.host _ rfl
  rw [Handler.call_run, Handler.call_run]
  refine ⟨?_, ?_⟩
  · dsimp only [Run.behind]
    rw [hanswer]
  · dsimp only [Run.behind]
    rw [hhost]

theorem emit (e : Event) : Heedless backlog (Handler.emit e) := by
  rintro r _ rfl
  exact ⟨rfl, rfl⟩

theorem view {k : Document → Handler β} (hk : ∀ d notes data, k (d.aside notes data) = k d)
    (h : ∀ d, Heedless backlog (k d)) : Heedless backlog (liftM Host.view >>= k) := by
  rintro r _ rfl
  have hrun (q : Run) : (liftM Host.view >>= k : Handler β).run q = (k q.host.document).run q := rfl
  have hbehind : k (Run.behind backlog r).host.document = k r.host.document := hk r.host.document _ r.host.document.pluginData
  rw [hrun, hrun, hbehind]
  exact h r.host.document r _ rfl

theorem findByName : Heedless backlog (findByName t) := by
  apply Parallel.bind (call (.of_mum (Lookup.byName_plain _) (fun _ => .byName _) fun _ => .byName _))
  intro ids
  split
  · exact emit _
  · apply Parallel.bind (of_mum (.focus _) (fun _ => .focus _) fun _ => .focus _)
    intro _
    apply Parallel.bind (call (.setData _ _))
    intro _
    exact view (fun _ _ _ => rfl) fun d => call (.notify _)

end Heedless

theorem handle_behind (op : Op) (t : Task) (h : Host) : (handle op t).run (Run.behind backlog ⟨h, []⟩) =
    (((handle op t).run ⟨h, []⟩).1, Run.behind backlog ((handle op t).run ⟨h, []⟩).2) := by
  by_cases hop : op = .findByName
  · have hsearch : Heedless backlog (findByName t) := Heedless.findByName
    obtain ⟨hanswer, hrun⟩ := hsearch ⟨h, []⟩ _ rfl
    have hhandle : handle op t = findByName t := by rw [hop, handle]
    rw [hhandle]
    exact Prod.ext hanswer hrun
  · exact run_behind (handle_plain op t) (fun _ => handle_discreet hop t) (fun _ => handle_mum hop t) nofun

/-! ### Batches -/

variable {options : ExecutionOptions}

theorem perform_behind (options : ExecutionOptions) (a : Action) (h : Host) : perform options a (h.behind backlog) =
    ((perform options a h).1, (perform options a h).2.1, (perform options a h).2.2.behind backlog) := by
  have hstart : (⟨h.behind backlog, []⟩ : Run) = Run.behind backlog ⟨h, []⟩ := rfl
  rw [perform_eq, perform_eq, hstart]
  obtain ⟨-, he⟩ | ⟨-, -, he⟩ | ⟨op, -, -, he⟩ := apply_cases options a <;> rw [he]
  · rfl
  · rfl
  · rw [handle_behind]
    rfl

theorem step_heedless (options : ExecutionOptions) (report : Report) (a : Action) :
    Host.Heedless backlog (step options report a) := by
  rintro h _ rfl
  have htell (events : List Event) (report : Report) : Host.Heedless backlog (do
      events.forM fun e => Host.notify e.message
      return report) := by
    refine .bind (.forM ?_ events) fun _ => .pure report
    intro e
    exact Host.Heedless.notify e.message
  rw [step_run, step_run, perform_behind]
  exact htell _ _ (perform options a h).2.2 _ rfl

theorem foldlM_heedless (options : ExecutionOptions) :
    ∀ (actions : List Action) (report : Report), Host.Heedless backlog (actions.foldlM (step options) report)
  | [], report => .pure report
  | a :: actions, report => by
    rw [List.foldlM_cons]
    exact .bind (step_heedless options report a) fun report => foldlM_heedless options actions report

/-- A batch is carried out whatever was said before and was not shown. -/
theorem execute_heedless (options : ExecutionOptions) (actions : List Action) :
    Host.Heedless backlog (execute options actions) := by
  apply Parallel.bind (foldlM_heedless options actions {})
  intro report
  dsimp only
  split
  · exact .bind (Host.Heedless.notify _) fun _ => .pure _
  · exact .pure _

end Execution
end Easel
