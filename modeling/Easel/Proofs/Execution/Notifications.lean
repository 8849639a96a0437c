import Easel.Proofs.Execution.Memory
import Easel.Proofs.Execution.Speech

/-!
What the user is told. While an action goes on, that is which layer was found by name; behind it come its remarks that are meant for
the user, and behind the last action the summary.
-/

namespace Easel.Execution

open Document Host

variable {options : ExecutionOptions} {actions : List Action} {h : Host} {a : Action} {d : Document} {N : List String} {e : Event}
  {i : Nat}

/-! ### While an action goes on -/

def foundMessage (d : Document) (id : LayerId) : String :=
  s!"Found and selected: {d.nameOf id}"

/-- What the user is told while the action goes on. A failing call keeps it from being told. -/
def announced (options : ExecutionOptions) (a : Action) (h : Host) : List String :=
  if (perform options a h).1.tag = .succeeded then (found? a h.document).toList.map (foundMessage h.document) else []

/-- On a host that is heard the handler does what it does on any, and leaves it heard. -/
theorem Plain.quietly {m : Handler α} {E P : Host → Prop} {Q : α → Host → Prop} (hp : Plain m) (hm : Says (fun _ => True) E P m Q) :
    Leads (fun r => Quiet r.host ∧ P r.host) m (fun a r => Quiet r.host ∧ Q a r.host) fun _ r => E r.host := by
  rintro r ⟨hq, hr⟩
  have hfaults := hp.run_rel Host.stepwise_faults r
  have hdoc := hm r ⟨hr, fun _ _ => trivial⟩
  rcases hrun : m.run r with ⟨e | b, r'⟩ <;> rw [hrun] at hfaults hdoc
  · exact hdoc.1
  · apply And.intro _ hdoc.1
    intro n
    rw [hfaults]
    exact hq n

theorem byName_finds (options : ExecutionOptions) (a : Action) : Turns (Told d.notifications) (fun d' => d' = d)
    (Lookup.byName (.str (((taskOf options a).text? "name").getD ""))) fun ids d' => d' = d ∧ ids = named a d := by
  have htext : (taskOf options a).text? "name" = Lookup.wanted? (a.args.value "name") := rfl
  rw [htext]
  unfold named
  cases hname : Lookup.wanted? (a.args.value "name") with
  | none => exact .pure fun d' h => ⟨h, rfl⟩
  | some name =>
    have hw : Lookup.wanted? (.str name) = some name := Lookup.wanted?_str hname
    unfold Lookup.byName
    simp only [Option.getD_some, hw]
    apply Turns.bind (.findAll fun d' h => h ▸ rfl)
    intro ids
    apply Turns.bind .view
    intro d₁
    apply Turns.pure
    rintro d' ⟨⟨rfl, rfl⟩, rfl⟩
    exact ⟨rfl, rfl⟩

/-- Nothing was told since `d`, and the layer has the name that it had. -/
def Waits (d : Document) (best : LayerId) (d' : Document) : Prop :=
  d'.Told d.notifications ∧ d'.nameOf best = d.nameOf best

namespace Waits

variable {V : Event → Prop} {best : LayerId}

theorem told (d' : Document) (h : Waits d best d') : d'.Told d.notifications := h.1

/-- Neither a call nor an edit of what is beside the layers makes a difference. -/
theorem edit {f : Document → Document} (call : HostCall) (hf : ∀ d', Waits d best d' → Waits d best (f d')) :
    Turns (Told d.notifications) (Waits d best) (Host.enter call >>= fun _ => Host.edit f) fun _ => Waits d best :=
  .bind (.enter told) fun _ => .edit hf

theorem focus : Says V (fun h => h.document.Told d.notifications) (fun h => Waits d best h.document) (focus [best])
    fun _ h => Waits d best h.document :=
  .bind (.call (edit _ fun _ h => h)) fun _ => .call (edit _ fun _ h => h)

theorem setData (best : LayerId) (key value : String) : Says V (fun h => h.document.Told d.notifications) (fun h => Waits d best h.document)
    (liftM (Host.setData key value) : Handler Unit) fun _ h => Waits d best h.document :=
  .call (edit _ fun _ h => h)

theorem notify : Leads (fun r => Quiet r.host ∧ Waits d best r.host.document)
    (do Host.notify s!"Found and selected: {(← Host.view).nameOf best}" : Handler Unit)
    (fun _ r => r.host.document.notifications = d.notifications ++ [foundMessage d best])
    fun _ r => r.host.document.Told d.notifications := by
  rintro r ⟨hq, htold, hname⟩
  have hrun : (do Host.notify s!"Found and selected: {(← Host.view).nameOf best}" : Handler Unit).run r = (.ok (), _) :=
    (run_bind_ok (Handler.call_ok (view_run _))).trans (Handler.call_ok (notify_run hq _))
  rw [hrun, hname]
  exact congrArg (· ++ [foundMessage d best]) htold

end Waits

/-- The layer is named behind all that can fail. -/
theorem findByName_tells (options : ExecutionOptions) (a : Action) :
    Leads (fun r => Quiet r.host ∧ r.host.document = d) (findByName (taskOf options a))
      (fun _ r => r.host.document.notifications = d.notifications ++ (named a d).head?.toList.map (foundMessage d))
      fun _ r => r.host.document.Told d.notifications := by
  have hsearch := (Plain.call (Lookup.byName_plain _)).quietly (.call (byName_finds (d := d) options a))
  apply Leads.bind hsearch
  intro ids
  split
  · rintro r ⟨hq, hr, hids⟩
    rw [← hids, List.head?_nil, Option.toList_none, List.map_nil, List.append_nil]
    exact congrArg (·.notifications) hr
  · rename_i best rest
    have hfocus := (Plain.focus [best]).quietly (Waits.focus (d := d))
    have hset := (Plain.call (.setData lastFoundKey (LayerId.text best))).quietly (Waits.setData (d := d) best _ _)
    rintro r ⟨hq, hr, hids⟩
    have htells := (hfocus.bind fun _ => hset.bind fun _ => Waits.notify) r ⟨hq, by rw [hr]; exact ⟨rfl, rfl⟩⟩
    rw [← hids]
    exact htells

theorem tag_outcomeOf_error (a : Action) (halt : Halt) : (outcomeOf a (.error halt)).tag ≠ .succeeded := by
  unfold outcomeOf
  split <;> simp_all [Outcome.tag]

/-- All that an action tells the user itself. -/
theorem perform_notifications (hq : Quiet h) (options : ExecutionOptions) (a : Action) :
    (perform options a h).2.2.document.notifications = h.document.notifications ++ announced options a h := by
  have hunfound (hop : opOf? a ≠ some .findByName) : announced options a h = [] := by
    rw [announced, found?, if_neg hop]
    exact ite_self _
  cases hop : opOf? a with
  | none =>
    rw [(perform_of_opOf? options h hop).1, hunfound (by simp [hop]), List.append_nil]
  | some op =>
    by_cases hfind : op = .findByName
    · subst hfind
      have htells := findByName_tells options a ⟨h, []⟩ ⟨hq, rfl⟩
      have hrun : (apply options a).run ⟨h, []⟩ = (findByName (taskOf options a)).run ⟨h, []⟩ := by
        rw [apply_of_opOf? hop]
        rfl
      rw [announced, found?, if_pos hop, perform_eq, hrun]
      rcases he : (findByName (taskOf options a)).run ⟨h, []⟩ with ⟨halt | u, r⟩ <;> rw [he] at htells
      · rw [if_neg (tag_outcomeOf_error a halt), List.append_nil]
        exact htells
      · exact htells
    · have hmum := handle_mum (N := h.document.notifications) hfind (taskOf options a) ⟨h, []⟩ ⟨rfl, by simp⟩
      rw [hunfound (by simp [hop, hfind]), List.append_nil, perform_eq, apply_of_opOf? hop]
      rcases he : (handle op (taskOf options a)).run ⟨h, []⟩ with ⟨halt | u, r⟩ <;> rw [he] at hmum <;> exact hmum.1

/-! ### Behind an action -/

/-- The codes of what is shown to the user. -/
def userFacingCodes : List String :=
  ["UNKNOWN_OPERATION", "NO_MATCHING_LAYERS", "MULTIPLE_MATCHES", "PARENT_NOT_FOUND", "MULTIPLE_PARENTS"]

theorem isUserFacing_of_isRemark (he : e.isRemark) : e.isUserFacing = decide (e.code ∈ userFacingCodes) := by
  cases e <;> first | exact he.elim | rfl

theorem isUserFacing_of_failure (he : e.code ∈ failureCodes) : e.isUserFacing = decide (e.code ∈ userFacingCodes) := by
  have hcode : e.code ∉ userFacingCodes := by
    simp only [failureCodes, List.mem_cons, List.not_mem_nil, or_false] at he
    rcases he with he | he | he | he | he <;> rw [he] <;> decide
  rw [decide_eq_false hcode]
  cases e <;> first | rfl | exact absurd he (by simp [Event.code, failureCodes])

/-- What is meant for the user is known by its code. -/
theorem isUserFacing_eq (he : e ∈ (perform options a h).2.1) : e.isUserFacing = decide (e.code ∈ userFacingCodes) := by
  obtain ⟨-, happly⟩ | ⟨-, -, happly⟩ | ⟨op, -, -, happly⟩ := apply_cases options a <;> rw [perform_eq, happly] at he
  · rw [List.mem_singleton.1 he]
    rfl
  · rw [List.mem_singleton.1 he]
    rfl
  · rcases List.mem_append.1 he with he | he
    · exact isUserFacing_of_isRemark ((handle_plain op _).remarks (fun _ hno => absurd hno List.not_mem_nil) e he)
    · obtain ho | ⟨e', ho, hc⟩ := outcomeOf_handle options a op ⟨h, []⟩
      · rw [ho] at he
        cases he
      · rw [ho] at he
        rw [List.mem_singleton.1 he]
        exact isUserFacing_of_failure hc

theorem forM_notify_notifications (hq : Quiet h) (events : List Event) :
    ((events.forM fun e => Host.notify e.message).run h).2.document.notifications =
      h.document.notifications ++ events.map (·.message) := by
  induction events generalizing h with
  | nil => exact (List.append_nil _).symm
  | cons e rest ih =>
    have hq' : Quiet { h with document := h.document.notify e.message, calls := h.calls + 1 } := hq
    show ((Host.notify e.message >>= fun _ => rest.forM fun e => Host.notify e.message).run h).2.document.notifications = _
    rw [run_bind_ok (notify_run hq e.message), ih hq', List.map_cons]
    exact List.append_assoc _ [e.message] _

/-- What the user is told of an action, by its handler and then by its remarks. -/
def toldOf (options : ExecutionOptions) (a : Action) (h : Host) : List String :=
  announced options a h ++ ((perform options a h).2.1.filter (·.isUserFacing)).map (·.message)

theorem step_notifications (hq : Quiet h) (options : ExecutionOptions) (report : Report) (a : Action) :
    ((step options report a).run h).2.document.notifications = h.document.notifications ++ toldOf options a h := by
  have hq' : Quiet (perform options a h).2.2 := fun n => by
    rw [perform_rel Host.stepwise_faults]
    exact hq n
  have hrest := forM_notify_notifications hq' ((perform options a h).2.1.filter (·.isUserFacing))
  obtain ⟨h', hrun, -⟩ := forM_notify_quiet ((perform options a h).2.1.filter (·.isUserFacing)) hq'
  rw [step_run, run_bind_ok hrun]
  rw [hrun] at hrest
  rw [toldOf, ← List.append_assoc, ← perform_notifications hq]
  exact hrest

/-! ### Batches -/

theorem hostAt_notifications (hq : Quiet h) (options : ExecutionOptions) (hi : i ≤ actions.length) :
    (hostAt options actions h i).document.notifications = h.document.notifications ++
      (actions.take i).zipIdx.flatMap fun (a, k) => toldOf options a (hostAt options actions h k) := by
  induction i with
  | zero => exact (List.append_nil _).symm
  | succ i ih =>
    obtain ⟨report, hrun, hqi⟩ := runActions_take_quiet hq options actions i
    have hlength : (actions.take i).length = i := List.length_take_of_le (Nat.le_of_lt hi)
    rw [hostAt_succ hi hrun, step_notifications hqi, ih (Nat.le_of_lt hi), List.take_succ_eq_append_getElem hi, List.zipIdx_append,
      List.flatMap_append, List.append_assoc, hlength]
    simp

theorem counted_tally (endings : Endings) (tag : Tag) : counted (tally endings) tag =
    ((List.range endings.length).filter fun i => endings[i]?.any (·.1.tag = tag)).map Int.ofNat := by
  induction endings using List.reverseRecOn with
  | nil => cases tag <;> rfl
  | append_singleton endings e ih =>
    have hbefore : (List.range endings.length).filter (fun i => (endings ++ [e])[i]?.any (·.1.tag = tag)) =
        (List.range endings.length).filter fun i => endings[i]?.any (·.1.tag = tag) := by
      apply List.filter_congr
      intro i hi
      rw [List.getElem?_append_left (List.mem_range.1 hi)]
    rw [tally_concat, counted_record, ih, tally_attempted, List.length_append, List.length_singleton, List.range_succ,
      List.filter_append, List.map_append, hbefore]
    congr 1
    by_cases ht : e.1.tag = tag <;> simp [ht]

/-- The positions of the actions that end in one way. -/
def positions (options : ExecutionOptions) (actions : List Action) (h : Host) (tag : Tag) : List Nat :=
  (List.range actions.length).filter fun i =>
    actions[i]?.any fun a => (perform options a (hostAt options actions h i)).1.tag = tag

/-- Unknown actions are named by their positions, counted from one; of those that failed there is only the number. -/
def summaryOf (attempted : Nat) (unknown failed : List Nat) : String :=
  s!"Executed {attempted} actions on canvas!" ++
    (if unknown.isEmpty then ""
      else " Skipped unknown action(s) at position " ++ ", ".intercalate (unknown.map fun i => toString (i + 1)) ++ ".") ++
    (if failed.isEmpty then "" else s!" {failed.length} failed.")

section Tally

variable {endings : Endings}
  (he : ∀ i (hi : i < actions.length), endings[i]? =
    some ((perform options actions[i] (hostAt options actions h i)).1,
      (perform options actions[i] (hostAt options actions h i)).2.1))
  (hlength : endings.length = actions.length)

include he

theorem told_about (hi : i < actions.length) :
    announced options actions[i] (hostAt options actions h i) ++
      ((about (tally endings) i).filter (·.code ∈ userFacingCodes)).map (·.message) =
    toldOf options actions[i] (hostAt options actions h i) := by
  have hcodes : (perform options actions[i] (hostAt options actions h i)).2.1.filter (fun e => decide (e.code ∈ userFacingCodes)) =
      (perform options actions[i] (hostAt options actions h i)).2.1.filter (·.isUserFacing) :=
    List.filter_congr fun e hmem => (isUserFacing_eq hmem).symm
  rw [toldOf, about_tally, he i hi, ← hcodes]
  simp only [Option.elim_some, List.filter_map, List.map_map]
  rfl

include hlength

theorem counted_positions (tag : Tag) :
    counted (tally endings) tag = (positions options actions h tag).map Int.ofNat := by
  rw [counted_tally, hlength, positions]
  congr 1
  apply List.filter_congr
  intro i hi
  have hi := List.mem_range.1 hi
  rw [he i hi, List.getElem?_eq_getElem hi]
  rfl

theorem summary_tally : (tally endings).summary =
    summaryOf actions.length (positions options actions h .unknown) (positions options actions h .failed) := by
  have hunknown : (tally endings).unknown = _ := counted_positions he hlength .unknown
  have hfailed : (tally endings).failed = _ := counted_positions he hlength .failed
  have hattempted : (tally endings).attempted = Int.ofNat actions.length := (tally_attempted endings).trans (by rw [hlength]; rfl)
  rw [Report.summary, hunknown, hfailed, hattempted, summaryOf]
  simp only [List.map_map, List.isEmpty_map, List.length_map]
  rfl

end Tally

/-- Where notifications are heard, the user is told which layers were found by name and what is meant for the user of the remarks on
each action, action by action, then the summary if it is asked for, and nothing else, whatever other calls fail. -/
theorem notifications_exact (options : ExecutionOptions) (items : List (Json ⊕ Action)) (h : Host) (hq : Quiet h) :
    let actions := items.map coerce
    ∃ report h', (execute options actions).run h = (.ok report, h') ∧
      h'.document.notifications = h.document.notifications ++
        (actions.zipIdx.flatMap fun (a, i) => announced options a (hostAt options actions h i) ++
          ((about report i).filter (·.code ∈ userFacingCodes)).map (·.message)) ++
        (if options.notifySummary then [report.summary] else []) ∧
      report.summary = summaryOf actions.length (positions options actions h .unknown) (positions options actions h .failed) ∧
      report.unknown = (positions options actions h .unknown).map Int.ofNat ∧
      report.failed = (positions options actions h .failed).map Int.ofNat := by
  intro actions
  obtain ⟨endings, h₁, hrun, hq₁, hlength, he⟩ := runActions_quiet options actions hq
  have htold : h₁.document.notifications = h.document.notifications ++
      actions.zipIdx.flatMap fun (a, i) => announced options a (hostAt options actions h i) ++
        ((about (tally endings) i).filter (·.code ∈ userFacingCodes)).map (·.message) := by
    have hat : hostAt options actions h actions.length = h₁ := by
      rw [hostAt, List.take_length, hrun]
    rw [← hat, hostAt_notifications hq options (Nat.le_refl _), List.take_length]
    congr 1
    apply List.flatMap_congr
    rintro ⟨a, i⟩ hmem
    obtain ⟨hi, rfl⟩ := List.getElem?_eq_some_iff.1 (List.mk_mem_zipIdx_iff_getElem?.1 hmem)
    exact (told_about he hi).symm
  have hfinish : ∃ h', (execute options actions).run h = (.ok (tally endings), h') ∧
      h'.document.notifications = h₁.document.notifications ++ if options.notifySummary then [(tally endings).summary] else [] := by
    rw [execute, run_bind_ok hrun]
    cases options.notifySummary with
    | false => exact ⟨h₁, rfl, (List.append_nil _).symm⟩
    | true => exact ⟨_, run_bind_ok (notify_run hq₁ _), rfl⟩
  obtain ⟨h', hexecute, hend⟩ := hfinish
  exact ⟨tally endings, h', hexecute, by rw [hend, htold], summary_tally he hlength, counted_positions he hlength .unknown,
    counted_positions he hlength .failed⟩

/-- A search that fails at its last call but one, an unknown operation, and a search that finds its layer. -/
theorem notifications_of_searches :
    let h : Host := { faults := fun n call => if call = .setData ∧ n < 8 then some "full" else none }
    let items : List (Json ⊕ Action) := [.inr ⟨"create_rectangle", [], .null⟩, .inr ⟨"find_by_name", [("name", .str "rect")], .null⟩,
      .inr ⟨"fly", [], .null⟩, .inr ⟨"find_by_name", [("name", .str "rect")], .null⟩]
    Quiet h ∧ ∃ report h', (execute {} (items.map coerce)).run h = (.ok report, h') ∧
      h'.document.notifications = ["Unknown action: fly", "Found and selected: Rectangle",
        "Executed 4 actions on canvas! Skipped unknown action(s) at position 3. 1 failed."] ∧
      report.unknown = [2] ∧ report.failed = [1] := by
  intro h items
  have hq : Quiet h := fun n => rfl
  obtain ⟨report, h', hrun, -, -, hunknown, hfailed⟩ := notifications_exact {} items h hq
  have hend : ((execute {} (items.map coerce)).run h).2 = h' := by rw [hrun]
  rw [show positions {} (items.map coerce) h .unknown = [2] by decide +kernel] at hunknown
  rw [show positions {} (items.map coerce) h .failed = [1] by decide +kernel] at hfailed
  refine ⟨hq, report, h', hrun, ?_, hunknown, hfailed⟩
  rw [← hend]
  decide +kernel

end Easel.Execution
