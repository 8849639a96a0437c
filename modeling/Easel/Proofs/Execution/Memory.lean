import Easel.Proofs.Execution.Listing
import Easel.Proofs.Execution.Silence

/-!
What was found by name stays in mind. The number of the layer that was found last is kept as plugin data, which nothing but finding
another one changes; so it is this layer that is selected again, as long as it is on the page.
-/

namespace Easel.Execution

open Document Host

variable {options : ExecutionOptions} {actions : List Action} {h h₀ : Host} {a : Action} {d : Document} {ids : List LayerId}
  {n : LayerId} {i : Nat}

/-- The layers that fit the name in an action, best first. -/
def named (a : Action) (d : Document) : List LayerId :=
  match Lookup.wanted? (a.args.value "name") with
  | none => []
  | some name => Lookup.ranked d d.all name

/-- The layer that an action finds by name. -/
def found? (a : Action) (d : Document) : Option LayerId :=
  if opOf? a = some .findByName then (named a d).head? else none

/-- The document once the layer is found. -/
def afterFinding (d : Document) (id : LayerId) : Document :=
  ({ d with selection := [.layer id], viewport := [.layer id] }.putData lastFoundKey (LayerId.text id)).notify
    s!"Found and selected: {d.nameOf id}"

/-- The layer whose number is kept, if it is on the page. -/
def recalled? (d : Document) : Option LayerId := d.all.find? (LayerId.text · = d.data lastFoundKey)

/-- The last of these layers is kept in mind. -/
def Remembers (ids : List LayerId) (d : Document) : Prop := d.data lastFoundKey = (ids.getLast?.map LayerId.text).getD ""

theorem text_ne_empty (id : LayerId) : LayerId.text id ≠ "" := by
  intro he
  have hl := congrArg String.length he
  simp [LayerId.text] at hl

theorem recalled?_eq_some_iff (hr : Remembers ids d) : recalled? d = some n ↔ ids.getLast? = some n ∧ n ∈ d.all := by
  have hlast {m : LayerId} (hm : recalled? d = some m) : ids.getLast? = some m := by
    have htext : LayerId.text m = d.data lastFoundKey := by simpa using List.find?_some hm
    rw [hr] at htext
    cases hl : ids.getLast? with
    | none => rw [hl] at htext; exact absurd htext (text_ne_empty m)
    | some k => rw [hl] at htext; rw [text_injective htext]
  refine ⟨fun hn => ⟨hlast hn, List.mem_of_find?_eq_some hn⟩, fun ⟨hn, hmem⟩ => ?_⟩
  -- Some layer of the page has this number, and no two layers have the same.
  have hsome : (recalled? d).isSome := by
    refine List.find?_isSome.2 ⟨n, hmem, ?_⟩
    rw [hr, hn]
    simp
  obtain ⟨m, hm⟩ := Option.isSome_iff_exists.1 hsome
  rw [hm, ← hlast hm, hn]

/-! ### One action -/

/-- Only what finds a layer changes plugin data. -/
theorem perform_pluginData (options : ExecutionOptions) (h : Host) (ha : opOf? a ≠ some .findByName) :
    (perform options a h).2.2.document.pluginData = h.document.pluginData := by
  cases hop : opOf? a with
  | none => rw [(perform_of_opOf? options h hop).1]
  | some op =>
    -- What a discreet handler leaves on two hosts is compared here for one host and itself.
    have hself : Twins h.document.pluginData ⟨h, []⟩ ⟨h, []⟩ :=
      ⟨⟨rfl, ⟨h.document.notifications, rfl⟩, rfl, fun _ _ _ => rfl⟩, rfl⟩
    rw [perform_eq, apply_of_opOf? hop]
    exact (handle_discreet (fun he => ha (he ▸ hop)) (taskOf options a) _ _ hself).2.host.data

section Quiet

variable (hq : h.faults = Faults.none)

include hq

theorem byId_none (text : String) :
    ∃ calls, (Lookup.byId (.str text)).run h = (.ok (h.document.all.find? (LayerId.text · = text)), { h with calls }) := by
  unfold Lookup.byId
  -- The empty text is not looked for, and no layer has it as its number.
  by_cases ht : text = ""
  · subst ht
    refine ⟨h.calls, ?_⟩
    have hnone : h.document.all.find? (LayerId.text · = "") = none := by simp [text_ne_empty]
    rw [hnone]
    rfl
  · have hw : Lookup.wanted? (.str text) = some text := by simp [Lookup.wanted?, Json.string?, ht]
    refine ⟨h.calls + 1, ?_⟩
    simp only [hw]
    rw [run_bind_eq, findAll, run_bind_eq, enter_none hq]
    rfl

theorem getData_none (key : String) :
    (Host.getData key).run h = (.ok (h.document.data key), { h with calls := h.calls + 1 }) := by
  unfold Host.getData
  rw [run_bind_eq, enter_none hq]
  rfl

theorem setData_none (key value : String) : (Host.setData key value).run h =
    (.ok (), { h with document := h.document.putData key value, calls := h.calls + 1 }) := by
  unfold Host.setData
  rw [run_bind_eq, enter_none hq]
  rfl

theorem selectLast_reads : ∃ calls, selectLast.run ⟨h, []⟩ =
    (match recalled? h.document with
      | none => Handler.emit .nothingRemembered
      | some id => focus [id]).run ⟨{ h with calls }, []⟩ := by
  obtain ⟨calls, hid⟩ := byId_none (h := { h with calls := h.calls + 1 }) hq (h.document.data lastFoundKey)
  have hdata := getData_none hq lastFoundKey
  exact ⟨calls, (run_bind_ok (Handler.call_ok hdata)).trans (run_bind_ok (Handler.call_ok hid))⟩

theorem perform_selectLast (options : ExecutionOptions) (ha : opOf? a = some .selectLast) :
    (∀ n, recalled? h.document = some n → ∃ calls, perform options a h = (.succeeded, [],
      { h with document := { h.document with selection := [.layer n], viewport := [.layer n] }, calls })) ∧
    (recalled? h.document = none → ∃ calls, perform options a h = (.succeeded, [.nothingRemembered], { h with calls })) := by
  obtain ⟨calls, hreads⟩ := selectLast_reads hq
  have hrun : (apply options a).run ⟨h, []⟩ = selectLast.run ⟨h, []⟩ := by rw [apply_of_opOf? ha]; rfl
  rw [hreads] at hrun
  refine ⟨fun n hn => ?_, fun hn => ?_⟩
  · rw [hn] at hrun
    rw [perform_eq, hrun, focus_none (h := { h with calls }) hq]
    exact ⟨_, rfl⟩
  · rw [hn] at hrun
    rw [perform_eq, hrun]
    exact ⟨_, rfl⟩

theorem byName_named (options : ExecutionOptions) (a : Action) :
    ∃ calls, (Lookup.byName (.str (((taskOf options a).text? "name").getD ""))).run h =
      (.ok (named a h.document), { h with calls }) := by
  have htext : (taskOf options a).text? "name" = Lookup.wanted? (a.args.value "name") := rfl
  rw [htext]
  unfold named
  cases hname : Lookup.wanted? (a.args.value "name") with
  | none => exact ⟨h.calls, rfl⟩
  | some name =>
    have hw : Lookup.wanted? (.str name) = some name := by
      simpa [Lookup.wanted?, Json.string?] using (Option.filter_eq_some_iff.1 hname).2
    exact ⟨_, byName_none hq hw⟩

theorem findByName_found (options : ExecutionOptions) (hn : (named a h.document).head? = some n) :
    ∃ calls, (findByName (taskOf options a)).run ⟨h, []⟩ = (.ok (),
      ⟨{ h with document := afterFinding h.document n, calls }, []⟩) := by
  obtain ⟨rest, hnamed⟩ := List.head?_eq_some_iff.1 hn
  obtain ⟨calls, hby⟩ := byName_named hq options a
  rw [hnamed] at hby
  have hset := setData_none (h := { h with
    document := { h.document with selection := [.layer n], viewport := [.layer n] }, calls := calls + 2 }) hq lastFoundKey
    (LayerId.text n)
  refine ⟨calls + 4, (run_bind_ok (Handler.call_ok hby)).trans ?_⟩
  refine (run_bind_ok (focus_none (h := { h with calls }) hq [])).trans ((run_bind_ok (Handler.call_ok hset)).trans ?_)
  refine (run_bind_ok (Handler.call_ok (view_run _))).trans ?_
  exact Handler.call_ok (notify_run (fun k => by rw [hq]; rfl) _)

theorem perform_found (options : ExecutionOptions) (hn : found? a h.document = some n) :
    ∃ calls, perform options a h = (.succeeded, [], { h with document := afterFinding h.document n, calls }) := by
  obtain ⟨ha, hn⟩ : opOf? a = some .findByName ∧ (named a h.document).head? = some n := by
    unfold found? at hn
    split at hn
    · exact ⟨‹_›, hn⟩
    · cases hn
  obtain ⟨calls, hrun⟩ := findByName_found hq options hn
  have happly : (apply options a).run ⟨h, []⟩ = (findByName (taskOf options a)).run ⟨h, []⟩ := by rw [apply_of_opOf? ha]; rfl
  rw [perform_eq, happly, hrun]
  exact ⟨calls, rfl⟩

theorem perform_missed (options : ExecutionOptions) (ha : opOf? a = some .findByName) (hn : found? a h.document = none) :
    ∃ name calls, perform options a h = (.succeeded, [.nothingFound name], { h with calls }) := by
  have hnamed : named a h.document = [] := by simpa [found?, ha] using hn
  obtain ⟨calls, hby⟩ := byName_named hq options a
  have hrun : ∃ name, (apply options a).run ⟨h, []⟩ = (.ok (), ⟨{ h with calls }, [.nothingFound name]⟩) := by
    rw [apply_of_opOf? ha]
    show ∃ name, (findByName (taskOf options a)).run ⟨h, []⟩ = _
    unfold findByName
    dsimp only
    rw [run_bind_eq, Handler.call_run, hby, hnamed]
    exact ⟨_, rfl⟩
  obtain ⟨name, hrun⟩ := hrun
  rw [perform_eq, hrun]
  exact ⟨name, calls, rfl⟩

end Quiet

/-! ### Batches -/

theorem pluginData_of_unfound (hq : h.faults = Faults.none) (options : ExecutionOptions) (hn : found? a h.document = none) :
    (perform options a h).2.2.document.pluginData = h.document.pluginData := by
  by_cases ha : opOf? a = some .findByName
  · obtain ⟨name, calls, hp⟩ := perform_missed hq options ha hn
    rw [hp]
  · exact perform_pluginData options h ha

theorem Remembers.of_pluginData {d d' : Document} (hr : Remembers ids d) (hd : d'.pluginData = d.pluginData) :
    Remembers ids d' := by
  rw [Remembers, Document.data, hd]
  exact hr

theorem Remembers.perform (hq : h.faults = Faults.none) (hr : Remembers ids h.document) (options : ExecutionOptions) (a : Action) :
    Remembers (ids ++ (found? a h.document).toList) (Execution.perform options a h).2.2.document := by
  cases hf : found? a h.document with
  | none =>
    rw [Option.toList_none, List.append_nil]
    exact hr.of_pluginData (pluginData_of_unfound hq options hf)
  | some n =>
    obtain ⟨calls, hp⟩ := perform_found hq options hf
    have hdata : (afterFinding h.document n).data lastFoundKey = LayerId.text n := data_putData _ _ _
    rw [hp]
    simpa [Remembers] using hdata

/-- The layers found by name in a batch before position `i`. -/
def finds (options : ExecutionOptions) (actions : List Action) (h : Host) (i : Nat) : List LayerId :=
  (List.range i).filterMap fun k => actions[k]?.bind fun a => found? a (hostAt options actions h k).document

theorem finds_succ (options : ExecutionOptions) (h : Host) (hi : i < actions.length) : finds options actions h (i + 1) =
    finds options actions h i ++ (found? actions[i] (hostAt options actions h i).document).toList := by
  rw [finds, List.range_succ, List.filterMap_append, List.filterMap_cons, List.getElem?_eq_getElem hi, Option.bind_some]
  cases found? actions[i] (hostAt options actions h i).document <;> rfl

theorem hostAt_none (hq : h.faults = Faults.none) (options : ExecutionOptions) (actions : List Action) (i : Nat) :
    (hostAt options actions h i).faults = Faults.none :=
  ((runActions_reaches options (actions.take i) h).rel Host.stepwise_faults).trans hq

theorem quiet_none (hq : h.faults = Faults.none) : Quiet h := fun n => by rw [hq]; rfl

theorem Remembers.hostAt (hq : h.faults = Faults.none) (hr : Remembers ids h.document) (options : ExecutionOptions)
    (hi : i ≤ actions.length) :
    Remembers (ids ++ finds options actions h i) (Execution.hostAt options actions h i).document := by
  induction i with
  | zero =>
    show Remembers (ids ++ []) h.document
    rw [List.append_nil]
    exact hr
  | succ i ih =>
    obtain ⟨report, hrun, -⟩ := runActions_take_quiet (quiet_none hq) options actions i
    rw [finds_succ options h hi, ← List.append_assoc, hostAt_succ hi hrun]
    have hstep := (ih (Nat.le_of_lt hi)).perform (hostAt_none hq options actions i) options actions[i]
    exact hstep.of_pluginData (congrArg (·.pluginData) (mute_step options report _ _))

/-- The layers found by name in batches, one after the other. -/
def Batches.finds : Batches → Host → List LayerId
  | [], _ => []
  | batch :: rest, h =>
    Execution.finds batch.1 (batch.2.map coerce) h batch.2.length ++
      Batches.finds rest ((execute batch.1 (batch.2.map coerce)).run h).2

theorem Remembers.execute (hq : h.faults = Faults.none) (hr : Remembers ids h.document) (options : ExecutionOptions)
    (actions : List Action) :
    Remembers (ids ++ finds options actions h actions.length) ((execute options actions).run h).2.document := by
  obtain ⟨report, hrun, -⟩ := runActions_take_quiet (quiet_none hq) options actions actions.length
  have hend := hr.hostAt hq options (le_refl actions.length)
  rw [List.take_length] at hrun
  exact hend.of_pluginData (congrArg (·.pluginData) (mute_execute hrun))

theorem Remembers.afterBatches (batches : Batches) (hq : h.faults = Faults.none) (hr : Remembers ids h.document) :
    Remembers (ids ++ batches.finds h) (Execution.afterBatches batches h).document := by
  induction batches generalizing h ids with
  | nil => simpa [Batches.finds, Execution.afterBatches] using hr
  | cons batch rest ih =>
    have hfaults := ((execute_reaches batch.1 (batch.2.map coerce) h).rel Host.stepwise_faults).trans hq
    have hfirst := hr.execute hq batch.1 (batch.2.map coerce)
    rw [List.length_map] at hfirst
    rw [Batches.finds, ← List.append_assoc]
    exact ih hfaults hfirst

/-- What an action does where `last` is the layer that was found last, and what is said of it. -/
structure Recalls (a : Action) (last : Option LayerId) (before after : Document) (events : List Event) : Prop where
  selected : opOf? a = some .selectLast → ∀ n, last = some n → before.OnPage n →
    after = { before with selection := [.layer n], viewport := [.layer n] } ∧ events = []
  nothing : opOf? a = some .selectLast → (∀ n, last = some n → ¬before.OnPage n) →
    after = before ∧ events = [.nothingRemembered]
  refused : Op.ofName? a.op = some .selectLast → a.objections ≠ [] →
    after = before ∧ events = [.invalidAction a.op a.objections]
  found : ∀ n, found? a before = some n → after = afterFinding before n ∧ events = []
  missed : opOf? a = some .findByName → found? a before = none →
    after.mute = before.mute ∧ ∃ name, events = [.nothingFound name]
  /-- Nothing else has to do with what is kept in mind. -/
  kept : found? a before = none → after.pluginData = before.pluginData

theorem recalls_step (hq : h.faults = Faults.none) (hs : h.document.Sound) (hr : Remembers ids h.document)
    (options : ExecutionOptions) (report : Report) (a : Action) :
    Recalls a ids.getLast? h.document ((step options report a).run h).2.document (perform options a h).2.1 := by
  have hall {n : LayerId} : n ∈ h.document.all ↔ h.document.OnPage n := mem_all hs.linked
  have hmute := mute_step options report a h
  have hend {outcome : Outcome} {events : List Event} {h' : Host} (hp : perform options a h = (outcome, events, h'))
      (hnone : events.filter (·.isUserFacing) = []) : ((step options report a).run h).2 = h' := by
    rw [step_untold report (by rw [hp]; exact hnone), hp]
  constructor
  · intro ha n hn hpage
    obtain ⟨calls, hp⟩ := (perform_selectLast hq options ha).1 n ((recalled?_eq_some_iff hr).2 ⟨hn, hall.2 hpage⟩)
    rw [hend hp rfl, hp]
    exact ⟨rfl, rfl⟩
  · intro ha hnone
    have hrec : recalled? h.document = none := by
      refine Option.eq_none_iff_forall_ne_some.2 fun n hn => ?_
      obtain ⟨hlast, hmem⟩ := (recalled?_eq_some_iff hr).1 hn
      exact hnone n hlast (hall.1 hmem)
    obtain ⟨calls, hp⟩ := (perform_selectLast hq options ha).2 hrec
    rw [hend hp rfl, hp]
    exact ⟨rfl, rfl⟩
  · intro hop ho
    have hp := perform_refused options h (by rw [hop]; rfl) ho
    rw [hend hp rfl, hp]
    exact ⟨rfl, rfl⟩
  · intro n hn
    obtain ⟨calls, hp⟩ := perform_found hq options hn
    rw [hend hp rfl, hp]
    exact ⟨rfl, rfl⟩
  · intro ha hn
    obtain ⟨name, calls, hp⟩ := perform_missed hq options ha hn
    rw [hp] at hmute ⊢
    exact ⟨hmute, name, rfl⟩
  · intro hn
    exact (congrArg (·.pluginData) hmute).trans (pluginData_of_unfound hq options hn)

/-- Where no call fails, the layer selected again is the one that was found by name last, in this batch or one before it, if it is
still on the page, and no other. -/
theorem last_found_recalled (hb : Blank h₀) (hq : h₀.faults = Faults.none) (batches : Batches) (options : ExecutionOptions)
    (items : List (Json ⊕ Action)) :
    let h := afterBatches batches h₀
    let actions := items.map coerce
    ∃ report h', (execute options actions).run h = (.ok report, h') ∧
      ∀ i (hi : i < actions.length),
        Recalls actions[i] (batches.finds h₀ ++ finds options actions h i).getLast? (hostAt options actions h i).document
          (hostAt options actions h (i + 1)).document ((about report i).map (·.event)) := by
  intro h actions
  have hreach : Reaches (fun _ _ => True) h₀ h := afterBatches_reaches (fun _ _ _ => trivial) h₀
  have hfaults : h.faults = Faults.none := (hreach.rel Host.stepwise_faults).trans hq
  -- To begin with there are no plugin data.
  have hblank : Remembers [] h₀.document := by
    obtain ⟨pageName, fontsFail, hb⟩ := hb
    rw [hb]
    rfl
  have hr : Remembers (batches.finds h₀) h.document := hblank.afterBatches batches hq
  obtain ⟨endings, h₁, hrun, hq₁, -, he⟩ := runActions_quiet options actions (quiet_none hfaults)
  obtain ⟨h₂, hx⟩ := execute_quiet options actions hrun hq₁
  refine ⟨tally endings, h₂, hx, fun i hi => ?_⟩
  obtain ⟨before, hbefore, -⟩ := runActions_take_quiet (quiet_none hfaults) options actions i
  have hto : Reaches (fun _ _ => True) h₀ (hostAt options actions h i) :=
    hreach.trans (runActions_reaches options (actions.take i) h)
  have hat := hr.hostAt hfaults options (Nat.le_of_lt hi)
  have hevents : (about (tally endings) i).map (·.event) = (perform options actions[i] (hostAt options actions h i)).2.1 := by
    rw [about_tally, he i hi]
    simp [Function.comp_def]
  rw [hevents, hostAt_succ hi hbefore]
  exact recalls_step (hostAt_none hfaults options actions i) (hto.sound (blank_sound hb)) hat options before actions[i]

/-- A rectangle found in one batch is selected again in the next. -/
theorem recalled_in_next_batch :
    let batches : Batches :=
      [({}, [.inr ⟨"create_rectangle", [], .null⟩, .inr ⟨"find_by_name", [("name", .str "rectangle")], .null⟩])]
    let h := afterBatches batches {}
    let items : List (Json ⊕ Action) := [.inr ⟨"deselect", [], .null⟩, .inr ⟨"select_last", [], .null⟩]
    Blank {} ∧ ({} : Host).faults = Faults.none ∧ (hostAt {} (items.map coerce) h 1).document.selection = [] ∧
      (hostAt {} (items.map coerce) h 2).document.selection = [.layer 0] := by
  intro batches h items
  have hb : Blank {} := ⟨"Page 1", false, rfl⟩
  obtain ⟨report, h', -, hall⟩ := last_found_recalled hb rfl batches {} items
  have hlast : (Batches.finds batches {} ++ finds {} (items.map coerce) h 1).getLast? = some 0 := by decide +kernel
  have hparent : (hostAt {} (items.map coerce) h 1).document.parentOf 0 = some .page := by decide +kernel
  have hlt : 1 < (items.map coerce).length := by decide
  have hop : opOf? ⟨"select_last", [], .null⟩ = some .selectLast := by decide +kernel
  obtain ⟨hselected, -⟩ := (hall 1 hlt).selected hop 0 hlast (.step hparent .refl)
  refine ⟨hb, rfl, by decide +kernel, ?_⟩
  rw [hselected]

/-- A rectangle is found and let go of again, and an action with an odd target is to bring it back. -/
theorem refused_not_recalled : ¬∀ (items : List (Json ⊕ Action)) (i : Nat) (hi : i < (items.map coerce).length),
    Op.ofName? ((items.map coerce)[i]).op = some .selectLast →
    ∀ n, (finds {} (items.map coerce) {} i).getLast? = some n → (hostAt {} (items.map coerce) {} i).document.OnPage n →
      (hostAt {} (items.map coerce) {} (i + 1)).document.selection = [.layer n] := by
  intro hall
  let items : List (Json ⊕ Action) := [.inr ⟨"create_rectangle", [], .null⟩,
    .inr ⟨"find_by_name", [("name", .str "rectangle")], .null⟩, .inr ⟨"deselect", [], .null⟩, .inr ⟨"select_last", [], .num 5⟩]
  have hfound : (finds {} (items.map coerce) {} 3).getLast? = some 0 := by decide +kernel
  have hparent : (hostAt {} (items.map coerce) {} 3).document.parentOf 0 = some .page := by decide +kernel
  have hselection : (hostAt {} (items.map coerce) {} 4).document.selection = [] := by decide +kernel
  have h := hall items 3 (by decide) (by decide +kernel) 0 hfound (.step hparent .refl)
  rw [hselection] at h
  cases h

end Easel.Execution
