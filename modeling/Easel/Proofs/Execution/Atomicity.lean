import Easel.Proofs.Execution.Completion
import Easel.Proofs.Execution.Consistency

/-!
An action that fails has done nothing. A handler asks for its layers first, and that changes nothing; what it does to them then
does not fail any more, as long as no calls fail but those that load fonts.
-/

namespace Easel.Execution

open Document Host

variable {α β : Type} {Q : α → Document → Prop} {R : β → Document → Prop} {t : Task} {id : LayerId}

/-- Nothing has been said or done. -/
def Still (r₀ r : Run) : Prop := Fair r.host ∧ r.host.document = r₀.host.document ∧ r.events = r₀.events

/-- A refusal ended the handler, and no call that failed. -/
def Declined (r₀ : Run) (e : Halt) (r : Run) : Prop := (∃ event, e = .refused event) ∧ Still r₀ r

/-- The handler only looks, whatever comes of it. -/
def Asks (m : Handler α) : Prop := ∀ r₀, Leads (Still r₀) m (fun _ => Still r₀) (Declined r₀)

/-- The handler may be refused, but then it has done nothing. -/
def Tries (m : Handler α) (Q : α → Document → Prop) : Prop :=
  ∀ r₀, r₀.host.document.Sound → Leads (Still r₀) m (fun a r => Fair r.host ∧ Q a r.host.document) (Declined r₀)

namespace Asks

theorem pure (a : α) : Asks (Pure.pure a : Handler α) := fun _ => Leads.pure fun _ h => h

theorem bind {m : Handler α} {k : α → Handler β} (hm : Asks m) (hk : ∀ a, Asks (k a)) : Asks (m >>= k) :=
  fun r₀ => (hm r₀).bind fun a => hk a r₀

theorem refuse (e : Event) : Asks (Handler.refuse e : Handler α) := fun _ => Leads.throw fun _ h => ⟨⟨e, rfl⟩, h⟩

/-- A call after which the document is what it was. -/
theorem call {m : HostM α} (hm : ∀ d, Host.Completes (fun d' => d' = d) m fun _ d' => d' = d) : Asks (liftM m : Handler α) := by
  rintro r₀ r ⟨hf, hd, he⟩
  have h := hm r.host.document r.host ⟨hf, rfl⟩
  rw [Handler.call_run]
  rcases hm : m.run r.host with ⟨e | a, host⟩ <;> rw [hm] at h
  · exact h.elim
  · exact ⟨h.1, h.2.trans hd, he⟩

theorem lookOf : Asks (lookOf id) := .bind (.call fun _ => .mono .view (fun _ h => h) fun _ _ h => h.1) fun _ => .pure _

theorem requireTarget : Asks (requireTarget t) := by
  unfold Execution.requireTarget
  split
  · exact .refuse _
  · refine .bind (.call fun _ => .target) fun found => ?_
    split
    · exact .refuse _
    · exact .pure _

theorem requireTrait (trait : Look → Bool) : Asks (requireTrait t trait id) := by
  refine .bind lookOf fun look => ?_
  split
  · exact .pure _
  · exact .refuse _

theorem tries {m : Handler α} (hm : Asks m) : Tries m fun _ _ => True :=
  fun r₀ _ => (hm r₀).mono (fun _ h => h) (fun _ _ h => ⟨h.1, trivial⟩) fun _ _ h => h

/-- What follows may assume that nothing has been done. -/
theorem andThen {m : Handler α} {k : α → Handler β} (hm : Asks m) (hk : ∀ a, Tries (k a) R) : Tries (m >>= k) R :=
  fun r₀ hs => (hm r₀).bind fun a => hk a r₀ hs

end Asks

namespace Tries

variable {m : Handler α}

/-- What follows must not fail. -/
theorem andThen {k : α → Handler β} (hm : Tries m Q) (hk : ∀ a, Completes (Q a) (k a) R) : Tries (m >>= k) R :=
  fun r₀ hs => (hm r₀ hs).bind fun a => Leads.mono (hk a) (fun _ h => h) (fun _ _ h => h) fun _ _ h => h.elim

theorem done (hm : Completes Sound m Q) : Tries m Q :=
  fun _ hs => Leads.mono hm (fun _ h => ⟨h.1, h.2.1 ▸ hs⟩) (fun _ _ h => h) fun _ _ h => h.elim

theorem sure (hm : Sure m) : Tries m fun _ _ => True :=
  done (hm.mono (fun _ _ => trivial) fun _ _ h => h)

end Tries

/-- The selection of a sound document can be read. -/
theorem getSelection_completes :
    Completes Sound (liftM Host.getSelection : Handler (List LayerId)) fun _ => Sound := by
  refine .call (.bind (.enter (by decide)) fun _ => .bind .view fun d => ?_)
  split
  · rename_i hnone
    refine .of_false ?_
    rintro d' ⟨hs, rfl⟩
    obtain ⟨ids, hids, -⟩ := hs.liveSelection
    rw [hnone] at hids
    cases hids
  · rename_i ids hids
    have hedit : Host.Completes (fun d' => d'.Sound ∧ d = d') (Host.edit ({ · with selection := ids.map .layer }))
        fun _ => Sound := by
      refine .edit ?_
      rintro d' ⟨hs, rfl⟩
      exact hs.read hids
    exact .bind hedit fun _ => .pure fun _ h => h

theorem subjects_tries (trait : Look → Bool) : Tries (subjects t trait) fun _ _ => True := by
  unfold subjects
  split
  · exact (Asks.bind .requireTarget fun _ => .bind (.requireTrait trait) fun _ => .pure _).tries
  · refine .done (.bind getSelection_completes fun selection => .mono ?_ (fun _ _ => trivial) fun _ _ h => h)
    split
    · exact .bind (Sure.emit _) fun _ => .pure fun _ h => h
    · refine .bind Sure.view fun d => ?_
      dsimp only
      split
      · exact .bind (Sure.emit _) fun _ => .pure fun _ h => h
      · exact .pure fun _ h => h

/-- What is done to a target is done without fail. -/
theorem target_tries {act : LayerId → Handler Unit} (h : ∀ id, Sure (act id)) :
    Tries (requireTarget t >>= act) fun _ _ => True :=
  Asks.requireTarget.andThen fun id => .sure (h id)

theorem groupSelection_tries : Tries (groupSelection t) fun _ _ => True := by
  refine .done (.bind getSelection_completes fun ids => ?_)
  split
  · rename_i first second rest
    have hcontainer : Completes Sound (containerOf first) fun p d => d.isContainer p := by
      refine .bind .view fun d => ?_
      split
      · rename_i p hp
        refine .pure ?_
        rintro d' ⟨hs, rfl⟩
        exact hs.container first p hp
      · exact .bind (.call (.enter (by decide))) fun _ => .pure fun _ _ => rfl
    refine .bind hcontainer fun p => .bind (.call (.group (by simp))) fun g => ?_
    exact Sure.applyName
  · exact Completes.emit.mono (fun _ h => h) fun _ _ _ => trivial

theorem selection_tries {act : List LayerId → Handler Unit} (h : ∀ ids, Sure (act ids)) :
    Tries (liftM Host.getSelection >>= act) fun _ _ => True :=
  .done (.bind getSelection_completes fun ids => (h ids).mono (fun _ _ => trivial) fun _ _ h => h)

theorem handle_tries (op : Op) (t : Task) : Tries (handle op t) fun _ _ => True := by
  cases op with
  | createRectangle | createEllipse | createPolygon | createStar | createFrame => exact .sure (.createBox _ _)
  | createCircle => exact .sure .createCircle
  | createLine => exact .sure .createLine
  | createText => exact .sure .createText
  | setFill | setStroke =>
    refine (subjects_tries _).andThen fun ids => ?_
    split
    · exact Sure.bind .color fun c => .forM (fun id => .ifAlive (.adjust _ _)) ids
    · exact Sure.pure _
  | setOpacity => exact (subjects_tries _).andThen fun ids => Sure.forM (fun id => .ifAlive (.adjust _ _)) ids
  | move | rotate => exact target_tries fun id => .ifAlive (.adjust _ _)
  | resize =>
    refine Asks.requireTarget.andThen fun id => (Asks.requireTrait _).andThen fun id => ?_
    exact .sure (.ifAlive (.adjust _ _))
  | select => exact .sure .select
  | selectAll => exact .sure .selectAll
  | deselect => exact .sure (.call (.setSelection _))
  | findByName => exact .sure .findByName
  | selectLast => exact .sure .selectLast
  | bringToFront | sendToBack => exact target_tries fun id => .ifAlive (.bind .containerOf fun p => .edit _)
  | delete => exact target_tries fun id => .ifAlive (.edit _)
  | deleteSelection => exact selection_tries fun ids => .forM (fun id => .edit _) ids
  | group => exact groupSelection_tries
  | ungroup => exact selection_tries fun ids => .forM (fun id => .ungroupOne id) ids
  | zoomToFit => exact .sure .zoomToFit
  | zoomToSelection =>
    refine selection_tries fun ids => ?_
    split
    · exact .emit _
    · exact .call (.zoomTo _)

/-! ### Actions -/

variable {options : ExecutionOptions} {a : Action} {actions : List Action} {h h' : Host} {report : Report} {e : Event}

/-- All there is of an action that failed is the event that says so. -/
theorem perform_failed (hs : h.document.Sound) (hf : Fair h) (ho : (perform options a h).1 = .failed e) :
    (perform options a h).2.2.document = h.document ∧ (perform options a h).2.1 = [e] := by
  have hevents : (perform options a h).2.1 = ((apply options a).run ⟨h, []⟩).2.events ++ [e] := by
    rw [perform_eq] at ho ⊢
    dsimp only at ho ⊢
    rw [ho]
    rfl
  have hstill : Still ⟨h, []⟩ ((apply options a).run ⟨h, []⟩).2 := by
    obtain ⟨-, he⟩ | ⟨-, -, he⟩ | ⟨op, -, -, he⟩ := apply_cases options a
    · rw [he]
      exact ⟨hf, rfl, rfl⟩
    · rw [he]
      exact ⟨hf, rfl, rfl⟩
    · have hend := handle_tries op (taskOf options a) ⟨h, []⟩ hs ⟨h, []⟩ ⟨hf, rfl, rfl⟩
      rw [perform_eq] at ho
      dsimp only at ho
      rw [he] at ho ⊢
      rcases hr : (handle op (taskOf options a)).run ⟨h, []⟩ with ⟨e' | u, r⟩ <;> rw [hr] at hend ho
      · exact hend.2
      · cases ho
  refine ⟨hstill.2.1, ?_⟩
  rw [hevents, hstill.2.2]
  rfl

theorem not_userFacing_of_code (h : e.code ∈ failureCodes) : e.isUserFacing = false := by
  cases e <;> first | rfl | (simp [Event.code, failureCodes] at h)

theorem step_run (options : ExecutionOptions) (report : Report) (a : Action) (h : Host) : (step options report a).run h =
    ((((perform options a h).2.1.filter (·.isUserFacing)).forM fun e => Host.notify e.message) >>= fun _ =>
      pure (record report (perform options a h).1 (perform options a h).2.1) : HostM Report).run (perform options a h).2.2 := rfl

theorem step_failed (hs : h.document.Sound) (hf : Fair h) (ht : (perform options a h).1.tag = .failed) :
    ((step options report a).run h).2.document = h.document := by
  obtain ⟨-, ho, -⟩ | ⟨-, ho | ⟨e, ho, hc⟩⟩ := perform_cases options a h
  · rw [ho] at ht
    cases ht
  · rw [ho] at ht
    cases ht
  · obtain ⟨hd, he⟩ := perform_failed hs hf ho
    rw [step_run, he, List.filter_cons_of_neg (by simp [not_userFacing_of_code hc])]
    exact hd

theorem step_unknown (hq : Quiet h) (ht : (perform options a h).1.tag = .unknown) :
    ((step options report a).run h).2.document = h.document.notify ("Unknown action: " ++ a.op) := by
  obtain ⟨hop, -, he⟩ | ⟨-, ho | ⟨e, ho, -⟩⟩ := perform_cases options a h
  · have hno : opOf? a = none := by rw [opOf?, hop, ite_self]
    rw [step_run, he, (perform_of_opOf? options h hno).1, List.filter_cons_of_pos rfl, List.filter_nil]
    show (((Host.notify _ >>= fun _ => pure _) >>= fun _ => pure _ : HostM Report).run h).2.document = _
    rw [run_bind_eq, run_bind_eq, notify_run hq]
    rfl
  · rw [ho] at ht
    cases ht
  · rw [ho] at ht
    cases ht

theorem hostAt_succ {i : Nat} (hi : i < actions.length)
    (hr : (runActions options (actions.take i)).run h = (.ok report, h')) :
    hostAt options actions h (i + 1) = ((step options report actions[i]).run h').2 := by
  unfold hostAt
  rw [List.take_succ_eq_append_getElem hi, runActions_concat, run_bind_eq, hr]

/-- No action of a batch that ends as a failure or is unknown leaves anything but a message that it is unknown. -/
theorem failed_changes_nothing {h₀ : Host} (hb : Blank h₀) (hf : Fair h₀) (hr : Reaches (fun _ _ => True) h₀ h)
    (options : ExecutionOptions) (items : List (Json ⊕ Action)) :
    ∃ report h', (execute options (items.map coerce)).run h = (.ok report, h') ∧
      ∀ i (hi : i < (items.map coerce).length),
        let before := (hostAt options (items.map coerce) h i).document
        let after := (hostAt options (items.map coerce) h (i + 1)).document
        ((i : Int) ∈ report.failed → after = before) ∧
          ((i : Int) ∈ report.unknown → after = before.notify ("Unknown action: " ++ (items.map coerce)[i].op)) := by
  generalize items.map coerce = actions
  have hfair {h : Host} (hr : Reaches (fun _ _ => True) h₀ h) : Fair h := by
    intro n call hc
    rw [hr.rel Host.stepwise_faults]
    exact hf n call hc
  have hquiet {h : Host} (hf : Fair h) : Quiet h := fun n => hf n .notify (by decide)
  obtain ⟨endings, h₁, hrun, hq, hl, he⟩ := runActions_quiet options actions (hquiet (hfair hr))
  obtain ⟨h₂, hx⟩ := execute_quiet options actions hrun hq
  refine ⟨tally endings, h₂, hx, fun i hi => ?_⟩
  have hreach : Reaches (fun _ _ => True) h₀ (hostAt options actions h i) :=
    hr.trans (runActions_reaches options (actions.take i) h)
  have hs := hreach.sound (blank_sound hb)
  obtain ⟨before, h₃, hbefore, -⟩ := runActions_quiet options (actions.take i) (hquiet (hfair hr))
  have hat : hostAt options actions h i = h₃ := congrArg Prod.snd hbefore
  rw [hostAt_succ hi hbefore, ← hat]
  refine ⟨fun hm => ?_, fun hm => ?_⟩
  · exact step_failed hs (hfair hreach) ((mem_counted_iff he .failed hi).1 hm)
  · exact step_unknown (hquiet (hfair hreach)) ((mem_counted_iff he .unknown hi).1 hm)

/-- A rectangle is made, a layer that is not there cannot be turned, and nothing can fly. -/
theorem unchanged_by_failures :
    let h : Host := { faults := Faults.always [(.loadFont, "no font")] }
    let items : List (Json ⊕ Action) := [.inr ⟨"create_rectangle", [], .null⟩, .inr ⟨"rotate", [], .str "sun"⟩,
      .inr ⟨"fly", [], .null⟩]
    let documentAt (i : Nat) := (hostAt {} (items.map coerce) h i).document
    (∃ report, ((execute {} (items.map coerce)).run h).1 = .ok report ∧ report.failed = [1] ∧ report.unknown = [2]) ∧
      documentAt 2 = documentAt 1 ∧ documentAt 3 = (documentAt 2).notify "Unknown action: fly" := by
  intro h items documentAt
  have hb : Blank h := ⟨"Page 1", false, rfl⟩
  have hf : Fair h := by
    intro n call hc
    cases call <;> first | rfl | exact absurd rfl hc
  obtain ⟨report, h', hx, hall⟩ := failed_changes_nothing hb hf .refl {} items
  have hreport : report.failed = [1] ∧ report.unknown = [2] := by
    have hrun : (((execute {} (items.map coerce)).run h).1.toOption.map fun r => (r.failed, r.unknown)) = some ([1], [2]) := by
      decide +kernel
    rw [hx] at hrun
    simpa [Except.toOption] using hrun
  obtain ⟨hfailed, hunknown⟩ := hreport
  refine ⟨⟨report, by rw [hx], hfailed, hunknown⟩, ?_, ?_⟩
  · exact (hall 1 (by decide)).1 (by rw [hfailed]; decide)
  · exact (hall 2 (by decide)).2 (by rw [hunknown]; decide)

end Easel.Execution
