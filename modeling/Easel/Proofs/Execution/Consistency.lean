import Easel.Proofs.Execution.Accounting
import Easel.Proofs.Execution.Upkeep
import Mathlib.Logic.Relation

/-!
Documents that batches can leave. A host begins with an empty page and carries out actions, with messages to the user between
them; any of its calls may fail. However far it comes, children and parents agree, nothing on the page was removed, and every
walk ends.
-/

namespace Easel.Execution

open Document Host

variable {E P : Document → Prop} {fair : Document → Action → Prop} {h h' : Host} {options : ExecutionOptions} {a : Action}

/-- Nothing was made yet. -/
def Blank (h : Host) : Prop := ∃ pageName fontsFail, h.document = { pageName, fontsFail }

/-- What a host does while batches are carried out: the next action, or a message. -/
inductive Move (fair : Document → Action → Prop) : Host → Host → Prop
  | act (options : ExecutionOptions) (report : Report) (a : Action) (h : Host) :
    fair h.document a → Move fair h ((step options report a).run h).2
  | notify (message : String) (h : Host) : Move fair h ((Host.notify message).run h).2

abbrev Reaches (fair : Document → Action → Prop) : Host → Host → Prop := Relation.ReflTransGen (Move fair)

def Reachable (h : Host) : Prop := ∃ h₀, Blank h₀ ∧ Reaches (fun _ _ => True) h₀ h

theorem runActions_reaches_of {actions : List Action} (hf : ∀ d, ∀ a ∈ actions, fair d a) (options : ExecutionOptions) (h : Host) :
    Reaches fair h ((runActions options actions).run h).2 := by
  -- The report so far has no influence on the host.
  suffices hs : ∀ report h, Reaches fair h ((actions.foldlM (step options) report).run h).2 from hs {} h
  induction actions with
  | nil => exact fun _ _ => .refl
  | cons a rest ih =>
    intro report h
    have hmove : Move fair h ((step options report a).run h).2 := .act options report a h (hf _ a List.mem_cons_self)
    rw [List.foldlM_cons, run_bind_eq]
    rcases hr : (step options report a).run h with ⟨e | report', h'⟩ <;> rw [hr] at hmove
    · exact .single hmove
    · exact .head hmove (ih (fun d a ha => hf d a (List.mem_cons_of_mem _ ha)) report' h')

theorem execute_reaches_of {actions : List Action} (hf : ∀ d, ∀ a ∈ actions, fair d a) (options : ExecutionOptions) (h : Host) :
    Reaches fair h ((execute options actions).run h).2 := by
  have hrun := runActions_reaches_of hf options h
  unfold execute
  rw [run_bind_eq]
  rcases he : (runActions options actions).run h with ⟨e | report, h'⟩ <;> rw [he] at hrun
  · exact hrun
  · by_cases hs : options.notifySummary
    · have hmove : Move fair h' ((Host.notify report.summary).run h').2 := .notify _ _
      simp only [hs, if_true]
      rw [run_bind_eq]
      rcases hn : (Host.notify report.summary).run h' with ⟨e | u, h''⟩ <;> rw [hn] at hmove <;> exact hrun.tail hmove
    · simp only [hs]
      exact hrun

theorem runActions_reaches (options : ExecutionOptions) (actions : List Action) (h : Host) :
    Reaches (fun _ _ => True) h ((runActions options actions).run h).2 :=
  runActions_reaches_of (fun _ _ _ => trivial) options h

theorem execute_reaches (options : ExecutionOptions) (actions : List Action) (h : Host) :
    Reaches (fun _ _ => True) h ((execute options actions).run h).2 :=
  execute_reaches_of (fun _ _ _ => trivial) options h

/-- A whole batch, be it of actions or of anything else. -/
theorem execute_reachable (options : ExecutionOptions) (items : List (Json ⊕ Action)) (hr : Reachable h) :
    Reachable ((execute options (items.map coerce)).run h).2 := by
  obtain ⟨h₀, hb, hr⟩ := hr
  exact ⟨h₀, hb, hr.trans (execute_reaches options _ h)⟩

/-- Batches with the options of each. -/
abbrev Batches := List (ExecutionOptions × List (Json ⊕ Action))

def Batches.actions (batches : Batches) : List Action :=
  batches.flatMap fun batch => batch.2.map coerce

/-- A host on which batches were carried out, one after the other. -/
def afterBatches (batches : Batches) (h : Host) : Host :=
  batches.foldl (fun h batch => ((execute batch.1 (batch.2.map coerce)).run h).2) h

theorem afterBatches_reaches {batches : Batches} (hf : ∀ d, ∀ a ∈ batches.actions, fair d a) (h : Host) :
    Reaches fair h (afterBatches batches h) := by
  induction batches generalizing h with
  | nil => exact .refl
  | cons batch rest ih =>
    have hfirst : Reaches fair h ((execute batch.1 (batch.2.map coerce)).run h).2 :=
      execute_reaches_of (fun d a ha => hf d a (List.mem_append_left _ ha)) batch.1 h
    exact hfirst.trans (ih (fun d a ha => hf d a (List.mem_append_right _ ha)) _)

/-! ### One action -/

theorem turns_run {m : HostM α} {Q : α → Document → Prop} (hm : Turns P P m Q) (hq : ∀ a d, Q a d → P d)
    (hp : P h.document) : P (m.run h).2.document := by
  have h' := hm h hp
  rcases hr : m.run h with ⟨e | a, h''⟩ <;> rw [hr] at h'
  · exact h'
  · exact hq a _ h'

theorem notify_steady (hP : Steady P) (hp : P h.document) (message : String) :
    P ((Host.notify message).run h).2.document :=
  turns_run (.notify (fun _ h => h) hP) (fun _ _ h => h) hp

/-- Messages between the actions change nothing that counts. -/
theorem step_steady (hP : Steady P) (report : Report) (hp : P (perform options a h).2.2.document) :
    P ((step options report a).run h).2.document := by
  have hm : Turns P P ((((perform options a h).2.1.filter (·.isUserFacing)).forM fun e => Host.notify e.message) >>= fun _ =>
      pure (record report (perform options a h).1 (perform options a h).2.1)) fun _ => P := by
    refine .bind (Q := fun _ => P) ?_ fun _ => .pure fun _ h => h
    exact Leads.forM (fun _ (h : Host) => P h.document) _ fun e _ =>
      show Turns P P (Host.notify e.message) fun _ => P from .notify (fun _ h => h) hP
  have hrun := turns_run hm (fun _ _ h => h) hp
  exact hrun

theorem step_rel {R : Host → Host → Prop} (hR : Host.Stepwise R) (options : ExecutionOptions) (report : Report) (a : Action)
    (h : Host) : R h ((step options report a).run h).2 := by
  have hplain : Host.Plain ((((perform options a h).2.1.filter (·.isUserFacing)).forM fun e => Host.notify e.message) >>=
      fun _ => pure (record report (perform options a h).1 (perform options a h).2.1)) :=
    .bind (.forM (fun _ => .notify _) _) fun _ => .pure _
  exact hR.trans (perform_rel hR options a h) (hplain.run_rel hR (perform options a h).2.2)

theorem Reaches.rel {R : Host → Host → Prop} (hR : Host.Stepwise R) (hr : Reaches fair h h') : R h h' := by
  induction hr with
  | refl => exact hR.refl h
  | tail _ hm ih =>
    cases hm with
    | act options report a => exact hR.trans ih (step_rel hR options report a _)
    | notify message => exact hR.trans ih ((Host.Plain.notify message).run_rel hR _)

theorem length_dissolve {d : Document} {g : LayerId} {p : Node} : (d.dissolve g p).layers.length = d.layers.length := by
  rw [dissolve_eq, length_remove, release]
  exact List.foldlRecOn (motive := fun d' : Document => d'.layers.length = d.layers.length) _ _ rfl
    fun _ ih _ _ => length_attach.trans ih

theorem length_edit {f : Document → Document} (hf : Document.Edit f) (d : Document) :
    (f d).layers.length = d.layers.length := by
  cases hf with
  | look => exact length_update
  | append | insert => exact length_attach
  | remove => exact length_remove
  | removeLive id =>
    dsimp only
    split
    · rfl
    · exact length_remove
  | gather => exact length_gather
  | dissolve => exact length_dissolve
  | select | zoom | notify | putData => rfl
  | addFont family style =>
    dsimp only [addFont]
    split <;> rfl

/-- A layer that was made stays known, wherever it hangs. -/
theorem stepwise_length : Host.Stepwise fun h h' => h.document.layers.length ≤ h'.document.layers.length where
  refl _ := Nat.le_refl _
  trans := Nat.le_trans
  enter _ := Nat.le_refl _
  create look h := by dsimp only; rw [length_create]; exact Nat.le_succ _
  edit hf h := (length_edit hf h.document).ge

/-- The operation that is carried out for an action, if one is. -/
def opOf? (a : Action) : Option Op :=
  if a.objections = [] then Op.ofName? a.op else none

theorem perform_of_opOf? (options : ExecutionOptions) (h : Host) (ha : opOf? a = none) :
    (perform options a h).2.2 = h ∧ (perform options a h).1 ≠ .succeeded ∧ Calm (perform options a h).2.1 := by
  have hone {e : Event} (he : e.code ≠ "STALE_NODE") : Calm [e] := by
    intro e' hmem
    rw [List.mem_singleton.1 hmem]
    exact he
  obtain ⟨hop, he⟩ | ⟨hop, ho, he⟩ | ⟨op, hop, ho, -⟩ := apply_cases options a
  · rw [perform_eq, he]
    refine ⟨rfl, ?_, hone (by simp [Event.code])⟩
    show Outcome.unknown _ ≠ .succeeded
    simp
  · rw [perform_eq, he]
    refine ⟨rfl, ?_, hone (by simp [Event.code])⟩
    show Outcome.failed _ ≠ .succeeded
    simp
  · rw [opOf?, if_pos ho, hop] at ha
    cases ha

theorem apply_of_opOf? {op : Op} (ha : opOf? a = some op) : apply options a = handle op (taskOf options a) := by
  obtain ⟨hop, -⟩ | ⟨-, ho, -⟩ | ⟨op', hop, ho, he⟩ := apply_cases options a
  · rw [opOf?, hop, ite_self] at ha
    cases ha
  · rw [opOf?, if_neg ho] at ha
    cases ha
  · rw [opOf?, if_pos ho, hop] at ha
    cases ha
    exact he

/-- What becomes of the document in an action, and that nothing is found removed in it. -/
theorem perform_does (options : ExecutionOptions) (hs : h.document.Sound) {op : Op} (ha : opOf? a = some op) :
    Calm (perform options a h).2.1 ∧ Begun op h.document (perform options a h).2.2.document ∧
      ((perform options a h).1 = .succeeded → Ended op h.document (perform options a h).2.2.document) := by
  have hend := handle_does (t := taskOf options a) op hs ⟨h, []⟩ ⟨rfl, fun e he => by cases he⟩
  have hout := outcomeOf_handle options a op ⟨h, []⟩
  rw [perform_eq, apply_of_opOf? ha]
  dsimp only at hout ⊢
  -- The event that ends the action comes after those of its handler, and is not one for a removed layer.
  have hcalm (r : Run) (hc : Calm r.events) :
      Calm (r.events ++ (outcomeOf a ((handle op (taskOf options a)).run ⟨h, []⟩).1).event?.toList) := by
    intro e hmem
    obtain hmem | hmem := List.mem_append.1 hmem
    · exact hc e hmem
    · obtain ho | ⟨e', ho, hcode⟩ := hout <;> rw [ho] at hmem
      · cases hmem
      · rw [Outcome.event?, Option.toList_some, List.mem_singleton] at hmem
        rw [hmem]
        intro hstale
        rw [hstale] at hcode
        exact absurd hcode (by decide)
  rcases hr : (handle op (taskOf options a)).run ⟨h, []⟩ with ⟨e | u, r⟩ <;> rw [hr] at hend hcalm
  · refine ⟨hcalm r hend.2, hend.1, fun hsucc => absurd hsucc ?_⟩
    unfold outcomeOf
    split <;> simp_all
  · exact ⟨hcalm r hend.2, ⟨hend.1.sound, fun hno => (hend.1.kept hno).1⟩, fun _ => hend.1⟩

theorem perform_sound (options : ExecutionOptions) (a : Action) (hs : h.document.Sound) :
    (perform options a h).2.2.document.Sound ∧ Calm (perform options a h).2.1 := by
  cases ha : opOf? a with
  | none =>
    obtain ⟨he, -, hc⟩ := perform_of_opOf? options h ha
    rw [he]
    exact ⟨hs, hc⟩
  | some op =>
    obtain ⟨hc, hb, -⟩ := perform_does options hs ha
    exact ⟨hb.1, hc⟩

theorem steady_sound : Steady Sound := fun _ _ h hm => h.still hm hm.parentOf

theorem blank_sound (hb : Blank h) : h.document.Sound := by
  obtain ⟨pageName, fontsFail, hb⟩ := hb
  rw [hb]
  exact
    { linked := fun c id => by cases c <;> rfl
      container := fun id p hp => by cases hp
      alike := fun id p hp => by cases hp
      selected := fun n hn => by cases hn
      nodup := .nil
      together := .inl fun id hid => by cases hid.1 }

theorem Reaches.sound (hr : Reaches fair h h') (hs : h.document.Sound) : h'.document.Sound := by
  induction hr with
  | refl => exact hs
  | tail _ hm ih =>
    cases hm with
    | act options report a => exact step_steady steady_sound report (perform_sound options a ih).1
    | notify message => exact notify_steady steady_sound ih message

theorem Reachable.sound (hr : Reachable h) : h.document.Sound := by
  obtain ⟨h₀, hb, hr⟩ := hr
  exact hr.sound (blank_sound hb)

/-! ### What always holds -/

/-- The walk that marks all that is removed with a layer ends and meets nothing twice. -/
def RemovalEnds (d : Document) (id : LayerId) : Prop :=
  (d.detach id).Visits [id] ((d.detach id).walk id) ∧ ((d.detach id).walk id).Nodup

theorem removalEnds {d : Document} {id : Nat} (hl : d.Linked) (hid : id < d.layers.length) : RemovalEnds d id := by
  have hl' : (d.detach id).Linked := Moved.detach.linked hl
  exact ⟨visits_walk hl' (by rw [length_detach]; exact hid) acyclic_detach, nodup_walk hl' acyclic_detach⟩

theorem text_injective : Function.Injective LayerId.text := by
  intro x y he
  have he : "1:" ++ Nat.repr (x + 1) = "1:" ++ Nat.repr (y + 1) := by simpa [LayerId.text] using he
  have he : Nat.repr (x + 1) = Nat.repr (y + 1) := (String.append_right_inj "1:").1 he
  have hdigits := congrArg (fun s => Nat.ofDigitChars 10 s.toList 0) he
  simpa using hdigits

/-- The document when `each` has gone over the first `i` selected layers. -/
def documentAfter (each : List LayerId → Handler Unit) (i : Nat) (h : Host) : Document :=
  (((do each ((← Host.getSelection).take i)) : Handler Unit).run ⟨h, []⟩).2.host.document

/-- What holds of a host, whatever was carried out on it. -/
structure Consistent (h : Host) : Prop where
  /-- A layer is a child of the container that is its parent, once, and of no other. -/
  hung_once : ∀ id < h.document.layers.length, ∀ c, h.document.isContainer c →
    (h.document.childrenOf c).count id = if h.document.parentOf id = some c then 1 else 0
  hung_on_container : ∀ id p, h.document.parentOf id = some p → h.document.isContainer p
  texts_distinct : ((List.range h.document.layers.length).map LayerId.text).Nodup
  never_forgotten : ∀ h', Reaches (fun _ _ => True) h h' → h.document.layers.length ≤ h'.document.layers.length
  removed_below : ∀ id, h.document.isRemoved id = true → ∀ c ∈ h.document.childrenOf (.layer id), h.document.isRemoved c = true
  page_live : ∀ id ∈ h.document.all, h.document.isRemoved id = false
  never_stale : ∀ options a, ∀ e ∈ (perform options a h).2.1, e.code ≠ "STALE_NODE"
  all_ends : h.document.Visits h.document.pageChildren h.document.all ∧ h.document.all.Nodup
  delete_ends : ∀ id < h.document.layers.length, RemovalEnds h.document id
  deleteSelection_ends : ∀ i id, id < (documentAfter deleteEach i h).layers.length →
    RemovalEnds (documentAfter deleteEach i h) id
  ungroup_ends : ∀ i id p, (documentAfter ungroupEach i h).parentOf id = some p →
    RemovalEnds ((documentAfter ungroupEach i h).release id p) id

theorem does_run {E P : Document → Prop} {m : Handler α} {Q : α → Document → Prop} (hm : Does E P m Q)
    (hq : ∀ a d, Q a d → E d) (hp : P h.document) : E (m.run ⟨h, []⟩).2.host.document := by
  have hrun := hm ⟨h, []⟩ ⟨hp, fun e he => by cases he⟩
  rcases hr : m.run ⟨h, []⟩ with ⟨e | a, r⟩ <;> rw [hr] at hrun
  · exact hrun.1
  · exact hq a _ hrun.1

/-- Batches leave hosts consistent, also those that group a layer together with one it hangs on. -/
theorem reachable_consistent (hr : Reachable h) : Consistent h := by
  have hs := hr.sound
  -- Every document on the way through a selection is one that a shorter selection would have led to.
  have hdelete (i : Nat) : (documentAfter deleteEach i h).Sound := by
    have hm : Does (h.document.Kept anything) (fun d => d = h.document) (do deleteEach ((← Host.getSelection).take i))
        fun _ => Deleting h.document [] :=
      .bind (getSelection_deleting hs) fun _ => .mono deleteEach_does (fun _ h => h.take i) fun _ _ h => h
    exact (does_run hm (fun _ _ h => h.1.1) rfl).sound
  have hungroup (i : Nat) : (documentAfter ungroupEach i h).Sound := by
    have hm : Does (h.document.Kept (groups h.document)) (fun d => d = h.document)
        (do ungroupEach ((← Host.getSelection).take i)) fun _ => Dissolving h.document [] :=
      .bind (getSelection_dissolving hs) fun _ => .mono ungroupEach_does (fun _ h => h.take i) fun _ _ h => h
    exact (does_run hm (fun _ _ h => h.1.1) rfl).sound
  exact
    { hung_once := fun id _ c _ => hs.linked c id
      hung_on_container := hs.container
      texts_distinct := List.nodup_range.map text_injective
      never_forgotten := fun h' hr => hr.rel stepwise_length
      removed_below := fun id hid c hc => by rw [hs.alike c _ (hs.linked.mem_iff.1 hc)]; exact hid
      page_live := fun id hid => hs.live_of_onPage ((mem_all hs.linked).1 hid)
      never_stale := fun options a => (perform_sound options a hs).2
      all_ends := ⟨visits_all hs.linked, nodup_all hs.linked⟩
      delete_ends := fun id hid => removalEnds hs.linked hid
      deleteSelection_ends := fun i id hid => removalEnds (hdelete i).linked hid
      ungroup_ends := fun i id p hp => by
        have hm := Moved.release (g := id) (hungroup i).linked ((hungroup i).linked.has hp)
        refine removalEnds (hm.linked (hungroup i).linked) ?_
        rw [hm.length]
        exact lt_of_parentOf hp }

/-- A rectangle grouped together with the frame that it is in. -/
theorem consistent_after_round :
    let items := [.inr ⟨"create_frame", [("name", .str "ab")], .null⟩,
      .inr ⟨"create_rectangle", [("name", .str "a"), ("parentId", .str "ab")], .null⟩,
      .inr ⟨"select", [("name", .str "a")], .null⟩, .inr ⟨"group", [], .null⟩]
    Reachable ((execute {} (items.map coerce)).run {}).2 ∧ Consistent ((execute {} (items.map coerce)).run {}).2 :=
  have hr := execute_reachable {} _ ⟨{}, ⟨"Page 1", false, rfl⟩, .refl⟩
  ⟨hr, reachable_consistent hr⟩

end Easel.Execution
