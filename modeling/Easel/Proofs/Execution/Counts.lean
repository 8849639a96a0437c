import Easel.Proofs.Execution.Creation
import Easel.Proofs.Execution.Speech
import Mathlib.Data.Set.Card

/-!
The counts that the user is told of. Where several layers are selected, or too few to be grouped, the count is that of the layers.
Where a new layer is hung below several parents the count is that of the parents that were found, whether they can hold it or not.
-/

namespace Easel.Execution

open Document Host

variable {options : ExecutionOptions} {h : Host} {a : Action} {d d' : Document} {op : Op} {t : Task} {V : Event → Prop} {e : Event}
  {ref : String} {n id : Nat}

theorem ncard_mem {α : Type} {l : List α} (hn : l.Nodup) : {x | x ∈ l}.ncard = l.length := by
  classical
  have hset : {x | x ∈ l} = ↑l.toFinset := by
    ext x
    simp
  rw [hset, Set.ncard_coe_finset, List.toFinset_card_of_nodup hn]

theorem Says.completes {α : Type} {P : Document → Prop} {m : HostM α} {Q : α → Document → Prop} (hm : Host.Completes P m Q) :
    Says V (fun _ => True) (fun h => Fair h ∧ P h.document) (liftM m) fun a h => Fair h ∧ Q a h.document :=
  .call (Leads.mono hm (fun _ hp => hp) (fun _ _ hq => hq) fun _ _ hno => hno.elim)

/-! ### Parents -/

/-- The parents that are counted are all that were found. -/
def ParentsCounted (d : Document) (args : Fields) : Event → Prop
  | .severalParents _ n => n = (d.parentsOf args).length
  | _ => True

theorem parentsCounted_of_not_counts {args : Fields} (he : ¬e.counts) : ParentsCounted d args e := by
  cases e <;> first | trivial | exact absurd trivial he

/-- There is one layer that was not in `d`, and it hangs nowhere. -/
def Drafted (d d' : Document) : Prop := ∃ look, d.Copied look 1 d'

def Draft (d : Document) (id : LayerId) (h : Host) : Prop :=
  Fair h ∧ id = d.layers.length ∧ Drafted d h.document

theorem drafts_draft : Drafts (fun _ => True) (fun h => Fair h ∧ h.document = d) (Draft d) where
  make k := by
    have hcreate : Host.Completes (fun d' => d' = d) (Host.createKind k) fun id d' =>
        id = d.layers.length ∧ Drafted d d' := by
      apply Host.Completes.create
      rintro d' rfl
      exact ⟨rfl, _, .first⟩
    exact Leads.mono hcreate (fun _ hp => hp) (fun _ _ hq => hq) fun _ _ hno => hno.elim
  look id h f := by
    rintro ⟨hf, rfl, look, hc⟩
    exact ⟨hf, rfl, f look, hc.updateLook f⟩
  call _ _ hp := hp
  font id h family style := by
    rintro ⟨hf, rfl, look, hc⟩
    have hadd : (h.document.addFont family style).layers = h.document.layers ∧
        (h.document.addFont family style).pageChildren = h.document.pageChildren := by
      unfold addFont
      split <;> exact ⟨rfl, rfl⟩
    exact ⟨hf, rfl, look, hadd.1.trans hc.layers, hadd.2.trans hc.page⟩

theorem attach_counted (hl : d.Linked) :
    Says (ParentsCounted d t.args) (fun _ => True) (Draft d id) (attach t id) fun _ _ => True := by
  have hV : ∀ e : Event, ¬e.counts → ParentsCounted d t.args e := fun _ => parentsCounted_of_not_counts
  have hstart : Says (ParentsCounted d t.args) (fun _ => True) (Draft d id) (liftM (Host.enter .currentPage) : Handler Unit)
      fun _ h => Fair h ∧ Drafted d h.document :=
    (Says.completes (.enter (by decide))).mono (fun _ hp => ⟨hp.1, hp.2.2⟩) fun _ _ hq => hq
  apply hstart.bind
  intro _
  split
  · exact .of_mum fun _ => .bind (.append _ _) fun _ => .pure _
  · rename_i ref href
    have href : Lookup.wanted? (t.args.value "parentId") = some ref := href
    apply Says.bind (.completes (.parent (Lookup.wanted?_str href)))
    intro found
    split
    · exact .of_mum fun _ => .bind (.append _ _) fun _ => .bind (.emit trivial) fun _ => .pure _
    · rename_i found
      apply Says.intro
      rintro h ⟨-, ⟨look, hc⟩, hids, -⟩
      have hcount : found.ids.length = (d.parentsOf t.args).length := by
        rw [parentsOf, href]
        exact congrArg List.length (hids.trans (hc.referred hl))
      exact .of_mum fun _ => .attachEach hV hcount

theorem creator_counted (hl : d.Linked) (hc : op.spec.category = .create) :
    Says (ParentsCounted d t.args) (fun _ => True) (fun h => Fair h ∧ h.document = d) (handle op t) fun _ _ => True := by
  have hfinish (id : LayerId) : Says (ParentsCounted d t.args) (fun _ => True) (Draft d id) (finish t id) fun _ _ => True := by
    apply Says.bind (attach_counted hl)
    intro created
    split
    · exact .of_mum fun _ => .focus created
    · exact .pure fun _ _ => trivial
  exact drafts_draft.creator (fun _ => parentsCounted_of_not_counts) hfinish hc

/-- That something is said, once the handler comes to its end. -/
def Announces (P : Run → Prop) {α : Type} (m : Handler α) (e : Event) : Prop :=
  Leads P m (fun _ r => e ∈ r.events) fun _ _ => True

namespace Announces

variable {α β : Type} {P : Run → Prop} {k : α → Handler β}

/-- A fact about the run so far. -/
theorem intro {m : Handler α} (h : ∀ r, P r → Announces (fun r' => r' = r) m e) : Announces P m e :=
  fun r hr => h r hr r rfl

theorem before {m : Handler α} (hk : ∀ a, Announces (fun _ => True) (k a) e) : Announces P (m >>= k) e := by
  have hm : Leads P m (fun _ _ => True) fun _ _ => True := by
    intro r _
    split <;> trivial
  exact .bind hm hk

theorem after {P : Document → Prop} {Q : α → Document → Prop} {m : Handler α} (hm : Completes P m Q)
    (hk : ∀ a, Announces (fun r => Fair r.host ∧ Q a r.host.document) (k a) e) :
    Announces (fun r => Fair r.host ∧ P r.host.document) (m >>= k) e :=
  .bind (Leads.mono hm (fun _ hp => hp) (fun _ _ hq => hq) fun _ _ hno => hno.elim) hk

theorem emit : Announces P (Handler.emit e) e := fun r _ => List.mem_append_right r.events List.mem_cons_self

theorem call (m : HostM α) : Announces (fun r => e ∈ r.events) (liftM m) e := by
  intro r he
  rw [Handler.call_run]
  rcases m.run r.host with ⟨error | a, host⟩
  · trivial
  · exact he

theorem speaks {P : Host → Prop} {m : Handler α} (hm : Announces (fun r => P r.host) m e) :
    Speaks (fun _ => True) (fun _ => True) P m fun _ r => e ∈ r.events :=
  Leads.mono hm (fun _ h => h.1) (fun _ _ h => h) fun _ _ _ => ⟨trivial, fun _ _ => trivial⟩

end Announces

section Told

variable (hl : d.Linked) (href : Lookup.wanted? (t.args.value "parentId") = some ref) (hlength : 1 < (d.referred ref).length)

include hl href hlength

theorem attach_announces : Announces (fun r => Draft d id r.host) (attach t id) (.severalParents ref (d.referred ref).length) := by
  have hstart : Completes (fun d' => id = d.layers.length ∧ Drafted d d') (liftM (Host.enter .currentPage) : Handler Unit)
      fun _ d' => id = d.layers.length ∧ Drafted d d' := .call (.enter (by decide))
  have hw : Lookup.wanted? (.str ref) = some ref := Lookup.wanted?_str href
  have htext : t.text? "parentId" = some ref := href
  apply Announces.after hstart
  intro _
  rw [htext]
  dsimp only
  have hfound := Completes.call (Host.Completes.parent (P := fun d' => id = d.layers.length ∧ Drafted d d') hw)
  apply Announces.after hfound
  intro found
  apply Announces.intro
  rintro r ⟨-, ⟨-, look, hc⟩, hids, -⟩
  rw [hc.referred hl] at hids
  cases found with
  | none =>
    rw [← hids] at hlength
    exact absurd hlength (by simp)
  | some found =>
    have hids : found.ids = d.referred ref := hids
    dsimp only
    rw [hids]
    simp only [if_pos hlength]
    exact .before fun _ => .before fun _ => Announces.emit.bind fun _ => .pure fun _ he => he

theorem creator_announces (hc : op.spec.category = .create) :
    Speaks (fun _ => True) (fun _ => True) (fun h => Fair h ∧ h.document = d) (handle op t)
      fun _ r => .severalParents ref (d.referred ref).length ∈ r.events := by
  have hfinish (id : LayerId) : Announces (fun r => Draft d id r.host) (finish t id) (.severalParents ref (d.referred ref).length) := by
    apply Leads.bind (attach_announces hl href hlength)
    intro created
    split
    · exact .bind (Announces.call _) fun _ => Announces.call _
    · exact .pure fun _ he => he
  exact drafts_draft.creator (fun _ _ => trivial) (fun id => (hfinish id).speaks) hc

end Told

/-- The containers among `parents` that have a new child, which looks like the first new layer. -/
def gained (d d' : Document) (parents : List LayerId) : Set LayerId :=
  {p | p ∈ parents ∧ d.isContainer (.layer p) ∧ ∃ x ∈ d'.childrenOf (.layer p), d.layers.length ≤ x ∧
    (d'.layer? x).map (·.look) = (d'.layer? d.layers.length).map (·.look)}

/-- The layers among `parents` that can hold nothing. -/
def unfit (d : Document) (parents : List LayerId) : Set LayerId :=
  {p | p ∈ parents ∧ ¬d.isContainer (.layer p)}

theorem gained_eq {parents : List LayerId} {look : Look} (hc : d.Creates d' parents look) :
    gained d d' parents = {p | p ∈ parents.filter fun p => d.isContainer (.layer p)} := by
  have hlook (k : Nat) (hk : k < parents.length) : (d'.layer? (d.layers.length + k)).map (·.look) = some look := by
    have hhome : k < (d.homes parents).length := by
      rw [length_homes]
      omega
    rw [hc.new k hhome]
    rfl
  ext p
  rw [Set.mem_ofPred_eq, List.mem_filter]
  constructor
  · exact fun hp => ⟨hp.1, hp.2.1⟩
  · rintro ⟨hmem, hp⟩
    obtain ⟨k, hk, rfl⟩ := List.mem_iff_getElem.1 hmem
    have hchild : d.layers.length + k ∈ d'.childrenOf (.layer parents[k]) := by
      rw [hc.inside k hk hp]
      exact List.mem_append_right _ List.mem_cons_self
    have hfirst := hlook 0 (Nat.zero_lt_of_lt hk)
    exact ⟨hmem, hp, d.layers.length + k, hchild, Nat.le_add_right _ _, (hlook k hk).trans hfirst.symm⟩

theorem unfit_eq (d : Document) (parents : List LayerId) :
    unfit d parents = {p | p ∈ parents.filter fun p => !d.isContainer (.layer p)} := by
  ext p
  simp [unfit]

/-- Every parent that was found has gained a copy or is unfit. -/
theorem length_parents {parents : List LayerId} {look : Look} (hc : d.Creates d' parents look) (hn : parents.Nodup) :
    parents.length = (gained d d' parents).ncard + (unfit d parents).ncard := by
  rw [gained_eq hc, unfit_eq, ncard_mem (hn.filter _), ncard_mem (hn.filter _)]
  exact List.length_eq_length_filter_add _

theorem ncard_unfit_eq_zero_iff {parents : List LayerId} (hn : parents.Nodup) :
    (unfit d parents).ncard = 0 ↔ ∀ p ∈ parents, d.isContainer (.layer p) := by
  rw [unfit_eq, ncard_mem (hn.filter _), List.length_eq_zero_iff, List.filter_eq_nil_iff]
  simp

/-! ### Selected layers -/

/-- Where several layers were selected, their number is told, and each of them was selected once. -/
def SelectionCounted (r : Run) : Prop :=
  ∀ name n, .severalMatches name n ∈ r.events → r.host.document.selection.Nodup ∧ n = r.host.document.selection.length

theorem selectionCounted_of_none {r : Run} (hr : ∀ e ∈ r.events, ¬e.counts) : SelectionCounted r :=
  fun _ _ hmem => absurd trivial (hr _ hmem)

theorem Says.selectionCounted {α : Type} {m : Handler α} {E P : Host → Prop} {Q : α → Host → Prop}
    (hm : Says (fun e => ¬e.counts) E P m Q) : Speaks (fun e => ¬e.counts) E P m fun _ => SelectionCounted :=
  Leads.mono hm (fun _ hp => hp) (fun _ _ hq => selectionCounted_of_none hq.2) fun _ _ he => he

theorem focus_selects (ids : List LayerId) :
    Says V (fun _ => True) (fun _ => True) (focus ids) fun _ h => h.document.selection = ids.map .layer := by
  have hset : Turns (fun _ => True) (fun _ => True) (Host.setSelection (ids.map .layer)) fun _ d =>
      d.selection = ids.map .layer := .setSelection (fun _ _ => trivial) fun _ _ => rfl
  have hzoom : Turns (fun _ => True) (fun d => d.selection = ids.map .layer) (Host.zoomTo (ids.map .layer)) fun _ d =>
      d.selection = ids.map .layer := .bind (.enter fun _ _ => trivial) fun _ => .edit fun _ h => h
  exact .bind (.call hset) fun _ => .call hzoom

theorem selectByName_counted (name : Json) :
    Speaks (fun e => ¬e.counts) (fun _ => True) (fun h => h.document.all.Nodup) (selectByName name) fun _ => SelectionCounted := by
  have hfound : Turns (fun _ => True) (fun d => d.all.Nodup) (Lookup.byName name) fun ids _ => ids.Nodup :=
    (Turns.byName fun _ _ => trivial).mono (fun _ h => h) fun _ _ h => h.2.2 h.1
  apply Speaks.bind (.call hfound)
  intro ids
  split
  · exact (Says.emit not_false).selectionCounted
  · rintro r ⟨hn, hv⟩
    apply Speaks.bind (focus_selects ids) _ r ⟨trivial, hv⟩
    intro _
    split
    · rintro r ⟨hselection, hv⟩ name' n hmem
      have hselection : r.host.document.selection = ids.map .layer := hselection
      show r.host.document.selection.Nodup ∧ n = r.host.document.selection.length
      rcases List.mem_append.1 hmem with hmem | hmem
      · exact absurd trivial (hv _ hmem)
      · cases List.mem_singleton.1 hmem
        rw [hselection, List.length_map]
        exact ⟨hn.map fun _ _ he => Node.layer.inj he, rfl⟩
    · exact fun r hr => selectionCounted_of_none hr.2

theorem select_counted :
    Speaks (fun e => ¬e.counts) (fun _ => True) (fun h => h.document.all.Nodup) (select t) fun _ => SelectionCounted := by
  have hfound : Turns (fun _ => True) (fun d => d.all.Nodup) (Lookup.byId t.target) fun _ d => d.all.Nodup :=
    (Turns.byId fun _ _ => trivial).mono (fun _ h => h) fun _ _ h => h.1
  apply Speaks.bind (.call hfound)
  intro found
  split
  · rename_i id
    exact (Says.of_mum fun _ => .focus [id]).selectionCounted
  · exact selectByName_counted _

/-! ### Layers to be grouped -/

/-- Where too few layers are selected to be grouped, their number is told. -/
def ChosenCounted (d : Document) : Event → Prop
  | .groupNeedsTwo n => n = {id | d.Chosen id}.ncard
  | _ => True

theorem group_counted (hs : d.Sound) :
    Says (ChosenCounted d) (fun _ => True) (fun h => h.document = d) (groupSelection t) fun _ _ => True := by
  have hread : Says (ChosenCounted d) (fun _ => True) (fun h => h.document = d) (liftM Host.getSelection)
      fun ids _ => ids.length = {id | d.Chosen id}.ncard := by
    have hselected : Turns (fun _ => True) (fun d' => d' = d) Host.getSelection fun ids _ =>
        ids.length = {id | d.Chosen id}.ncard := by
      apply Turns.getSelection fun _ _ => trivial
      rintro _ ids rfl hids
      obtain ⟨ids', hids', hn, -⟩ := hs.liveSelection
      cases hids.symm.trans hids'
      rw [← ncard_mem hn]
      congr 1
      ext id
      exact mem_liveSelection hids
    exact .call hselected
  apply hread.bind
  intro ids
  split
  · exact .of_mum fun _ => .groupUnder _ _
  · apply Says.intro
    intro h hlength
    exact .mono (.emit hlength) (fun _ h => h) fun _ _ _ => trivial

/-! ### Actions -/

theorem not_counts_of_failure (he : e.code ∈ failureCodes) : ¬e.counts := by
  cases e <;> first | exact not_false | exact absurd he (by simp [Event.code, failureCodes])

section Ends

variable {α : Type} {m : Handler α} {E P : Host → Prop} {Q : α → Host → Prop}

/-- What holds at the end of a handler, and wherever it ends early because of what was said. -/
theorem Speaks.holds {R : Run → Prop} (hm : Speaks V E P m fun _ => R) (hearly : ∀ r, (∀ e ∈ r.events, V e) → R r) (hp : P h) :
    R (m.run ⟨h, []⟩).2 := by
  have hend := hm ⟨h, []⟩ ⟨hp, by simp⟩
  rcases hrun : m.run ⟨h, []⟩ with ⟨halt | b, r⟩ <;> rw [hrun] at hend
  · exact hearly r hend.2
  · exact hend

theorem Says.told (hm : Says V E P m Q) (hp : P h) (he : e ∈ (m.run ⟨h, []⟩).2.events) : V e := by
  have hsaid : Speaks V E P m fun _ r => ∀ e ∈ r.events, V e := Leads.mono hm (fun _ h => h) (fun _ _ h => h.2) fun _ _ h => h
  exact hsaid.holds (fun _ hr => hr) hp e he

end Ends

/-- A count is told by the handler of an operation that may tell it. -/
theorem told_by_handler (he : e ∈ (perform options a h).2.1) (hc : e.counts) :
    ∃ op, opOf? a = some op ∧ op.mayCount e ∧ e ∈ ((handle op (taskOf options a)).run ⟨h, []⟩).2.events := by
  obtain ⟨-, happly⟩ | ⟨-, -, happly⟩ | ⟨op, hop, ho, happly⟩ := apply_cases options a <;> rw [perform_eq, happly] at he
  · rw [List.mem_singleton.1 he] at hc
    exact hc.elim
  · rw [List.mem_singleton.1 he] at hc
    exact hc.elim
  · have hhandler : e ∈ ((handle op (taskOf options a)).run ⟨h, []⟩).2.events := by
      rcases List.mem_append.1 he with he | he
      · exact he
      · obtain hout | ⟨e', hout, hcode⟩ := outcomeOf_handle options a op ⟨h, []⟩
        · rw [hout] at he
          cases he
        · rw [hout] at he
          cases List.mem_singleton.1 he
          exact absurd hc (not_counts_of_failure hcode)
    exact ⟨op, by rw [opOf?, if_pos ho, hop], (handle_speaks (P := fun _ => True) op _).told trivial hhandler, hhandler⟩

/-- Where no call fails, what a creating action makes is hung as the arguments say. -/
theorem creates_of_creator (hs : h.document.Sound) (hq : h.faults = Faults.none) (ha : opOf? a = some op)
    (hc : op.spec.category = .create) (options : ExecutionOptions) :
    ∃ look, h.document.Creates (perform options a h).2.2.document (h.document.parentsOf a.args) look := by
  obtain ⟨look, -, hm⟩ := handle_attached hs hq hc (taskOf options a)
  have hrun := hm ⟨h, []⟩ rfl
  have hsound : (perform options a h).2.2.document.Sound := (perform_sound options a hs).1
  rw [perform_eq, apply_of_opOf? ha] at hsound ⊢
  rcases he : (handle op (taskOf options a)).run ⟨h, []⟩ with ⟨halt | u, r⟩ <;> rw [he] at hrun hsound
  · exact hrun.elim
  · obtain ⟨-, d₁, h₁, h'⟩ := hrun
    have hknown : ∀ p ∈ h.document.parentsOf a.args, h.document.OnPage p := fun p hp => (mem_all hs.linked).1 (mem_parentsOf hp)
    exact ⟨look, creates h₁ h' hs.linked hsound.linked hknown (nodup_parentsOf hs.linked _)⟩

/-- Where several parents are found, the user is told how many. -/
theorem several_told (hs : h.document.Sound) (hq : h.faults = Faults.none) (ha : opOf? a = some op)
    (hc : op.spec.category = .create) (href : Lookup.wanted? (a.args.value "parentId") = some ref)
    (hlength : 1 < (h.document.referred ref).length) (options : ExecutionOptions) :
    .severalParents ref (h.document.referred ref).length ∈ (perform options a h).2.1 := by
  obtain ⟨look, -, hm⟩ := handle_attached hs hq hc (taskOf options a)
  have hrun := hm ⟨h, []⟩ rfl
  have hannounces := creator_announces (t := taskOf options a) hs.linked href hlength hc ⟨h, []⟩ ⟨⟨fair_of_none hq, rfl⟩, by simp⟩
  rw [perform_eq, apply_of_opOf? ha]
  apply List.mem_append_left
  rcases he : (handle op (taskOf options a)).run ⟨h, []⟩ with ⟨halt | u, r⟩ <;> rw [he] at hrun hannounces
  · exact hrun.elim
  · exact hannounces

/-- The counts that the user is told of in an action that leads from `d` to `d'`. -/
structure Counted (d d' : Document) (args : Fields) (events : List Event) : Prop where
  parents : ∀ ref n, .severalParents ref n ∈ events →
    n = (gained d d' (d.parentsOf args)).ncard + (unfit d (d.parentsOf args)).ncard
  fit : ∀ ref n, .severalParents ref n ∈ events →
    (n = (gained d d' (d.parentsOf args)).ncard ↔ ∀ p ∈ d.parentsOf args, d.isContainer (.layer p))
  selected : ∀ name n, .severalMatches name n ∈ events → n = {node | node ∈ d'.selection}.ncard
  chosen : ∀ n, .groupNeedsTwo n ∈ events → n = {id | d.Chosen id}.ncard

/-- Where no call fails, layers that are selected or to be grouped are counted rightly. The parents that are counted are those that
have gained a copy and those that can hold nothing, so that their count is right if and only if each of them is a container. -/
theorem counts_exact (hr : Reachable h) (hq : h.faults = Faults.none) (options : ExecutionOptions) (a : Action) :
    Counted h.document (perform options a h).2.2.document a.args (perform options a h).2.1 := by
  have hs : h.document.Sound := hr.sound
  have hparents : ∀ ref n, .severalParents ref n ∈ (perform options a h).2.1 →
      n = (gained h.document (perform options a h).2.2.document (h.document.parentsOf a.args)).ncard +
        (unfit h.document (h.document.parentsOf a.args)).ncard := by
    intro ref n he
    obtain ⟨op, ha, hc, he⟩ := told_by_handler he trivial
    obtain ⟨look, hcreates⟩ := creates_of_creator hs hq ha hc options
    rw [← length_parents hcreates (nodup_parentsOf hs.linked _)]
    exact (creator_counted (t := taskOf options a) hs.linked hc).told ⟨fair_of_none hq, rfl⟩ he
  constructor
  · exact hparents
  · intro ref n he
    rw [← ncard_unfit_eq_zero_iff (nodup_parentsOf hs.linked _)]
    have hn := hparents ref n he
    omega
  · intro name n he
    obtain ⟨op, ha, hop, he⟩ := told_by_handler he trivial
    cases hop
    have hcounted : SelectionCounted ((handle .select (taskOf options a)).run ⟨h, []⟩).2 :=
      select_counted.holds (fun _ => selectionCounted_of_none) (nodup_all hs.linked)
    obtain ⟨hn, hlength⟩ := hcounted name n he
    rw [perform_eq, apply_of_opOf? ha, hlength]
    exact (ncard_mem hn).symm
  · intro n he
    obtain ⟨op, -, hop, he⟩ := told_by_handler he trivial
    cases hop
    exact (group_counted (t := taskOf options a) hs).told rfl he

/-- A circle without extent is counted in two parents, of which one, a rectangle, cannot hold it. -/
theorem shelf_miscounted :
    let a : Action := ⟨"create_circle", [("parentId", .str "a"), ("radius", .num 0)], .null⟩
    .severalParents "a" 2 ∈ (perform {} a shelf).2.1 ∧
      (gained shelf.document (perform {} a shelf).2.2.document [0, 1]).ncard = 1 ∧ (unfit shelf.document [0, 1]).ncard = 1 := by
  intro a
  have hreaches : Reaches (fun _ _ => True) {} shelf := runActions_reaches {} _ {}
  have hr : Reachable shelf := ⟨{}, ⟨"Page 1", false, rfl⟩, hreaches⟩
  have hq : shelf.faults = Faults.none := hreaches.rel Host.stepwise_faults
  have ha : opOf? a = some .createCircle := by decide +kernel
  have hparents : shelf.document.parentsOf a.args = [0, 1] := parentsOf_shelf
  have hreferred : shelf.document.referred "a" = [0, 1] := hparents
  have htold : .severalParents "a" 2 ∈ (perform {} a shelf).2.1 := by
    have hw : Lookup.wanted? (a.args.value "parentId") = some "a" := by decide +kernel
    have hseveral := several_told hr.sound hq ha rfl hw (by rw [hreferred]; decide) {}
    rw [hreferred] at hseveral
    exact hseveral
  have hunfit : (unfit shelf.document [0, 1]).ncard = 1 := by
    have hn : [0, 1].Nodup := by decide
    rw [unfit_eq, ncard_mem (hn.filter _)]
    decide +kernel
  have hcount := (counts_exact hr hq {} a).parents "a" 2 htold
  rw [hparents, hunfit] at hcount
  exact ⟨htold, Nat.succ.inj hcount.symm, hunfit⟩

end Easel.Execution
