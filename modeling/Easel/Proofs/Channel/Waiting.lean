import Easel.Proofs.Channel.Reference

/-!
What is counted in a queue. Beside the commands that can be delivered there are some that have expired since anybody looked at
the queue; only who looks takes them out. So a queue holds what was posted and neither taken nor dropped, less what had expired
when it was looked at.
-/

namespace Easel.Channel

theorem mem_takeWhile_of_pairwise {α : Type} {expired : α → Bool} {l : List α} {a : α}
    (hl : l.Pairwise fun x y => expired y → expired x) (ha : a ∈ l) (hx : expired a) : a ∈ l.takeWhile expired := by
  rw [← l.takeWhile_append_dropWhile (p := expired)] at ha
  rcases List.mem_append.1 ha with ha | ha
  · exact ha
  -- Nothing that has expired stands behind what has not.
  have hhead := List.head?_dropWhile_not expired l
  have hsorted := hl.sublist (List.dropWhile_suffix expired).sublist
  cases hd : l.dropWhile expired with
  | nil => rw [hd] at ha; cases ha
  | cons x rest =>
    rw [hd] at ha hhead hsorted
    have hxx : expired x = true := by
      rcases List.mem_cons.1 ha with rfl | ha
      · exact hx
      · exact (List.pairwise_cons.1 hsorted).1 a ha hx
    exact absurd hxx (Bool.eq_false_iff.1 hhead)

theorem outside_append {τ : Type} (out lost more : List (Command τ)) (a : Command τ) :
    outside out (lost ++ more) a = (outside out lost a && outside [] more a) := by
  simp [outside, Bool.and_assoc]

namespace Tracks

variable {τ : Type} {expiredNow : Command τ → Bool} {all out lost lost' queue before : List (Command τ)}

/-- If nothing is excused for having expired, the queue is all that is left. -/
theorem filter_eq (h : Tracks (fun _ => false) all out lost queue before) (ho : all.Pairwise (·.number < ·.number)) :
    all.filter (outside out lost) = queue := by
  rw [h.split, List.pairwise_append] at ho
  have hbefore : before.filter (outside out lost) = [] := by
    refine List.filter_eq_nil_iff.2 fun a ha hu => ?_
    obtain ⟨hout, hlost⟩ := not_mem_of_outside hu
    rcases h.accounted a ha with hr | hr | hr
    · exact hout hr
    · exact hlost hr
    · cases hr
  have hqueue : queue.filter (outside out lost) = queue := by
    refine List.filter_eq_self.2 fun a ha => ?_
    have hne : ∀ b ∈ before, b.number ≠ a.number := fun b hb => (ho.2.2 b hb a ha).ne
    have hout : out.all (·.number ≠ a.number) := by simpa using fun b hb => hne b (h.sublist.subset hb)
    have hlost : lost.all (·.number ≠ a.number) := by simpa using fun b hb => hne b (h.lost_mem b hb)
    rw [outside, hout, hlost]
    rfl
  rw [h.split, List.filter_append, hbefore, hqueue, List.nil_append]

/-- Whoever looks loses all that has expired. -/
theorem look (h : Tracks (fun _ => false) all out lost queue before)
    (hl : queue.Pairwise fun x y => expiredNow y → expiredNow x)
    (hlost : ∀ a, a ∈ lost' ↔ a ∈ lost ∨ (a ∈ all ∧ expiredNow a)) :
    Tracks (fun _ => false) all out lost' (queue.dropWhile expiredNow) (before ++ queue.takeWhile expiredNow) where
  split := by rw [List.append_assoc, List.takeWhile_append_dropWhile, h.split]
  sublist := h.sublist.trans (List.sublist_append_left _ _)
  lost_mem a ha := by
    rcases (hlost a).1 ha with ha | ⟨ha, hx⟩
    · exact List.mem_append_left _ (h.lost_mem a ha)
    · rw [h.split] at ha
      rcases List.mem_append.1 ha with ha | ha
      · exact List.mem_append_left _ ha
      · exact List.mem_append_right _ (mem_takeWhile_of_pairwise hl ha hx)
  accounted a ha := by
    rcases List.mem_append.1 ha with ha | ha
    · exact (h.accounted a ha).imp_right fun h => h.imp_left fun h => (hlost a).2 (.inl h)
    · have hq := (List.takeWhile_prefix expiredNow).subset ha
      exact .inr (.inl ((hlost a).2 (.inr ⟨h.mem hq, List.mem_takeWhile_imp ha⟩)))

end Tracks

section Definitions

variable {τ : Type} [Sub τ] [LT τ] [DecidableLT τ]

/-- All commands for a plugin that had expired when somebody looked, whether they still waited or not. -/
def evicted (c₀ : Channel τ) (p : String) : Past τ → List (Command τ)
  | [] => []
  | (now, call) :: past =>
    (if looksAt p call then (own p (postings c₀ past)).filter (c₀.isExpired now ·) else []) ++ evicted c₀ p past

/-- A command of a plugin that no pop returned and no clear dropped, and that has expired since anybody looked. -/
def lingering (c₀ : Channel τ) (past : Past τ) (now : τ) (p : String) (a : Command τ) : Bool :=
  a.plugin = p && outside (returned c₀ past) (dropped c₀ past) a && c₀.isExpired now a && outside [] (evicted c₀ p past) a

end Definitions

variable {τ : Type} [AddCommGroup τ] [LinearOrder τ] {c c₀ : Channel τ} {now later : τ} {call : Call} {past : Past τ}
  {p : String} {a : Command τ}

theorem evicted_mem (h : a ∈ evicted c₀ p past) : a ∈ own p (postings c₀ past) := by
  induction past with
  | nil => cases h
  | cons e past ih =>
    obtain ⟨now, call⟩ := e
    have hold {b : Command τ} (hb : b ∈ own p (postings c₀ past)) : b ∈ own p (postings c₀ ((now, call) :: past)) := by
      rw [postings, own_append]
      exact List.mem_append_left _ hb
    rw [evicted] at h
    rcases List.mem_append.1 h with h | h
    · split at h
      · exact hold (List.mem_of_mem_filter h)
      · cases h
    · exact hold (ih h)

theorem createdAt_of_made (h : c.made now call = some a) : a.createdAt = now := by
  cases call with
  | post q transcript actions =>
    rcases post_cases c now q transcript actions with ⟨b, hb, hm⟩ | ⟨-, hm⟩ <;> rw [hm] at h <;> cases h
    rw [(of_post hb).1]
  | _ => cases h

/-- Commands are as old as their place among all tells. -/
theorem postings_aged (h : past.Timely later) :
    (postings c₀ past).Pairwise (·.createdAt ≤ ·.createdAt) ∧ ∀ a ∈ postings c₀ past, a.createdAt ≤ later := by
  induction past generalizing later with
  | nil => exact ⟨.nil, fun a ha => by cases ha⟩
  | cons e past ih =>
    obtain ⟨now, call⟩ := e
    obtain ⟨hsorted, hold⟩ := ih h.before
    rw [postings]
    cases hm : (after c₀ past).made now call with
    | none =>
      rw [Option.toList_none, List.append_nil]
      exact ⟨hsorted, fun a ha => (hold a ha).trans h.le⟩
    | some a =>
      have ha := createdAt_of_made hm
      rw [Option.toList_some, List.pairwise_append]
      refine ⟨⟨hsorted, List.pairwise_singleton .., fun b hb x hx => ?_⟩, fun b hb => ?_⟩
      · rw [List.mem_singleton.1 hx, ha]
        exact hold b hb
      · rcases List.mem_append.1 hb with hb | hb
        · exact (hold b hb).trans h.le
        · rw [List.mem_singleton.1 hb, ha]
          exact h.le

/-- Nothing lingers when somebody has just looked. -/
theorem lingering_looked (hl : looksAt p call = true) (ha : a ∈ postings c₀ ((now, call) :: past)) :
    lingering c₀ ((now, call) :: past) now p a = false := by
  have hm : (after c₀ past).made now call = none := by cases call <;> first | rfl | cases hl
  rw [postings, hm, Option.toList_none, List.append_nil] at ha
  rw [lingering, evicted, hl, if_pos rfl, outside_append]
  by_cases hx : c₀.isExpired now a ∧ a.plugin = p
  · have hmem : a ∈ (own p (postings c₀ past)).filter (c₀.isExpired now ·) :=
      List.mem_filter.2 ⟨List.mem_filter.2 ⟨ha, decide_eq_true hx.2⟩, hx.1⟩
    have hinside : outside [] ((own p (postings c₀ past)).filter (c₀.isExpired now ·)) a = false :=
      Bool.eq_false_iff.2 fun h => (not_mem_of_outside h).2 hmem
    rw [hinside, Bool.false_and, Bool.and_false]
  · rcases not_and_or.1 hx with hx | hap
    · rw [Bool.eq_false_iff.2 hx, Bool.and_false, Bool.false_and]
    · rw [decide_eq_false hap, Bool.false_and, Bool.false_and, Bool.false_and]

section Exact

variable [IsOrderedAddMonoid τ]

/-- What does not wait any more was taken, dropped, or seen when it had expired. -/
theorem exists_tracks_evicted (hp : c₀.pending = []) (h : past.Timely later) (p : String) :
    ∃ before, Tracks (fun _ => false) (own p (postings c₀ past)) (own p (returned c₀ past))
      (own p (dropped c₀ past) ++ evicted c₀ p past) ((after c₀ past).queue p) before := by
  induction past generalizing later with
  | nil =>
    have hq : c₀.queue p = [] := by
      unfold queue
      rw [hp]
      rfl
    exact ⟨[], hq.symm, .slnil, fun a ha => ha, fun a ha => by cases ha⟩
  | cons e past ih =>
    obtain ⟨now, call⟩ := e
    have hown : ∀ q, ∀ a ∈ (after c₀ past).queue q, a.plugin = q := by
      intro q a ha
      obtain ⟨before, hb⟩ := exists_tracks hp h.before q
      exact of_decide_eq_true (List.mem_filter.mp (hb.mem ha)).2
    obtain ⟨before, hb⟩ := ih h.before
    have hsorted : ((after c₀ past).queue p).Pairwise fun x y => c₀.isExpired now y → c₀.isExpired now x := by
      have hsub : ((after c₀ past).queue p).Sublist (postings c₀ past) := by
        have hq : ((after c₀ past).queue p).Sublist (own p (postings c₀ past)) := hb.split ▸ List.sublist_append_right ..
        exact hq.trans List.filter_sublist
      refine ((postings_aged h.before).1.sublist hsub).imp fun hle hy => ?_
      exact decide_eq_true (hle.trans_lt (of_decide_eq_true hy))
    have hexpired : (after c₀ past).isExpired now = c₀.isExpired now := isExpired_congr (ttl_after c₀ past)
    have hlost (a : Command τ) : a ∈ own p (dropped c₀ past) ++ ((own p (postings c₀ past)).filter (c₀.isExpired now ·) ++
        evicted c₀ p past) ↔ a ∈ own p (dropped c₀ past) ++ evicted c₀ p past ∨
          (a ∈ own p (postings c₀ past) ∧ c₀.isExpired now a) := by
      simp only [List.mem_append, List.mem_filter]
      tauto
    rw [postings, returned, after, evicted, own_append, own_append]
    by_cases hc : call = .clear p
    · subst hc
      have hq : ((after c₀ past).step now (.clear p)).queue p = [] := (queue_setQueue p [] p).trans (if_pos rfl)
      have hm : own p ((after c₀ past).made now (.clear p)).toList = [] := rfl
      have ht : own p ((after c₀ past).taken now (.clear p)).toList = [] := rfl
      rw [own_dropped_clear, hq, hm, ht, List.append_nil, List.append_nil, List.append_assoc]
      exact ⟨_, hb.clear⟩
    rw [own_dropped hc]
    by_cases hl : looksAt p call = false
    · obtain ⟨ht, hq⟩ := step_unseen hown hl hc now
      rw [ht, hq, hl, List.append_nil]
      exact ⟨_, hb.post _⟩
    rw [Bool.not_eq_false] at hl
    rw [hl, if_pos rfl]
    have hlook := hb.look hsorted hlost
    rw [← hexpired] at hlook
    obtain ⟨hm, ⟨ht, hq⟩ | ⟨ht, hq⟩⟩ := step_seen hown hl now
    · rw [hm, ht, hq, List.append_nil, List.append_nil, ← hexpired]
      exact ⟨_, hlook⟩
    · rw [hm, ht, hq, List.append_nil, ← hexpired]
      exact ⟨_, hlook.pop⟩

/-- A queue holds what was posted, but for what was taken or dropped and what had expired when somebody looked. -/
theorem queue_eq (hp : c₀.pending = []) (h : past.Timely later) (p : String) : (after c₀ past).queue p =
    (own p (postings c₀ past)).filter
      (outside (own p (returned c₀ past)) (own p (dropped c₀ past) ++ evicted c₀ p past)) := by
  obtain ⟨before, ht⟩ := exists_tracks_evicted hp h p
  exact (ht.filter_eq ((postings_numbered c₀ past).1.filter _)).symm

theorem isExpired_of_evicted (h : past.Timely now) (ha : a ∈ evicted c₀ p past) : c₀.isExpired now a := by
  induction past generalizing now with
  | nil => cases ha
  | cons e past ih =>
    rw [evicted] at ha
    rcases List.mem_append.1 ha with ha | ha
    · split at ha
      · exact isExpired_of_le h.le (List.mem_filter.1 ha).2
      · cases ha
    · exact isExpired_of_le h.le (ih h.before ha)

/-- What has not expired yet was never seen expired. -/
theorem outside_evicted (h : past.Timely now) (ha : a ∈ postings c₀ past) (hx : c₀.isExpired now a = false) :
    outside [] (evicted c₀ p past) a = true := by
  simp only [outside, List.all_nil, Bool.true_and, List.all_eq_true, decide_eq_true_eq]
  intro b hb hn
  have hba : b = a := eq_of_number (List.mem_of_mem_filter (evicted_mem hb)) ha hn
  exact absurd (isExpired_of_evicted h (hba ▸ hb)) (Bool.eq_false_iff.1 hx)

/-- Of the commands in a queue, those that have not expired can be delivered, and the others linger. -/
theorem pendingCount_eq (hp : c₀.pending = []) (h : past.Timely now) (p : String) : (after c₀ past).pendingCount p =
    (postings c₀ past).countP (deliverable c₀ past now p) + (postings c₀ past).countP (lingering c₀ past now p) := by
  let waits (a : Command τ) : Bool :=
    outside (own p (returned c₀ past)) (own p (dropped c₀ past) ++ evicted c₀ p past) a && decide (a.plugin = p)
  have hwaits (a : Command τ) (ha : a ∈ postings c₀ past) :
      deliverable c₀ past now p a = (waits a && !c₀.isExpired now a) ∧
        lingering c₀ past now p a = (waits a && c₀.isExpired now a) := by
    rw [deliverable_eq hp h ha, lingering]
    simp only [waits]
    rw [outside_append]
    by_cases hap : a.plugin = p
    · have houtside := outside_own (fun b hb => returned_mem hp h hb) (fun b hb => dropped_mem hp h hb) ha hap
      rw [houtside]
      cases hx : c₀.isExpired now a with
      | true => simp [hap]
      | false => simp [hap, outside_evicted h ha hx]
    · simp [hap]
  have hqueue : (after c₀ past).pendingCount p = (postings c₀ past).countP waits := by
    rw [pendingCount, queue_eq hp h, ← List.countP_eq_length_filter]
    exact List.countP_filter ..
  rw [hqueue, List.countP_eq_countP_filter_add _ waits fun a => !c₀.isExpired now a, List.countP_filter, List.countP_filter]
  congr 1
  · exact List.countP_congr fun a ha => by rw [(hwaits a ha).1]
  · exact List.countP_congr fun a ha => by rw [(hwaits a ha).2]; simp

end Exact

end Easel.Channel
