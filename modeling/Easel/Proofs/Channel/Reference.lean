import Easel.Proofs.Channel.History
import Mathlib

/-!
The channel and its reference, which remembers all that happened: whoever asks for the oldest command gets the first one posted
that nobody took or dropped and that is not too old, and a plugin is connected when its last poll is recent.
-/

namespace Easel.Channel

variable {τ : Type}

theorem mem_touched (past : Past τ) (p : String) : p ∈ touched past ↔ (lastTouch p past).isSome := by
  unfold touched
  rw [List.mem_dedup]
  induction past with
  | nil => simp [lastTouch]
  | cons e past ih =>
    obtain ⟨now, call⟩ := e
    cases call with
    | touch q =>
      by_cases hq : q = p
      · simp [lastTouch, hq]
      · simp [lastTouch, hq, Ne.symm hq, ← ih]
    | _ => simpa [lastTouch] using ih

theorem touched_nodup (past : Past τ) : (touched past).Nodup := List.nodup_dedup _

theorem of_post_heartbeats {c c' : Channel τ} {now : τ} {a : Command τ} {q : String} {transcript actions : Json}
    (h : c.post now q transcript actions = .ok (a, c')) : c'.lastSeen = c.lastSeen ∧ c'.connectionTtl = c.connectionTtl := by
  unfold post at h
  split at h <;> [skip; split at h] <;> simp only [Except.ok.injEq, Prod.mk.injEq, reduceCtorEq] at h
  obtain ⟨-, rfl⟩ := h
  exact ⟨rfl, rfl⟩

theorem lastTouch_evictExpired (p : String) (recent earlier : Past τ) (t : τ) :
    lastTouch p (recent ++ (t, .evictExpired) :: earlier) = lastTouch p (recent ++ earlier) := by
  induction recent with
  | nil => rfl
  | cons e recent ih =>
    obtain ⟨s, call⟩ := e
    cases call with
    | touch q => exact congrArg (fun last => if q = p then some s else last) ih
    | _ => exact ih

theorem touched_evictExpired (recent earlier : Past τ) (t : τ) :
    touched (recent ++ (t, .evictExpired) :: earlier) = touched (recent ++ earlier) := by
  unfold touched
  rw [List.filterMap_append, List.filterMap_append]
  rfl

variable [AddCommGroup τ] [LinearOrder τ] {c c' c₀ : Channel τ} {now later : τ} {call : Call} {past : Past τ}
  {p : String} {a b : Command τ}

theorem eq_of_number (ha : a ∈ postings c₀ past) (hb : b ∈ postings c₀ past) (h : a.number = b.number) : a = b := by
  have ho : ((postings c₀ past).map (·.number)).Nodup :=
    List.pairwise_map.mpr ((postings_numbered c₀ past).1.imp fun h => h.ne)
  exact List.inj_on_of_nodup_map ho ha hb h

/-- Whether a command is outside others that were posted can be told among those for its plugin. -/
theorem outside_own {out lost : List (Command τ)} (ho : ∀ b ∈ out, b ∈ postings c₀ past) (hl : ∀ b ∈ lost, b ∈ postings c₀ past)
    (ha : a ∈ postings c₀ past) (hp : a.plugin = p) : outside (own p out) (own p lost) a = outside out lost a := by
  have hall {commands : List (Command τ)} (hs : ∀ b ∈ commands, b ∈ postings c₀ past) :
      (own p commands).all (·.number ≠ a.number) = commands.all (·.number ≠ a.number) := by
    unfold own
    rw [List.all_filter, Bool.eq_iff_iff, List.all_eq_true, List.all_eq_true]
    refine forall₂_congr fun b hb => ?_
    by_cases hn : b.number = a.number
    · have hba := eq_of_number (hs b hb) ha hn
      simp [hba, hp]
    · simp [hn]
  unfold outside
  rw [hall ho, hall hl]

section Exact

variable [IsOrderedAddMonoid τ]

/-- For each plugin commands come out in the order in which they were posted. -/
theorem own_returned_sublist (hp : c₀.pending = []) (h : past.Timely now) (p : String) :
    (own p (returned c₀ past)).Sublist (own p (postings c₀ past)) := by
  obtain ⟨before, ht⟩ := exists_tracks hp h p
  rw [ht.split]
  exact ht.sublist.trans (List.sublist_append_left ..)

theorem returned_mem (hp : c₀.pending = []) (h : past.Timely now) (ha : a ∈ returned c₀ past) : a ∈ postings c₀ past :=
  mem_of_own (fun p _ hb => (own_returned_sublist hp h p).subset hb) ha

theorem dropped_mem (hp : c₀.pending = []) (h : past.Timely now) (ha : a ∈ dropped c₀ past) : a ∈ postings c₀ past := by
  refine mem_of_own (fun p b hb => ?_) ha
  obtain ⟨before, ht⟩ := exists_tracks hp h p
  rw [ht.split]
  exact List.mem_append_left _ (ht.lost_mem b hb)

theorem deliverable_eq (hp : c₀.pending = []) (h : past.Timely now) (ha : a ∈ postings c₀ past) (p : String) :
    deliverable c₀ past now p a =
      (decide (a.plugin = p) && (outside (own p (returned c₀ past)) (own p (dropped c₀ past)) a && !c₀.isExpired now a)) := by
  unfold deliverable
  by_cases hap : a.plugin = p
  · rw [outside_own (fun b hb => returned_mem hp h hb) (fun b hb => dropped_mem hp h hb) ha hap, not_isExpired, Bool.and_assoc]
  · simp [hap]

/-- The channel and its reference have the same command next. -/
theorem next_eq (hp : c₀.pending = []) (h : past.Timely now) (p : String) :
    (((after c₀ past).queue p).dropWhile ((after c₀ past).isExpired now)).head? =
      (postings c₀ past).find? (deliverable c₀ past now p) := by
  obtain ⟨before, ht⟩ := exists_tracks hp h p
  have ho : (own p (postings c₀ past)).Pairwise (·.number < ·.number) := (postings_numbered c₀ past).1.filter _
  rw [isExpired_congr (ttl_after c₀ past), ← ht.find?_eq ho]
  refine (List.find?_filter ..).trans (List.find?_congr fun a ha => ?_)
  rw [deliverable_eq hp h ha, Bool.decide_and, Bool.decide_eq_true, Bool.decide_eq_true]

theorem returned_nodup (hp : c₀.pending = []) (h : past.Timely now) : ((returned c₀ past).map (·.number)).Nodup := by
  refine List.pairwise_map.mpr (List.pairwise_iff_forall_sublist.mpr fun {a b} hs hn => ?_)
  have hab : a = b := eq_of_number (returned_mem hp h (hs.subset (by simp))) (returned_mem hp h (hs.subset (by simp))) hn
  subst hab
  have hown : [a, a].Sublist (own a.plugin (postings c₀ past)) := by
    have ht := (hs.filter fun b : Command τ => decide (b.plugin = a.plugin)).trans (own_returned_sublist hp h a.plugin)
    rwa [List.filter_eq_self.mpr (by simp)] at ht
  have ho := List.pairwise_iff_forall_sublist.mp (postings_numbered c₀ past).1 (hown.trans List.filter_sublist)
  omega

theorem mem_queue_of_deliverable (hp : c₀.pending = []) (h : past.Timely now) (ha : a ∈ postings c₀ past)
    (hd : deliverable c₀ past now p a) : a ∈ (after c₀ past).queue p := by
  obtain ⟨before, ht⟩ := exists_tracks hp h p
  rw [deliverable_eq hp h ha, Bool.and_eq_true, Bool.and_eq_true, decide_eq_true_eq, Bool.not_eq_true'] at hd
  obtain ⟨hap, ho, hx⟩ := hd
  obtain ⟨hr, hl⟩ := not_mem_of_outside ho
  have hall : a ∈ own p (postings c₀ past) := List.mem_filter.mpr ⟨ha, decide_eq_true hap⟩
  rw [ht.split] at hall
  rcases List.mem_append.mp hall with hb | hq
  · rcases ht.accounted a hb with hb | hb | hb
    · exact absurd hb hr
    · exact absurd hb hl
    · exact absurd hb (Bool.eq_false_iff.mp hx)
  · exact hq

end Exact

/-! ### Connections -/

theorem lastSeen_evictAll (c : Channel τ) (now : τ) : (c.evictAll now).lastSeen = c.lastSeen ∧
    (c.evictAll now).connectionTtl = c.connectionTtl := by
  unfold evictAll
  generalize c.pending.map (·.1) = keys
  induction keys generalizing c with
  | nil => exact ⟨rfl, rfl⟩
  | cons k rest ih => exact ih (c.evict now k)

theorem connectionTtl_step (c : Channel τ) (now : τ) (call : Call) : (c.step now call).connectionTtl = c.connectionTtl := by
  cases call with
  | post q transcript actions =>
    rcases post_cases c now q transcript actions with ⟨a, ha, -⟩ | ⟨hs, -⟩
    · exact (of_post_heartbeats ha).2
    · rw [hs]
  | evictExpired => exact (lastSeen_evictAll c now).2
  | _ => rfl

theorem connectionTtl_after (c₀ : Channel τ) (past : Past τ) : (after c₀ past).connectionTtl = c₀.connectionTtl := by
  induction past with
  | nil => rfl
  | cons e past ih => exact (connectionTtl_step _ e.1 e.2).trans ih

/-- Polls are recorded, and stale ones forgotten. -/
theorem lastSeen_step (c : Channel τ) (now : τ) (call : Call) : (c.step now call).lastSeen = match call with
    | .touch q => c.lastSeen.put q now
    | .evictExpired => c.lastSeen.filter fun e => !c.isStale now e.2
    | _ => c.lastSeen := by
  cases call with
  | post q transcript actions =>
    rcases post_cases c now q transcript actions with ⟨a, ha, -⟩ | ⟨hs, -⟩
    · exact (of_post_heartbeats ha).1
    · rw [hs]
  | evictExpired =>
    have hs := lastSeen_evictAll c now
    unfold step evictExpired isStale
    simp only [hs]
  | _ => rfl

theorem distinct_lastSeen_step (h : c.lastSeen.Distinct) (now : τ) (call : Call) : (c.step now call).lastSeen.Distinct := by
  rw [lastSeen_step]
  split
  · exact h.put _ _
  · exact h.filter _
  · exact h

theorem distinct_lastSeen (hs : c₀.lastSeen = []) (past : Past τ) : (after c₀ past).lastSeen.Distinct := by
  induction past with
  | nil =>
    rw [after, hs]
    exact .nil
  | cons e past ih => exact distinct_lastSeen_step ih e.1 e.2

theorem isFresh_congr (h : c'.connectionTtl = c.connectionTtl) : c'.isFresh now = c.isFresh now := by
  unfold isFresh
  rw [h]

theorem isStale_congr (h : c'.connectionTtl = c.connectionTtl) : c'.isStale now = c.isStale now := by
  unfold isStale
  rw [h]

section Exact

variable [IsOrderedAddMonoid τ]

/-- What is fresh later on is not stale now. -/
theorem not_isStale_of_isFresh (hle : now ≤ later) {seen : τ} (h : c.isFresh later seen) : (!c.isStale now seen) = true := by
  have hl : later - seen ≤ c.connectionTtl := of_decide_eq_true h
  have hn : now - seen ≤ later - seen := sub_le_sub_right hle _
  unfold isStale
  simpa using hn.trans hl

/-- A channel knows each last poll as long as it counts. -/
theorem fresh_lastSeen (hs : c₀.lastSeen = []) (h : past.Timely later) (p : String) :
    ((after c₀ past).lastSeen.lookup p).filter (c₀.isFresh later) = (lastTouch p past).filter (c₀.isFresh later) := by
  induction past with
  | nil =>
    rw [after, hs]
    rfl
  | cons e past ih =>
    obtain ⟨now, call⟩ := e
    have ih := ih (h.sublist (List.sublist_cons_self _ _))
    rw [after, lastSeen_step]
    cases call with
    | touch q =>
      by_cases hq : q = p
      · simp [lastTouch, Keyed.lookup_put, hq]
      · simpa [lastTouch, Keyed.lookup_put, hq, Ne.symm hq] using ih
    | evictExpired =>
      dsimp only
      have hl := Keyed.lookup_filter (distinct_lastSeen hs past) (fun seen => !(after c₀ past).isStale now seen) p
      refine Eq.trans ?_ ih
      rw [hl]
      cases (after c₀ past).lastSeen.lookup p with
      | none => rfl
      | some seen =>
        by_cases hf : c₀.isFresh later seen
        · have hstale := not_isStale_of_isFresh h.le hf
          rw [← isStale_congr (connectionTtl_after c₀ past)] at hstale
          rw [Option.filter_some, if_pos hstale]
        · rw [Option.filter_some, Option.filter_some, if_neg hf]
          split
          · rw [Option.filter_some, if_neg hf]
          · rfl
    | _ => exact ih

theorem isConnected_eq (hs : c₀.lastSeen = []) (h : past.Timely now) (p : String) :
    (after c₀ past).isConnected now p = (lastTouch p past).any (c₀.isFresh now) := by
  have hf := congrArg Option.isSome (fresh_lastSeen hs h p)
  rw [Option.isSome_filter, Option.isSome_filter] at hf
  unfold isConnected
  rw [isFresh_congr (connectionTtl_after c₀ past), hf]

theorem connectedCount_eq (hs : c₀.lastSeen = []) (h : past.Timely now) :
    (after c₀ past).connectedCount now = (touched past).countP fun p => (lastTouch p past).any (c₀.isFresh now) := by
  have hd := distinct_lastSeen hs past
  set seen := (after c₀ past).lastSeen.filter fun e => c₀.isFresh now e.2 with hseen
  have hn : (seen.map (·.1)).Nodup := hd.filter _
  have hp : (seen.map (·.1)).Perm ((touched past).filter fun p => (lastTouch p past).any (c₀.isFresh now)) := by
    refine (List.perm_ext_iff_of_nodup hn ((touched_nodup past).filter _)).mpr fun p => ?_
    have hk : p ∈ seen.map (·.1) ↔ ∃ t, (lastTouch p past).filter (c₀.isFresh now) = some t := by
      rw [← fresh_lastSeen hs h p, ← Keyed.lookup_filter hd]
      simp only [Keyed.lookup_eq_some_iff (hd.filter _), List.mem_map, Prod.exists, exists_and_right, exists_eq_right, hseen]
    rw [List.mem_filter, mem_touched, hk]
    cases lastTouch p past with
    | none => simp
    | some t => simp [Option.filter_some]
  have hl := hp.length_eq
  rw [List.length_map] at hl
  unfold connectedCount
  rw [isFresh_congr (connectionTtl_after c₀ past), List.countP_eq_length_filter, List.countP_eq_length_filter]
  exact hl

end Exact

/-! ### Plugins on their own -/

theorem queue_step_post (c : Channel τ) (now : τ) (q : String) (transcript actions : Json) (k : String) :
    (c.step now (.post q transcript actions)).queue k =
      if k = q ∧ ¬q.isEmpty ∧ ¬(transcript.isNull && actions.isNull) then
        c.queue k ++ [⟨c.posted + 1, q, transcript, actions, now⟩] else c.queue k := by
  unfold step post
  by_cases he : q.isEmpty
  · simp [he, Except.map, Except.toOption]
  by_cases hn : (transcript.isNull && actions.isNull) = true
  · simp [he, hn, Except.map, Except.toOption]
  · simp only [he, hn, Except.map, Except.toOption]
    refine (queue_setQueue q _ k).trans ?_
    by_cases hk : k = q
    · simp [hk]
    · simp [hk]

/-- Whether a call can say or do something about a plugin. -/
def concerns (p : String) : Call → Bool
  | .post q _ _ | .peek q | .pop q | .clear q | .touch q | .pendingCount q | .isConnected q => q = p
  | .connectedCount => false
  | .evictExpired => true

def about (p : String) (past : Past τ) : Past τ := past.filter fun e => concerns p e.2

/-- All of a command but the number, which tells how many came before it. -/
def unnumbered (a : Command τ) : Command τ := { a with number := 0 }

/-- Two channels that a plugin cannot tell apart. -/
structure Alike (p : String) (c c' : Channel τ) : Prop where
  ttl : c'.ttl = c.ttl
  connectionTtl : c'.connectionTtl = c.connectionTtl
  queue : (c'.queue p).map unnumbered = (c.queue p).map unnumbered
  lastSeen : c'.lastSeen.lookup p = c.lastSeen.lookup p

theorem map_dropWhile_isExpired (commands : List (Command τ)) :
    (commands.dropWhile (c.isExpired now)).map unnumbered = (commands.map unnumbered).dropWhile (c.isExpired now) := by
  rw [List.dropWhile_map]
  rfl

theorem Alike.live (h : Alike p c c') (now : τ) :
    ((c'.queue p).dropWhile (c'.isExpired now)).map unnumbered = ((c.queue p).dropWhile (c.isExpired now)).map unnumbered := by
  rw [map_dropWhile_isExpired, map_dropWhile_isExpired, h.queue, isExpired_congr h.ttl]

theorem Alike.idle (h : Alike p c c') (hc : concerns p call = false) (now : τ) : Alike p (c.step now call) c' := by
  have hne {q : String} (hq : decide (q = p) = false) : ¬p = q := fun h => of_decide_eq_false hq h.symm
  have hqueue : (c.step now call).queue p = c.queue p := by
    cases call with
    | post q transcript actions => rw [queue_step_post, if_neg fun h => hne hc h.1]
    | peek q => exact (queue_evict q p).trans (if_neg (hne hc))
    | pop q => exact (queue_pop q p).trans (if_neg (hne hc))
    | clear q => exact (queue_setQueue q [] p).trans (if_neg (hne hc))
    | evictExpired => cases hc
    | _ => rfl
  have hseen : (c.step now call).lastSeen.lookup p = c.lastSeen.lookup p := by
    rw [lastSeen_step]
    cases call with
    | touch q => exact (Keyed.lookup_put ..).trans (if_neg (hne hc))
    | evictExpired => cases hc
    | _ => rfl
  exact ⟨h.ttl.trans (ttl_step ..).symm, h.connectionTtl.trans (connectionTtl_step ..).symm, by rw [hqueue, h.queue],
    by rw [hseen, h.lastSeen]⟩

theorem Alike.step (h : Alike p c c') (hd : c.lastSeen.Distinct) (hd' : c'.lastSeen.Distinct) (now : τ) (call : Call) :
    Alike p (c.step now call) (c'.step now call) where
  ttl := by rw [ttl_step, ttl_step, h.ttl]
  connectionTtl := by rw [connectionTtl_step, connectionTtl_step, h.connectionTtl]
  queue := by
    have hlive := h.live now
    cases call with
    | post q transcript actions =>
      rw [queue_step_post, queue_step_post]
      split <;> simp [h.queue, unnumbered]
    | peek q =>
      have hq (c : Channel τ) : (c.step now (.peek q)).queue p = _ := queue_evict q p
      rw [hq, hq]
      split
      · rename_i hp
        rw [← hp, hlive]
      · exact h.queue
    | pop q =>
      have hq (c : Channel τ) : (c.step now (.pop q)).queue p = _ := queue_pop q p
      rw [hq, hq]
      split
      · rename_i hp
        rw [← hp, List.map_tail, List.map_tail, hlive]
      · exact h.queue
    | clear q =>
      have hq (c : Channel τ) : (c.step now (.clear q)).queue p = _ := queue_setQueue q [] p
      rw [hq, hq]
      split
      · rfl
      · exact h.queue
    | evictExpired =>
      have hq (c : Channel τ) : (c.step now .evictExpired).queue p = _ := queue_evictExpired p
      rw [hq, hq, hlive]
    | _ => exact h.queue
  lastSeen := by
    rw [lastSeen_step, lastSeen_step]
    cases call with
    | touch q => simp only [Keyed.lookup_put, h.lastSeen]
    | evictExpired =>
      have hl := Keyed.lookup_filter hd (fun seen => !c.isStale now seen) p
      have hl' := Keyed.lookup_filter hd' (fun seen => !c'.isStale now seen) p
      rw [hl, hl', h.lastSeen, isStale_congr h.connectionTtl]
    | _ => exact h.lastSeen

/-- Of what happened a plugin notices only what concerned it. -/
theorem alike_about (hs : c₀.lastSeen = []) (p : String) (past : Past τ) :
    Alike p (after c₀ past) (after c₀ (about p past)) := by
  induction past with
  | nil => exact ⟨rfl, rfl, rfl, rfl⟩
  | cons e past ih =>
    rw [after, about, List.filter_cons]
    cases hc : concerns p e.2 with
    | false => exact ih.idle hc e.1
    | true => exact ih.step (distinct_lastSeen hs past) (distinct_lastSeen hs _) e.1 e.2

/-! ### Housekeeping -/

/-- Two pasts in which the same commands were posted, returned and dropped. -/
structure SameHistory (c₀ : Channel τ) (past past' : Past τ) : Prop where
  posted : (after c₀ past').posted = (after c₀ past).posted
  postings : postings c₀ past' = postings c₀ past
  returned : returned c₀ past' = returned c₀ past
  dropped : dropped c₀ past' = dropped c₀ past

theorem made_step_congr (h : c'.posted = c.posted) (now : τ) (call : Call) :
    c'.made now call = c.made now call ∧ (c'.step now call).posted = (c.step now call).posted := by
  have hm : c'.made now call = c.made now call := by
    cases call with
    | post q transcript actions =>
      unfold made post
      dsimp only
      rw [h]
      split <;> [rfl; split <;> rfl]
    | _ => rfl
  refine ⟨hm, ?_⟩
  cases hc : c.made now call with
  | none => rw [posted_step hc, posted_step (hm.trans hc), h]
  | some a => rw [(of_made hc).2, (of_made (hm.trans hc)).2, h]

namespace SameHistory

variable [IsOrderedAddMonoid τ] {past' : Past τ}

theorem next (h : SameHistory c₀ past past') (hp : c₀.pending = []) (ht : past.Timely now) (ht' : past'.Timely now) (p : String) :
    (((after c₀ past').queue p).dropWhile ((after c₀ past').isExpired now)).head? =
      (((after c₀ past).queue p).dropWhile ((after c₀ past).isExpired now)).head? := by
  have hd : deliverable c₀ past' now p = deliverable c₀ past now p := by
    unfold deliverable
    rw [h.returned, h.dropped]
  rw [next_eq hp ht, next_eq hp ht', h.postings, hd]

theorem cons (h : SameHistory c₀ past past') (hp : c₀.pending = []) (ht : past.Timely now) (ht' : past'.Timely now)
    (call : Call) : SameHistory c₀ ((now, call) :: past) ((now, call) :: past') := by
  obtain ⟨hmade, hposted⟩ := made_step_congr h.posted now call
  have htaken : (after c₀ past').taken now call = (after c₀ past).taken now call := by
    cases call with
    | pop q => rw [taken_pop, taken_pop, h.next hp ht ht']
    | _ => rfl
  refine ⟨hposted, ?_, ?_, ?_⟩
  · rw [Channel.postings, Channel.postings, h.postings, hmade]
  · rw [Channel.returned, Channel.returned, h.returned, htaken]
  · cases call with
    | clear q => rw [Channel.dropped, Channel.dropped, h.postings, h.dropped]
    | _ => exact h.dropped

end SameHistory

variable {recent earlier : Past τ} {t : τ}

/-- That expired commands were dropped, whenever it was, has left no trace in what else happened. -/
theorem sameHistory_evictExpired [IsOrderedAddMonoid τ] (hp : c₀.pending = [])
    (h : Timeline.Timely (recent ++ (t, .evictExpired) :: earlier) now) :
    SameHistory c₀ (recent ++ (t, .evictExpired) :: earlier) (recent ++ earlier) := by
  induction recent generalizing now with
  | nil => exact ⟨(posted_step rfl).symm, (List.append_nil _).symm, (List.append_nil _).symm, rfl⟩
  | cons e recent ih =>
    have hb : Timeline.Timely (recent ++ (t, .evictExpired) :: earlier) e.1 := h.before
    have hs : (recent ++ earlier).Sublist (recent ++ (t, .evictExpired) :: earlier) :=
      (List.Sublist.refl _).append (List.sublist_cons_self _ _)
    exact (ih hb).cons hp hb (hb.sublist hs) e.2

/-! ### The reference -/

/-- How a channel answers that remembers all that happened. -/
structure Remembers (c₀ : Channel τ) (past : Past τ) (now : τ) : Prop where
  numbered : (postings c₀ past).Pairwise (·.number < ·.number)
  peek : ∀ p, ((after c₀ past).peek now p).1 = (postings c₀ past).find? (deliverable c₀ past now p)
  pop : ∀ p, ((after c₀ past).pop now p).1 = (postings c₀ past).find? (deliverable c₀ past now p)
  once : ((returned c₀ past).map (·.number)).Nodup
  ordered : ∀ p, (own p (returned c₀ past)).Sublist (own p (postings c₀ past))
  waiting : ∀ p, ∀ a ∈ postings c₀ past, deliverable c₀ past now p a → a ∈ (after c₀ past).queue p
  isConnected : ∀ p, (after c₀ past).isConnected now p = (lastTouch p past).any fun seen => now - seen ≤ c₀.connectionTtl
  connectedCount : (after c₀ past).connectedCount now =
    (touched past).countP fun p => (lastTouch p past).any fun seen => now - seen ≤ c₀.connectionTtl
  /-- Whatever does not concern a plugin may as well not have happened. -/
  alone : ∀ p,
    let all := after c₀ past
    let alone := after c₀ (about p past)
    (all.peek now p).1.map unnumbered = (alone.peek now p).1.map unnumbered ∧
      (all.pop now p).1.map unnumbered = (alone.pop now p).1.map unnumbered ∧
      all.pendingCount p = alone.pendingCount p ∧ all.isConnected now p = alone.isConnected now p
  /-- No matter when expired commands were dropped, it might as well not have been done. -/
  swept : ∀ recent t earlier, past = recent ++ (t, .evictExpired) :: earlier →
    let swept := after c₀ past
    let unswept := after c₀ (recent ++ earlier)
    (∀ p, (swept.peek now p).1 = (unswept.peek now p).1 ∧ (swept.pop now p).1 = (unswept.pop now p).1 ∧
      swept.isConnected now p = unswept.isConnected now p) ∧ swept.connectedCount now = unswept.connectedCount now

/-- A channel forgets only what cannot matter any more. -/
theorem remembers [IsOrderedAddMonoid τ] (hp : c₀.pending = []) (hs : c₀.lastSeen = []) (h : past.Timely now) :
    Remembers c₀ past now where
  numbered := (postings_numbered c₀ past).1
  peek p := (peek_command p).trans (next_eq hp h p)
  pop p := (taken_pop p).trans (next_eq hp h p)
  once := returned_nodup hp h
  ordered := own_returned_sublist hp h
  waiting p a ha hd := mem_queue_of_deliverable hp h ha hd
  isConnected := isConnected_eq hs h
  connectedCount := connectedCount_eq hs h
  alone p := by
    intro all alone
    have ha : Alike p all alone := alike_about hs p past
    have hnext : ((all.queue p).dropWhile (all.isExpired now)).head?.map unnumbered =
        ((alone.queue p).dropWhile (alone.isExpired now)).head?.map unnumbered := by
      rw [← List.head?_map, ← List.head?_map, ha.live]
    have hcount : all.pendingCount p = alone.pendingCount p := by
      have hl := congrArg List.length ha.queue
      rw [List.length_map, List.length_map] at hl
      exact hl.symm
    refine ⟨?_, ?_, hcount, ?_⟩
    · rw [peek_command, peek_command, hnext]
    · exact (congrArg (Option.map unnumbered) (taken_pop p)).trans
        (hnext.trans (congrArg (Option.map unnumbered) (taken_pop p).symm))
    · unfold Channel.isConnected
      rw [ha.lastSeen, isFresh_congr ha.connectionTtl]
  swept recent t earlier he := by
    intro swept unswept
    subst he
    have hsub : (recent ++ earlier).Sublist (recent ++ (t, .evictExpired) :: earlier) :=
      (List.Sublist.refl _).append (List.sublist_cons_self _ _)
    have hu : Timeline.Timely (recent ++ earlier) now := h.sublist hsub
    have hn (p : String) := (sameHistory_evictExpired hp h).next hp h hu p
    refine ⟨fun p => ⟨?_, ?_, ?_⟩, ?_⟩
    · rw [peek_command, peek_command, hn]
    · exact (taken_pop p).trans ((hn p).symm.trans (taken_pop p).symm)
    · rw [isConnected_eq hs h, isConnected_eq hs hu, lastTouch_evictExpired]
    · rw [connectedCount_eq hs h, connectedCount_eq hs hu, touched_evictExpired]
      simp only [lastTouch_evictExpired]

/-- A command is still there when it is exactly as old as allowed, and a moment later the next one is the oldest. -/
theorem delivered_at_limit :
    let c₀ : Channel Int := { ttl := 60, connectionTtl := 5 }
    let past : Past Int := [(60, .evictExpired), (55, .touch "p"), (9, .post "q" (.str "other") .null),
      (5, .post "p" (.str "two") .null), (0, .post "p" (.str "one") .null)]
    past.Timely 60 ∧ Remembers c₀ past 60 ∧ Remembers c₀ past 61 ∧
      ((after c₀ past).peek 60 "p").1.map (·.number) = some 1 ∧ ((after c₀ past).peek 61 "p").1.map (·.number) = some 2 ∧
      (after c₀ past).connectedCount 60 = 1 ∧ (after c₀ past).connectedCount 61 = 0 := by
  intro c₀ past
  have ht : past.Timely 60 := by unfold Timeline.Timely; decide
  have hl : past.Timely 61 := by unfold Timeline.Timely; decide
  exact ⟨ht, remembers rfl rfl ht, remembers rfl rfl hl, by decide +kernel, by decide +kernel, by decide +kernel, by decide +kernel⟩

end Easel.Channel
