import Easel.Proofs.Timeline
import Easel.Service.Endpoints
import Mathlib

/-!
A rate limiter over time. It keeps less than all that it let through, since it forgets as it goes, but whoever asks cannot
tell: the answers are those of a log in which every accepted request stands for good.
-/

namespace Easel.RateLimiter

variable {l : RateLimiter} {now later span wide : Int} {key client : String} {kept : List Int}

theorem within_within (hn : now ≤ later) (hs : span ≤ wide) :
    within later span (within now wide kept) = within later span kept := by
  unfold within
  rw [List.filter_filter]
  apply List.filter_congr
  intro t _
  apply Bool.eq_iff_iff.mpr
  simp only [Bool.and_eq_true, decide_eq_true_eq]
  omega

theorem within_append (kept more : List Int) :
    within now span (kept ++ more) = within now span kept ++ within now span more :=
  List.filter_append ..

theorem times_put {entries : Keyed (List Int)} (k : String) :
    times ⟨entries.put key kept⟩ k = if k = key then kept else times ⟨entries⟩ k := by
  unfold times
  rw [Keyed.lookup_put]
  split <;> rfl

theorem times_prune (k : String) :
    (l.prune now span key).times k = if k = key then within now span (l.times key) else l.times k :=
  times_put k

theorem times_record (k : String) : (l.record now key).times k = if k = key then l.times key ++ [now] else l.times k :=
  times_put k

theorem distinct_within (h : l.entries.Distinct) (now span : Int) :
    Keyed.Distinct (l.entries.map fun (key, kept) => (key, within now span kept)) := by
  simpa [Keyed.Distinct, Function.comp_def] using h

theorem times_cleanUp (h : l.entries.Distinct) (k : String) :
    (l.cleanUp now span).times k = within now span (l.times k) := by
  have hl := Keyed.lookup_filter (distinct_within h now span) (fun kept => !kept.isEmpty) k
  rw [Keyed.lookup_map] at hl
  unfold times cleanUp
  dsimp only
  rw [hl]
  cases l.entries.lookup k with
  | none => rfl
  | some kept =>
    by_cases he : within now span kept = []
    · simp [Option.filter, he]
    · simp [Option.filter, he]

theorem dayKey_inj {a b : String} : dayKey a = dayKey b ↔ a = b :=
  String.append_right_inj "day:"

theorem minuteKey_inj {a b : String} : minuteKey a = minuteKey b ↔ a = b :=
  String.append_right_inj "minute:"

theorem dayKey_ne_minuteKey (a b : String) : dayKey a ≠ minuteKey b := by
  intro h
  have hc := congrArg String.toList h
  simp [dayKey, minuteKey, String.toList_append] at hc

/-! ### One call -/

/-- What a limiter is called for: to let a request through within limits, or to clean up. -/
inductive Call
  | request (client : String) (perMinute perDay : Int)
  | cleanUp

def step (l : RateLimiter) (now : Int) : Call → RateLimiter
  | .request client perMinute perDay => (l.checkClient now client perMinute perDay).2
  | .cleanUp => l.cleanUp now Service.keepingSpan

/-- Whether a call is a request of a client that is let through. -/
def passes (client : String) (l : RateLimiter) (now : Int) : Call → Bool
  | .request c perMinute perDay => c = client && (l.checkClient now c perMinute perDay).1 = none
  | .cleanUp => false

/-- What a limiter says that counts so many requests within the last day and within the last minute. -/
def verdict (day minute : Nat) (perMinute perDay : Int) : Option Refusal :=
  if perDay ≤ day then some .dayUsedUp else if perMinute ≤ minute then some .tooFast else none

theorem verdict_eq_none {day minute : Nat} {perMinute perDay : Int} (h : verdict day minute perMinute perDay = none) :
    minute < perMinute ∧ day < perDay := by
  unfold verdict at h
  split at h <;> [cases h; split at h <;> [cases h; skip]]
  omega

theorem checkClient_answer (perMinute perDay : Int) :
    (l.checkClient now client perMinute perDay).1 =
      verdict (within now Calendar.day (l.times (dayKey client))).length
        (within now Calendar.minute (l.times (minuteKey client))).length perMinute perDay := by
  have hne : minuteKey client ≠ dayKey client := (dayKey_ne_minuteKey client client).symm
  unfold checkClient verdict
  simp only [times_prune, if_true, if_neg hne]
  split <;> [rfl; split <;> rfl]

theorem distinct_step (h : l.entries.Distinct) (call : Call) : (l.step now call).entries.Distinct := by
  cases call with
  | request client perMinute perDay =>
    unfold step checkClient
    dsimp only
    split <;> [skip; split]
    · exact h.put _ _
    · exact (h.put _ _).put _ _
    · exact (((h.put _ _).put _ _).put _ _).put _ _
  | cleanUp => exact (distinct_within h now Service.keepingSpan).filter _

theorem within_checkClient (hn : now ≤ later) (perMinute perDay : Int) (k : String) :
    let l' := l.step now (.request client perMinute perDay)
    let noted := if passes k l now (.request client perMinute perDay) then [now] else []
    within later Calendar.day (l'.times (dayKey k)) = within later Calendar.day (l.times (dayKey k) ++ noted) ∧
      within later Calendar.minute (l'.times (minuteKey k)) =
        within later Calendar.minute (l.times (minuteKey k) ++ noted) := by
  have hne (a b : String) : minuteKey a ≠ dayKey b := (dayKey_ne_minuteKey b a).symm
  have hsame (span : Int) (kept : List Int) : within later span (within now span kept) = within later span kept :=
    within_within hn (Int.le_refl span)
  unfold step passes checkClient
  by_cases hk : client = k
  · subst hk
    simp only [times_prune, if_true, if_neg (hne _ _)]
    split <;> [skip; split] <;>
      simp [times_prune, times_record, hne, dayKey_ne_minuteKey, hsame, within_append]
  · have hk' : ¬k = client := fun h => hk h.symm
    simp only [times_prune, if_true, if_neg (hne _ _)]
    split <;> [skip; split] <;>
      simp [times_prune, times_record, hne, dayKey_ne_minuteKey, dayKey_inj, minuteKey_inj, hk, hk']

/-- A request that is let through is noted for the day and for the minute, and nothing else changes that can still count. -/
theorem within_step (h : l.entries.Distinct) (hn : now ≤ later) (call : Call) (client : String) :
    let noted := if passes client l now call then [now] else []
    within later Calendar.day ((l.step now call).times (dayKey client)) =
        within later Calendar.day (l.times (dayKey client) ++ noted) ∧
      within later Calendar.minute ((l.step now call).times (minuteKey client)) =
        within later Calendar.minute (l.times (minuteKey client) ++ noted) := by
  cases call with
  | request c perMinute perDay => exact within_checkClient hn perMinute perDay client
  | cleanUp =>
    -- Cleaning up looks back further than either window.
    have hwide : Calendar.day ≤ Service.keepingSpan ∧ Calendar.minute ≤ Service.keepingSpan := by decide
    simp [step, passes, times_cleanUp h, within_within hn hwide.1, within_within hn hwide.2]

/-! ### Runs -/

abbrev Past := Timeline Int Call

def after : Past → RateLimiter
  | [] => {}
  | (now, call) :: past => (after past).step now call

/-- The requests of a client that were let through. -/
def accepted (client : String) : Past → Past
  | [] => []
  | (now, call) :: past =>
    if passes client (after past) now call then (now, call) :: accepted client past else accepted client past

def acceptedTimes (client : String) (past : Past) : List Int := (accepted client past).map (·.1)

variable {past : Past}

theorem accepted_sublist (client : String) (past : Past) : (accepted client past).Sublist past := by
  induction past with
  | nil => exact .slnil
  | cons e past ih =>
    unfold accepted
    split
    · exact ih.cons_cons e
    · exact ih.cons e

theorem acceptedTimes_cons (now : Int) (call : Call) (past : Past) :
    acceptedTimes client ((now, call) :: past) =
      (if passes client (after past) now call then [now] else []) ++ acceptedTimes client past := by
  rw [acceptedTimes, accepted]
  split <;> rfl

theorem distinct_after (past : Past) : (after past).entries.Distinct := by
  induction past with
  | nil => exact .nil
  | cons e past ih => exact distinct_step ih e.2

/-- Of what was let through a limiter still knows all that can count. -/
theorem within_after (h : past.Timely later) (client : String) :
    within later Calendar.day ((after past).times (dayKey client)) =
        within later Calendar.day (acceptedTimes client past).reverse ∧
      within later Calendar.minute ((after past).times (minuteKey client)) =
        within later Calendar.minute (acceptedTimes client past).reverse := by
  induction past with
  | nil => exact ⟨rfl, rfl⟩
  | cons e past ih =>
    obtain ⟨now, call⟩ := e
    have hih := ih (h.sublist (List.sublist_cons_self _ _))
    have hs := within_step (distinct_after past) h.le call client
    have hr : (acceptedTimes client ((now, call) :: past)).reverse =
        (acceptedTimes client past).reverse ++ if passes client (after past) now call then [now] else [] := by
      rw [acceptedTimes_cons, List.reverse_append]
      split <;> rfl
    rw [hr, within_append, within_append, ← hih.1, ← hih.2, ← within_append, ← within_append]
    exact hs

/-- What a log says of a client whose accepted requests it holds. -/
theorem answer_after (h : past.Timely now) (client : String) (perMinute perDay : Int) :
    ((after past).checkClient now client perMinute perDay).1 =
      verdict (within now Calendar.day (acceptedTimes client past)).length
        (within now Calendar.minute (acceptedTimes client past)).length perMinute perDay := by
  have hw := within_after h client
  have hlen (span : Int) (kept : List Int) : (within now span kept.reverse).length = (within now span kept).length := by
    unfold within
    rw [List.filter_reverse, List.length_reverse]
  rw [checkClient_answer, hw.1, hw.2, hlen, hlen]

/-- Had a client's accepted requests been the only calls, they would have been accepted too. -/
theorem accepted_accepted (h : past.Timely now) (client : String) :
    accepted client (accepted client past) = accepted client past := by
  induction past generalizing now with
  | nil => rfl
  | cons e past ih =>
    obtain ⟨t, call⟩ := e
    have hih := ih h.before
    by_cases hp : passes client (after past) t call
    · have hsame : passes client (after (accepted client past)) t call := by
        cases call with
        | cleanUp => exact hp
        | request c perMinute perDay =>
          have hc : c = client ∧ ((after past).checkClient t c perMinute perDay).1 = none := by simpa [passes] using hp
          have htimes : acceptedTimes c (accepted c past) = acceptedTimes c past := by
            rw [hc.1]
            exact congrArg (List.map (·.1)) hih
          have ha := answer_after (h.before.sublist (accepted_sublist c past)) c perMinute perDay
          rw [htimes, ← answer_after h.before, hc.2] at ha
          rw [hc.1] at ha
          simp [passes, hc.1, ha]
      rw [accepted, if_pos hp, accepted, if_pos hsame, hih]
    · rw [accepted, if_neg hp, hih]

/-! ### Windows -/

/-- Times, the last one first, each of which has less than `limit` of the others within the `span` before it. -/
def Sparse (span limit : Int) : List Int → Prop
  | [] => True
  | now :: rest => (within now span rest).length < limit ∧ Sparse span limit rest

/-- No window holds more than the limit, wherever it lies. -/
theorem Sparse.countP_le {limit : Int} (h : Sparse span limit kept) (ho : kept.Pairwise (· ≥ ·)) (t : Int) :
    kept.countP (fun s => t - span < s ∧ s ≤ t) ≤ max limit 0 := by
  induction kept with
  | nil => simp
  | cons now rest ih =>
    obtain ⟨hlt, hrest⟩ := h
    obtain ⟨hnow, ho⟩ := List.pairwise_cons.mp ho
    rw [List.countP_cons]
    by_cases hw : t - span < now ∧ now ≤ t
    · -- Whatever else is in the window came within the span before `now`.
      have hle : rest.countP (fun s => t - span < s ∧ s ≤ t) ≤ (within now span rest).length := by
        unfold within
        rw [← List.countP_eq_length_filter]
        apply List.countP_mono_left
        intro s hs hin
        have := hnow s hs
        simp only [decide_eq_true_eq] at hin ⊢
        omega
      rw [if_pos (decide_eq_true hw)]
      omega
    · rw [if_neg (by simpa using hw)]
      exact ih hrest ho

theorem sparse_acceptedTimes {perMinute perDay : Int} (h : past.Timely now)
    (hf : ∀ t m d, (t, Call.request client m d) ∈ past → m = perMinute ∧ d = perDay) :
    Sparse Calendar.minute perMinute (acceptedTimes client past) ∧ Sparse Calendar.day perDay (acceptedTimes client past) := by
  induction past generalizing now with
  | nil => exact ⟨trivial, trivial⟩
  | cons e past ih =>
    obtain ⟨t, call⟩ := e
    have hih := ih h.before fun t m d hm => hf t m d (List.mem_cons_of_mem _ hm)
    rw [acceptedTimes_cons]
    split
    · rename_i hp
      cases call with
      | cleanUp => cases hp
      | request c m d =>
        have hc : c = client ∧ ((after past).checkClient t c m d).1 = none := by simpa [passes] using hp
        obtain ⟨rfl, hc⟩ := hc
        have hfixed := hf t m d List.mem_cons_self
        rw [answer_after h.before, hfixed.1, hfixed.2] at hc
        have hlt := verdict_eq_none hc
        exact ⟨⟨hlt.1, hih.1⟩, hlt.2, hih.2⟩
    · exact hih

/-- A limiter answers like a log of all that it let through, and like one that was never asked by anybody else nor ever refused
this client. With fixed limits no minute and no day has more accepted requests of a client in it than its limit, wherever it
begins. -/
theorem checkClient_slidingLog (h : past.Timely now) (client : String) (perMinute perDay : Int) :
    let recent (span : Int) := (within now span (acceptedTimes client past)).length
    let answer (past : Past) := ((after past).checkClient now client perMinute perDay).1
    (answer past = if perDay ≤ recent Calendar.day then some .dayUsedUp
      else if perMinute ≤ recent Calendar.minute then some .tooFast else none) ∧
    answer past = answer (accepted client past) ∧
    ((∀ t m d, (t, Call.request client m d) ∈ past → m = perMinute ∧ d = perDay) → ∀ t,
      let inWindow (span : Int) := (acceptedTimes client past).countP fun s => t - span < s ∧ s ≤ t
      inWindow Calendar.minute ≤ max perMinute 0 ∧ inWindow Calendar.day ≤ max perDay 0) := by
  intro recent answer
  have hown : (accepted client past).Timely now := h.sublist (accepted_sublist client past)
  refine ⟨answer_after h client perMinute perDay, ?_, fun hf t => ?_⟩
  · have ha := answer_after hown client perMinute perDay
    rw [acceptedTimes, accepted_accepted h] at ha
    exact (answer_after h client perMinute perDay).trans ha.symm
  · have ho : (acceptedTimes client past).Pairwise (· ≥ ·) := hown.descending
    have hs := sparse_acceptedTimes h hf
    exact ⟨hs.1.countP_le ho t, hs.2.countP_le ho t⟩

/-- A client may ask once a minute and five times a day. It is refused just before the minute is over, however often it was
refused before, and no window has two of its requests in it. -/
theorem refused_before_minute :
    let past : Past := [(45 * Calendar.second, .cleanUp), (30 * Calendar.second, .request "a" 1 5),
      (20 * Calendar.second, .request "b" 1 5), (0, .request "a" 1 5)]
    let now := Calendar.minute - 1
    past.Timely now ∧ ((after past).checkClient now "a" 1 5).1 = some .tooFast ∧
      ∀ t, ((acceptedTimes "a" past).countP fun s => t - Calendar.minute < s ∧ s ≤ t) ≤ 1 := by
  intro past now
  have ht : past.Timely now := by unfold Timeline.Timely; decide +kernel
  have hf : ∀ t m d, (t, Call.request "a" m d) ∈ past → m = 1 ∧ d = 5 := by
    intro t m d hm
    simp [past] at hm
    omega
  obtain ⟨ha, -, hw⟩ := checkClient_slidingLog ht "a" 1 5
  exact ⟨ht, ha.trans (by decide +kernel), fun t => Int.ofNat_le.mp (hw hf t).1⟩

end Easel.RateLimiter
