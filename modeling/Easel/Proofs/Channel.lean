import Easel.Channel
import Mathlib.Algebra.Order.Group.Int
import Mathlib.Algebra.Order.Group.Unbundled.Basic
import Mathlib.Data.List.DropRight

/-!
What can happen to the queues of a channel. A command comes in at the end of a queue with a number above all others; commands
go from the front, either because their plugin's own client does something, or because they have expired.
-/

namespace Easel

/-- Once something is older than a limit it stays so. -/
class SteadyClock (τ : Type) [Sub τ] [LT τ] [LE τ] : Prop where
  expired_of_le : ∀ {created limit now later : τ}, now ≤ later → created < now - limit → created < later - limit

instance {τ : Type} [AddCommGroup τ] [LinearOrder τ] [IsOrderedAddMonoid τ] : SteadyClock τ where
  expired_of_le h he := lt_of_lt_of_le he (sub_le_sub_right h _)

namespace Channel

variable {τ : Type} {c c' : Channel τ} {now later : τ} {client : Option String} {a : Command τ}

@[simp] theorem queue_setQueue (p : String) (commands : List (Command τ)) (k : String) :
    (c.setQueue p commands).queue k = if k = p then commands else c.queue k := by
  unfold queue setQueue
  cases commands with
  | nil => rw [show ([] : List (Command τ)).isEmpty = true from rfl, if_pos rfl, Keyed.lookup_erase]; split <;> rfl
  | cons a rest => rw [show (a :: rest).isEmpty = false from rfl, if_neg (by simp), Keyed.lookup_put]; split <;> rfl

theorem queue_post {p : String} {transcript actions : Json} (h : c.post now p transcript actions = .ok (a, c')) (k : String) :
    c'.queue k = if k = p then c.queue k ++ [a] else c.queue k := by
  unfold post at h
  split at h <;> [skip; split at h] <;> simp only [Except.ok.injEq, Prod.mk.injEq, reduceCtorEq] at h
  obtain ⟨rfl, rfl⟩ := h
  refine (queue_setQueue p _ k).trans ?_
  split
  · rename_i hk; rw [hk]
  · rfl

theorem of_post {p : String} {transcript actions : Json} (h : c.post now p transcript actions = .ok (a, c')) :
    a = ⟨c.posted + 1, p, transcript, actions, now⟩ ∧ c'.posted = c.posted + 1 ∧ c'.ttl = c.ttl := by
  unfold post at h
  split at h <;> [skip; split at h] <;> simp only [Except.ok.injEq, Prod.mk.injEq, reduceCtorEq] at h
  obtain ⟨rfl, rfl⟩ := h
  exact ⟨rfl, rfl, rfl⟩

/-- Commands wait where they belong, in the order in which they were posted. -/
def Ordered (c : Channel τ) : Prop :=
  ∀ k, (c.queue k).Pairwise (·.number < ·.number) ∧ ∀ a ∈ c.queue k, a.plugin = k ∧ a.number ≤ c.posted

theorem Ordered.empty (h : c.pending = []) : c.Ordered := fun k => by
  unfold queue
  rw [h]
  exact ⟨.nil, fun a ha => nomatch ha⟩

/-- The turn of `a` has come: nothing that waits with it was posted before. -/
def Due (c : Channel τ) (a : Command τ) : Prop :=
  a.number ≤ c.posted ∧ ∀ x ∈ c.queue a.plugin, a.number ≤ x.number

theorem Ordered.due {rest : List (Command τ)} (h : c.Ordered) (hq : c.queue a.plugin = a :: rest) : c.Due a := by
  obtain ⟨ho, hb⟩ := h a.plugin
  rw [hq, List.pairwise_cons] at ho
  refine ⟨(hb a (hq ▸ List.mem_cons_self)).2, fun x hx => ?_⟩
  rw [hq] at hx
  rcases List.mem_cons.mp hx with rfl | hx
  · exact Nat.le_refl _
  · exact (ho.1 x hx).le

section Time

variable [Sub τ] [LT τ] [DecidableLT τ]

theorem isExpired_congr (h : c'.ttl = c.ttl) : c'.isExpired now = c.isExpired now := by
  unfold isExpired
  rw [h]

@[simp] theorem queue_evict (p k : String) :
    (c.evict now p).queue k = if k = p then (c.queue p).dropWhile (c.isExpired now) else c.queue k :=
  queue_setQueue ..

@[simp] theorem ttl_evict (p : String) : (c.evict now p).ttl = c.ttl := rfl

theorem evictEach_spec (now : τ) (keys : List String) (c : Channel τ) :
    (keys.foldl (·.evict now ·) c).ttl = c.ttl ∧ (keys.foldl (·.evict now ·) c).posted = c.posted ∧
      ∀ k, (keys.foldl (·.evict now ·) c).queue k =
        if k ∈ keys then (c.queue k).dropWhile (c.isExpired now) else c.queue k := by
  induction keys generalizing c with
  | nil => exact ⟨rfl, rfl, fun k => by simp⟩
  | cons p rest ih =>
    obtain ⟨ht, hp, hq⟩ := ih (c.evict now p)
    refine ⟨ht, hp, fun k => ?_⟩
    -- A plugin that is listed twice is swept twice, with no more effect than once.
    rw [List.foldl_cons, hq k, isExpired_congr (ttl_evict p), queue_evict]
    by_cases hk : k = p
    · subst hk
      simp [List.dropWhile_idempotent]
    · simp [hk]

theorem queue_evictAll (k : String) : (c.evictAll now).queue k = (c.queue k).dropWhile (c.isExpired now) := by
  unfold evictAll
  rw [(evictEach_spec now _ c).2.2 k]
  split
  · rfl
  · rename_i hk
    have hn : c.pending.lookup k = none := List.lookup_eq_none_iff.mpr fun e he => by
      simpa using fun h : k = e.1 => hk (List.mem_map.mpr ⟨e, he, h.symm⟩)
    unfold queue
    rw [hn]
    rfl

theorem queue_pop (p k : String) :
    (c.pop now p).2.queue k = if k = p then ((c.queue p).dropWhile (c.isExpired now)).tail else c.queue k := by
  unfold pop
  simp only [queue_setQueue, queue_evict, if_true]
  split
  · rfl
  · rfl

theorem peek_command (p : String) : (c.peek now p).1 = ((c.queue p).dropWhile (c.isExpired now)).head? := by
  unfold peek
  simp only [queue_evict, if_true]

theorem pop_command (p : String) : (c.pop now p).1 = ((c.queue p).dropWhile (c.isExpired now)).head? := by
  unfold pop
  simp only [queue_evict, if_true]

theorem queue_peek (p k : String) :
    ((c.touch now p).peek now p).2.queue k = if k = p then (c.queue p).dropWhile (c.isExpired now) else c.queue k :=
  queue_evict (c := c.touch now p) p k

/-- `a` is the oldest command that waits for its plugin, or it has expired and is gone. -/
def Heads (c : Channel τ) (now : τ) (a : Command τ) : Prop :=
  (∃ rest, c.queue a.plugin = a :: rest) ∨ (c.isExpired now a = true ∧ ∀ x ∈ c.queue a.plugin, a.number < x.number)

theorem Heads.of_not_expired (h : c.Heads now a) (he : c.isExpired now a = false) : ∃ rest, c.queue a.plugin = a :: rest :=
  h.resolve_right fun hx => absurd hx.1 (Bool.eq_false_iff.mp he)

theorem Heads.number_lt (h : c.Heads now a) (ho : c.Ordered) (he : c.isExpired now a) {x : Command τ}
    (hx : x ∈ c.queue a.plugin) (hxe : c.isExpired now x = false) : a.number < x.number := by
  rcases h with ⟨rest, hr⟩ | ⟨-, hl⟩
  · have hs := (ho a.plugin).1
    rw [hr, List.pairwise_cons] at hs
    rw [hr] at hx
    rcases List.mem_cons.mp hx with rfl | hx
    · exact absurd he (Bool.eq_false_iff.mp hxe)
    · exact hs.1 x hx
  · exact hl x hx

variable [Clock τ]

theorem evictTold_spec (now : τ) (c : Channel τ) :
    (c.evictTold now).1.ttl = c.ttl ∧ (c.evictTold now).1.posted = c.posted ∧
      ((∀ k, (c.evictTold now).1.queue k = c.queue k) ∨
        ∀ k, (c.evictTold now).1.queue k = (c.queue k).dropWhile (c.isExpired now)) := by
  obtain ⟨ht, hp, -⟩ := evictEach_spec now (c.pending.map (·.1)) c
  unfold evictTold
  split
  · exact ⟨rfl, rfl, .inl fun _ => rfl⟩
  split
  · exact ⟨ht, hp, .inr queue_evictAll⟩
  · exact ⟨ht, hp, .inr queue_evictAll⟩

/-- What a request or a sweep does to a channel. `client` is the plugin whose own client asks, for the oldest command or to have
something taken out; anybody may post. -/
inductive Does (now : τ) (c : Channel τ) : Option String → Channel τ → Prop
  | nothing {client : Option String} : Does now c client c
  | posts (p : String) {transcript actions : Json} {a : Command τ} {c' : Channel τ}
      (h : c.post now p transcript actions = .ok (a, c')) : Does now c none c'
  | touches (p : String) : Does now c (some p) (c.touch now p)
  | polls (p : String) : Does now c (some p) ((c.touch now p).peek now p).2
  | acknowledges (p : String) : Does now c (some p) (c.pop now p).2
  | clears (p : String) : Does now c (some p) (c.clear p).2
  | sweeps : Does now c none (c.evictTold now).1

namespace Does

theorem ttl (h : Does now c client c') : c'.ttl = c.ttl := by
  cases h with
  | posts p h => exact (of_post h).2.2
  | sweeps => exact (evictTold_spec now c).1
  | _ => rfl

theorem posted_le (h : Does now c client c') : c.posted ≤ c'.posted := by
  cases h with
  | posts p h => rw [(of_post h).2.1]; exact Nat.le_succ _
  | sweeps => exact (evictTold_spec now c).2.1.ge
  | _ => exact Nat.le_refl _

/-- All that can happen to one queue. -/
theorem queue (h : Does now c client c') (k : String) : c'.queue k = c.queue k ∨
    (∃ a, c'.queue k = c.queue k ++ [a] ∧ a.plugin = k ∧ a.number = c.posted + 1 ∧ c'.posted = c.posted + 1) ∨
    c'.queue k = (c.queue k).dropWhile (c.isExpired now) ∨ (client = some k ∧ c'.queue k <:+ c.queue k) := by
  have mine {p : String} {rest : List (Command τ)} (hq : c'.queue k = if k = p then rest else c.queue k)
      (hs : rest <:+ c.queue p) (hp : client = some p) :
      c'.queue k = c.queue k ∨ (client = some k ∧ c'.queue k <:+ c.queue k) := by
    rw [hq]
    by_cases hk : k = p
    · subst hk
      exact .inr ⟨hp, by rwa [if_pos rfl]⟩
    · exact .inl (if_neg hk)
  have hd (p : String) : (c.queue p).dropWhile (c.isExpired now) <:+ c.queue p := List.dropWhile_suffix _
  cases h with
  | nothing => exact .inl rfl
  | touches p => exact .inl rfl
  | posts p h =>
    obtain ⟨rfl, hn, -⟩ := of_post h
    rw [queue_post h]
    by_cases hk : k = p
    · rw [if_pos hk]; exact .inr (.inl ⟨_, rfl, hk.symm, rfl, hn⟩)
    · exact .inl (if_neg hk)
  | polls p => exact (mine (queue_peek p k) (hd p) rfl).imp_right fun h => .inr (.inr h)
  | acknowledges p =>
    exact (mine (queue_pop p k) ((List.tail_suffix _).trans (hd p)) rfl).imp_right fun h => .inr (.inr h)
  | clears p => exact (mine (queue_setQueue p [] k) List.nil_suffix rfl).imp_right fun h => .inr (.inr h)
  | sweeps =>
    rcases (evictTold_spec now c).2.2 with h | h
    · exact .inl (h k)
    · exact .inr (.inr (.inl (h k)))

end Does

theorem Does.ordered (hd : Does now c client c') (h : c.Ordered) : c'.Ordered := by
  intro k
  obtain ⟨ho, hb⟩ := h k
  have shorter (hs : c'.queue k <:+ c.queue k) :
      (c'.queue k).Pairwise (·.number < ·.number) ∧ ∀ a ∈ c'.queue k, a.plugin = k ∧ a.number ≤ c'.posted :=
    ⟨ho.sublist hs.sublist, fun a ha => ⟨(hb a (hs.mem ha)).1, (hb a (hs.mem ha)).2.trans hd.posted_le⟩⟩
  rcases hd.queue k with hq | ⟨x, hq, hx, hn, hp⟩ | hq | ⟨-, hq⟩
  · exact shorter (hq ▸ List.suffix_refl _)
  · rw [hq, List.pairwise_append, hp]
    refine ⟨⟨ho, List.pairwise_singleton .., fun a ha b hx => ?_⟩, fun a ha => ?_⟩
    · rw [List.mem_singleton.mp hx, hn]
      exact Nat.lt_succ_of_le (hb a ha).2
    · rcases List.mem_append.mp ha with ha | ha
      · exact ⟨(hb a ha).1, (hb a ha).2.trans (Nat.le_succ _)⟩
      · rw [List.mem_singleton.mp ha]
        exact ⟨hx, hn.le⟩
  · exact shorter (hq ▸ List.dropWhile_suffix _)
  · exact shorter hq

theorem Does.due (hd : Does now c client c') (h : c.Due a) : c'.Due a := by
  refine ⟨h.1.trans hd.posted_le, fun x hx => ?_⟩
  rcases hd.queue a.plugin with hq | ⟨y, hq, -, hn, -⟩ | hq | ⟨-, hq⟩
  · exact h.2 x (hq ▸ hx)
  · rw [hq] at hx
    rcases List.mem_append.mp hx with hx | hx
    · exact h.2 x hx
    · rw [List.mem_singleton.mp hx, hn]
      exact h.1.trans (Nat.le_succ _)
  · exact h.2 x ((List.dropWhile_suffix _).mem (hq ▸ hx))
  · exact h.2 x (hq.mem hx)

theorem Does.heads [LE τ] [SteadyClock τ] (hd : Does now c client c') (hc : client ≠ some a.plugin) (hle : now ≤ later)
    (ho : c.Ordered) (hp : a.number ≤ c.posted) (h : c.Heads later a) : c'.Heads later a := by
  unfold Heads
  rw [isExpired_congr hd.ttl]
  rcases hd.queue a.plugin with hq | ⟨y, hq, -, hn, -⟩ | hq | ⟨he, -⟩
  · rwa [hq]
  · rw [hq]
    refine h.imp (fun ⟨rest, hr⟩ => ⟨rest ++ [y], by rw [hr]; rfl⟩) fun ⟨he, hl⟩ => ⟨he, fun x hx => ?_⟩
    rcases List.mem_append.mp hx with hx | hx
    · exact hl x hx
    · rw [List.mem_singleton.mp hx, hn]
      exact Nat.lt_succ_of_le hp
  · rw [hq]
    rcases h with ⟨rest, hr⟩ | ⟨he, hl⟩
    · rw [hr]
      -- Swept out now, it is still expired later on; what is left behind it came after it.
      by_cases he : c.isExpired now a
      · have hl := (ho a.plugin).1
        rw [hr, List.pairwise_cons] at hl
        refine .inr ⟨?_, fun x hx => ?_⟩
        · exact decide_eq_true (SteadyClock.expired_of_le hle (of_decide_eq_true he))
        · rw [List.dropWhile_cons_of_pos he] at hx
          exact hl.1 x ((List.dropWhile_suffix _).mem hx)
      · exact .inl ⟨rest, List.dropWhile_cons_of_neg he⟩
    · exact .inr ⟨he, fun x hx => hl x ((List.dropWhile_suffix _).mem hx)⟩
  · exact absurd he hc

end Time
end Channel
end Easel
