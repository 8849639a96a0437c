import Easel.Proofs.Channel
import Easel.Proofs.Timeline

/-!
A channel over time. All that was ever posted is laid beside what pops returned and clears dropped; of a queue, what was dropped
from its front had been returned, dropped or had expired, so the channel answers as if nothing had ever been forgotten.
-/

namespace Easel.Channel

variable {τ : Type} {a b : Command τ} {p q : String}

/-- The commands for a plugin. -/
def own (p : String) (commands : List (Command τ)) : List (Command τ) := commands.filter (·.plugin = p)

theorem own_append (p : String) (commands more : List (Command τ)) : own p (commands ++ more) = own p commands ++ own p more :=
  List.filter_append ..

theorem own_singleton (p : String) (a : Command τ) : own p [a] = if a.plugin = p then [a] else [] := by
  unfold own
  rw [List.filter_singleton]
  split <;> simp_all

theorem own_own (p q : String) (commands : List (Command τ)) : own p (own q commands) = if q = p then own p commands else [] := by
  unfold own
  rw [List.filter_filter]
  split
  · rename_i h
    subst h
    simp
  · rename_i h
    rw [List.filter_eq_nil_iff]
    intro a _ ha
    simp only [Bool.and_eq_true, decide_eq_true_eq] at ha
    exact h (ha.2.symm.trans ha.1)

theorem mem_of_own {commands all : List (Command τ)} (h : ∀ p, ∀ b ∈ own p commands, b ∈ own p all) (ha : a ∈ commands) :
    a ∈ all :=
  List.mem_of_mem_filter (h a.plugin a (List.mem_filter.mpr ⟨ha, decide_eq_true rfl⟩))

/-- No command in either list has the number of this one. -/
def outside (out lost : List (Command τ)) (a : Command τ) : Bool :=
  out.all (·.number ≠ a.number) && lost.all (·.number ≠ a.number)

theorem not_mem_of_outside {out lost : List (Command τ)} (h : outside out lost a) : a ∉ out ∧ a ∉ lost := by
  simp only [outside, Bool.and_eq_true, List.all_eq_true, decide_eq_true_eq] at h
  exact ⟨fun ha => h.1 a ha rfl, fun ha => h.2 a ha rfl⟩

/-- Of `all` commands those in the queue are the last ones; of those `before` it some came out, in their order, and the others
are lost or have expired. -/
structure Tracks (expired : Command τ → Bool) (all out lost queue before : List (Command τ)) : Prop where
  split : all = before ++ queue
  sublist : out.Sublist before
  lost_mem : ∀ a ∈ lost, a ∈ before
  accounted : ∀ a ∈ before, a ∈ out ∨ a ∈ lost ∨ expired a

namespace Tracks

variable {expired expiredNow : Command τ → Bool} {all out lost queue before : List (Command τ)}

theorem post (h : Tracks expired all out lost queue before) (new : List (Command τ)) :
    Tracks expired (all ++ new) out lost (queue ++ new) before :=
  { h with split := by rw [h.split, List.append_assoc] }

theorem evict (h : Tracks expired all out lost queue before) (hx : ∀ a, expiredNow a → expired a) :
    Tracks expired all out lost (queue.dropWhile expiredNow) (before ++ queue.takeWhile expiredNow) where
  split := by rw [List.append_assoc, List.takeWhile_append_dropWhile, h.split]
  sublist := h.sublist.trans (List.sublist_append_left _ _)
  lost_mem a ha := List.mem_append_left _ (h.lost_mem a ha)
  accounted a ha := by
    rcases List.mem_append.mp ha with ha | ha
    · exact h.accounted a ha
    · exact .inr (.inr (hx a (List.mem_takeWhile_imp ha)))

theorem pop (h : Tracks expired all out lost queue before) :
    Tracks expired all (out ++ queue.head?.toList) lost queue.tail (before ++ queue.head?.toList) where
  split := by
    rw [h.split, List.append_assoc]
    cases queue <;> rfl
  sublist := h.sublist.append (.refl _)
  lost_mem a ha := List.mem_append_left _ (h.lost_mem a ha)
  accounted a ha := by
    rcases List.mem_append.mp ha with ha | ha
    · exact (h.accounted a ha).imp_left (List.mem_append_left _)
    · exact .inl (List.mem_append_right _ ha)

theorem clear (h : Tracks expired all out lost queue before) : Tracks expired all out (all ++ lost) [] all where
  split := (List.append_nil _).symm
  sublist := h.sublist.trans (h.split ▸ List.sublist_append_left _ _)
  lost_mem a ha := by
    rcases List.mem_append.mp ha with ha | ha
    · exact ha
    · rw [h.split]
      exact List.mem_append_left _ (h.lost_mem a ha)
  accounted a ha := .inr (.inl (List.mem_append_left _ ha))

theorem mem (h : Tracks expired all out lost queue before) (ha : a ∈ queue) : a ∈ all := by
  rw [h.split]
  exact List.mem_append_right _ ha

/-- The first command that neither came out nor is lost nor has expired stands in the queue. -/
theorem find?_eq (h : Tracks expired all out lost queue before) (ho : all.Pairwise (·.number < ·.number)) :
    all.find? (fun a => outside out lost a && !expired a) = (queue.dropWhile expired).head? := by
  rw [h.split, List.pairwise_append] at ho
  have hbefore : before.find? (fun a => outside out lost a && !expired a) = none := by
    apply List.find?_eq_none.mpr
    intro a ha hu
    obtain ⟨ho, hx⟩ := Bool.and_eq_true_iff.mp hu
    obtain ⟨hout, hlost⟩ := not_mem_of_outside ho
    rcases h.accounted a ha with hr | hr | hr
    · exact hout hr
    · exact hlost hr
    · simp [hr] at hx
  have hqueue : ∀ a ∈ queue, (outside out lost a && !expired a) = !expired a := by
    intro a ha
    have hne : ∀ b ∈ before, b.number ≠ a.number := fun b hb => (ho.2.2 b hb a ha).ne
    have hout : out.all (·.number ≠ a.number) := by simpa using fun b hb => hne b (h.sublist.subset hb)
    have hlost : lost.all (·.number ≠ a.number) := by simpa using fun b hb => hne b (h.lost_mem b hb)
    rw [outside, hout, hlost]
    rfl
  rw [h.split, List.find?_append, hbefore, Option.none_or, ← List.head?_filter, List.filter_congr hqueue, List.head?_filter,
    List.find?_eq_head?_dropWhile_not]
  simp only [Bool.not_not]

end Tracks

/-- What a channel is called for. -/
inductive Call
  | post (plugin : String) (transcript actions : Json)
  | peek (plugin : String)
  | pop (plugin : String)
  | clear (plugin : String)
  | touch (plugin : String)
  | pendingCount (plugin : String)
  | isConnected (plugin : String)
  | connectedCount
  | evictExpired

abbrev Past (τ : Type) := Timeline τ Call

section Definitions

variable [Sub τ] [LT τ] [DecidableLT τ]

def step (c : Channel τ) (now : τ) : Call → Channel τ
  | .post p transcript actions => ((c.post now p transcript actions).map (·.2)).toOption.getD c
  | .peek p => (c.peek now p).2
  | .pop p => (c.pop now p).2
  | .clear p => (c.clear p).2
  | .touch p => c.touch now p
  | .evictExpired => (c.evictExpired now).2
  | .pendingCount _ | .isConnected _ | .connectedCount => c

def after (c₀ : Channel τ) : Past τ → Channel τ
  | [] => c₀
  | (now, call) :: past => (after c₀ past).step now call

/-- The command that a call makes. -/
def made (c : Channel τ) (now : τ) : Call → Option (Command τ)
  | .post p transcript actions => ((c.post now p transcript actions).map (·.1)).toOption
  | _ => none

/-- The command that a call takes out. -/
def taken (c : Channel τ) (now : τ) : Call → Option (Command τ)
  | .pop p => (c.pop now p).1
  | _ => none

/-- All commands that were posted, in the order in which they were. -/
def postings (c₀ : Channel τ) : Past τ → List (Command τ)
  | [] => []
  | (now, call) :: past => postings c₀ past ++ ((after c₀ past).made now call).toList

/-- All commands that pops returned, in the order in which they did. -/
def returned (c₀ : Channel τ) : Past τ → List (Command τ)
  | [] => []
  | (now, call) :: past => returned c₀ past ++ ((after c₀ past).taken now call).toList

/-- All commands that were posted for a plugin before something cleared it. -/
def dropped (c₀ : Channel τ) : Past τ → List (Command τ)
  | [] => []
  | (_, .clear p) :: past => (postings c₀ past).filter (·.plugin = p) ++ dropped c₀ past
  | _ :: past => dropped c₀ past

/-- When a plugin was last touched. -/
def lastTouch (p : String) : Past τ → Option τ
  | [] => none
  | (now, .touch q) :: past => if q = p then some now else lastTouch p past
  | _ :: past => lastTouch p past

def touched (past : Past τ) : List String :=
  (past.filterMap fun (_, call) => match call with
    | .touch p => some p
    | _ => none).dedup

variable [LE τ] [DecidableLE τ]

/-- A command of a plugin that no pop returned and no clear dropped, and that has not waited for too long. -/
def deliverable (c₀ : Channel τ) (past : Past τ) (now : τ) (p : String) (a : Command τ) : Bool :=
  a.plugin = p && outside (returned c₀ past) (dropped c₀ past) a && now - a.createdAt ≤ c₀.ttl

end Definitions

variable [AddCommGroup τ] [LinearOrder τ] {c c₀ : Channel τ} {now later : τ} {call : Call} {past : Past τ}

theorem queue_evictExpired (k : String) :
    (c.evictExpired now).2.queue k = (c.queue k).dropWhile (c.isExpired now) :=
  queue_evictAll k

theorem taken_pop (q : String) : c.taken now (.pop q) = ((c.queue q).dropWhile (c.isExpired now)).head? :=
  pop_command q

/-- A post makes a command with the next number, or nothing happens. -/
theorem post_cases (c : Channel τ) (now : τ) (q : String) (transcript actions : Json) :
    (∃ a, c.post now q transcript actions = .ok (a, c.step now (.post q transcript actions)) ∧
        c.made now (.post q transcript actions) = some a) ∨
      c.step now (.post q transcript actions) = c ∧ c.made now (.post q transcript actions) = none := by
  unfold step made
  dsimp only
  cases c.post now q transcript actions with
  | error f => exact .inr ⟨rfl, rfl⟩
  | ok r => exact .inl ⟨r.1, rfl, rfl⟩

omit [AddCommGroup τ] [LinearOrder τ] in
theorem after_append [Sub τ] [LT τ] [DecidableLT τ] (c₀ : Channel τ) (recent past : Past τ) :
    after c₀ (recent ++ past) = after (after c₀ past) recent := by
  induction recent with
  | nil => rfl
  | cons e recent ih => rw [List.cons_append, after, ih, after]

theorem ttl_step (c : Channel τ) (now : τ) (call : Call) : (c.step now call).ttl = c.ttl := by
  cases call with
  | post q transcript actions =>
    rcases post_cases c now q transcript actions with ⟨a, ha, -⟩ | ⟨hs, -⟩
    · exact (of_post ha).2.2
    · rw [hs]
  | evictExpired => exact (evictEach_spec now _ c).1
  | _ => rfl

theorem posted_step (h : c.made now call = none) : (c.step now call).posted = c.posted := by
  cases call with
  | post q transcript actions =>
    rcases post_cases c now q transcript actions with ⟨a, -, ha⟩ | ⟨hs, -⟩
    · rw [ha] at h
      cases h
    · rw [hs]
  | evictExpired => exact (evictEach_spec now _ c).2.1
  | _ => rfl

theorem of_made (h : c.made now call = some a) : a.number = c.posted + 1 ∧ (c.step now call).posted = c.posted + 1 := by
  cases call with
  | post q transcript actions =>
    rcases post_cases c now q transcript actions with ⟨b, hb, hm⟩ | ⟨-, hm⟩
    · rw [hm] at h
      cases h
      obtain ⟨rfl, hp, -⟩ := of_post hb
      exact ⟨rfl, hp⟩
    · rw [hm] at h
      cases h
  | _ => cases h

theorem ttl_after (c₀ : Channel τ) (past : Past τ) : (after c₀ past).ttl = c₀.ttl := by
  induction past with
  | nil => rfl
  | cons e past ih => exact (ttl_step _ e.1 e.2).trans ih

/-- Numbers follow the order of posting. -/
theorem postings_numbered (c₀ : Channel τ) (past : Past τ) :
    (postings c₀ past).Pairwise (·.number < ·.number) ∧ ∀ a ∈ postings c₀ past, a.number ≤ (after c₀ past).posted := by
  induction past with
  | nil => exact ⟨.nil, fun a ha => by cases ha⟩
  | cons e past ih =>
    obtain ⟨now, call⟩ := e
    obtain ⟨ho, hle⟩ := ih
    rw [postings, after]
    cases hm : (after c₀ past).made now call with
    | none =>
      rw [posted_step hm, Option.toList_none, List.append_nil]
      exact ⟨ho, hle⟩
    | some a =>
      obtain ⟨hn, hp⟩ := of_made hm
      rw [hp, Option.toList_some, List.pairwise_append]
      refine ⟨⟨ho, List.pairwise_singleton .., fun b hb x hx => ?_⟩, fun b hb => ?_⟩
      · have := hle b hb
        rw [List.mem_singleton.mp hx]
        omega
      · rcases List.mem_append.mp hb with hb | hb
        · have := hle b hb
          omega
        · rw [List.mem_singleton.mp hb]
          omega

theorem own_dropped_clear (p : String) (now : τ) (past : Past τ) :
    own p (dropped c₀ ((now, .clear p) :: past)) = own p (postings c₀ past) ++ own p (dropped c₀ past) := by
  rw [dropped, own_append]
  exact congrArg (· ++ _) ((own_own p p _).trans (if_pos rfl))

theorem own_dropped (h : call ≠ .clear p) (now : τ) (past : Past τ) :
    own p (dropped c₀ ((now, call) :: past)) = own p (dropped c₀ past) := by
  cases call with
  | clear q =>
    have hq : q ≠ p := fun hq => h (congrArg Call.clear hq)
    rw [dropped, own_append]
    exact congrArg (· ++ _) ((own_own p q _).trans (if_neg hq))
  | _ => rfl

/-- Whether a call takes out what has expired of the commands for a plugin. -/
def looksAt (p : String) : Call → Bool
  | .peek q | .pop q => q = p
  | .evictExpired => true
  | _ => false

/-- A call that neither looks at the commands for a plugin nor clears them puts in what it makes, if anything. -/
theorem step_unseen (hown : ∀ q, ∀ a ∈ c.queue q, a.plugin = q) (hl : looksAt p call = false) (hc : call ≠ .clear p) (now : τ) :
    own p (c.taken now call).toList = [] ∧ (c.step now call).queue p = c.queue p ++ own p (c.made now call).toList := by
  have idle {call : Call} (hm : c.made now call = none) (hq : (c.step now call).queue p = c.queue p) :
      (c.step now call).queue p = c.queue p ++ own p (c.made now call).toList := by
    rw [hm, hq]
    exact (List.append_nil _).symm
  cases call with
  | post q transcript actions =>
    refine ⟨rfl, ?_⟩
    rcases post_cases c now q transcript actions with ⟨a, ha, hm⟩ | ⟨hs, hm⟩
    · have hplugin : a.plugin = q := by rw [(of_post ha).1]
      rw [hm, Option.toList_some, own_singleton, hplugin]
      refine (queue_post ha p).trans ?_
      by_cases hq : p = q
      · rw [if_pos hq, if_pos hq.symm]
      · rw [if_neg hq, if_neg (Ne.symm hq), List.append_nil]
    · exact idle hm (by rw [hs])
  | peek q => exact ⟨rfl, idle rfl ((queue_evict q p).trans (if_neg (Ne.symm (of_decide_eq_false hl))))⟩
  | pop q =>
    have hq : p ≠ q := Ne.symm (of_decide_eq_false hl)
    refine ⟨List.filter_eq_nil_iff.mpr fun a ha hp => ?_, idle rfl ((queue_pop q p).trans (if_neg hq))⟩
    rw [taken_pop] at ha
    have hm := List.mem_of_mem_head? (Option.mem_toList.mp ha)
    have := hown q a ((List.dropWhile_suffix _).mem hm)
    exact hq ((of_decide_eq_true hp).symm.trans this)
  | clear q =>
    have hq : q ≠ p := fun hq => hc (congrArg Call.clear hq)
    exact ⟨rfl, idle rfl ((queue_setQueue q [] p).trans (if_neg (Ne.symm hq)))⟩
  | evictExpired => cases hl
  | touch q | pendingCount q | isConnected q | connectedCount => exact ⟨rfl, idle rfl rfl⟩

/-- A call that looks at the commands for a plugin takes the expired ones from the front, and the next one with them if it pops. -/
theorem step_seen (hown : ∀ q, ∀ a ∈ c.queue q, a.plugin = q) (hl : looksAt p call = true) (now : τ) :
    let taken := own p (c.taken now call).toList
    let live := (c.queue p).dropWhile (c.isExpired now)
    let queue := (c.step now call).queue p
    own p (c.made now call).toList = [] ∧ (taken = [] ∧ queue = live ∨ taken = live.head?.toList ∧ queue = live.tail) := by
  intro taken live queue
  cases call with
  | peek q =>
    obtain rfl := of_decide_eq_true hl
    exact ⟨rfl, .inl ⟨rfl, (queue_evict q q).trans (if_pos rfl)⟩⟩
  | evictExpired => exact ⟨rfl, .inl ⟨rfl, queue_evictExpired p⟩⟩
  | pop q =>
    obtain rfl := of_decide_eq_true hl
    have hall : own q live.head?.toList = live.head?.toList := by
      refine List.filter_eq_self.mpr fun a ha => ?_
      have hm : a ∈ live := List.mem_of_mem_head? (Option.mem_toList.mp ha)
      exact decide_eq_true (hown q a ((List.dropWhile_suffix _).mem hm))
    refine ⟨rfl, .inr ⟨?_, (queue_pop q q).trans (if_pos rfl)⟩⟩
    rw [← hall, ← taken_pop]
  | _ => cases hl

/-- All that a call can do to the commands for a plugin: some come in behind the others, the expired ones at the front go, the
first one that has not expired goes with them, or all go. -/
theorem step_cases (hown : ∀ q, ∀ a ∈ c.queue q, a.plugin = q) (now : τ) (call : Call) (p : String) :
    let made := own p (c.made now call).toList
    let taken := own p (c.taken now call).toList
    let live := (c.queue p).dropWhile (c.isExpired now)
    let queue := (c.step now call).queue p
    (call ≠ .clear p ∧ taken = [] ∧ queue = c.queue p ++ made) ∨
      (call ≠ .clear p ∧ made = [] ∧ taken = [] ∧ queue = live) ∨
      (call ≠ .clear p ∧ made = [] ∧ taken = live.head?.toList ∧ queue = live.tail) ∨
      (call = .clear p ∧ made = [] ∧ taken = [] ∧ queue = []) := by
  intro made taken live queue
  by_cases hc : call = .clear p
  · subst hc
    exact .inr (.inr (.inr ⟨rfl, rfl, rfl, (queue_setQueue p [] p).trans (if_pos rfl)⟩))
  by_cases hl : looksAt p call = false
  · exact .inl ⟨hc, step_unseen hown hl hc now⟩
  rw [Bool.not_eq_false] at hl
  obtain ⟨hm, ⟨ht, hq⟩ | ⟨ht, hq⟩⟩ := step_seen hown hl now
  · exact .inr (.inl ⟨hc, hm, ht, hq⟩)
  · exact .inr (.inr (.inl ⟨hc, hm, ht, hq⟩))

section Exact

variable [IsOrderedAddMonoid τ]

theorem not_isExpired : (!c.isExpired now a) = decide (now - a.createdAt ≤ c.ttl) := by
  unfold isExpired
  rw [Bool.eq_iff_iff]
  simp only [Bool.not_eq_true', decide_eq_false_iff_not, decide_eq_true_eq, not_lt]
  exact sub_le_comm

theorem isExpired_of_le (hle : now ≤ later) (h : c.isExpired now a) : c.isExpired later a :=
  decide_eq_true (SteadyClock.expired_of_le hle (of_decide_eq_true h))

/-- Of the commands for a plugin the queue holds the last ones, and what came before them is accounted for. -/
theorem exists_tracks (hp : c₀.pending = []) (h : past.Timely later) (p : String) :
    ∃ before, Tracks (c₀.isExpired later) (own p (postings c₀ past)) (own p (returned c₀ past)) (own p (dropped c₀ past))
      ((after c₀ past).queue p) before := by
  induction past generalizing p with
  | nil =>
    have hq : c₀.queue p = [] := by
      unfold queue
      rw [hp]
      rfl
    exact ⟨[], hq.symm, .slnil, fun a ha => ha, fun a ha => by cases ha⟩
  | cons e past ih =>
    obtain ⟨now, call⟩ := e
    have hx : ∀ a, (after c₀ past).isExpired now a → c₀.isExpired later a := by
      intro a ha
      rw [isExpired_congr (ttl_after c₀ past)] at ha
      exact isExpired_of_le h.le ha
    have ih := ih (h.sublist (List.sublist_cons_self _ _))
    have hown : ∀ q, ∀ a ∈ (after c₀ past).queue q, a.plugin = q := by
      intro q a ha
      obtain ⟨before, hb⟩ := ih q
      exact of_decide_eq_true (List.mem_filter.mp (hb.mem ha)).2
    obtain ⟨before, hb⟩ := ih p
    rw [postings, returned, after, own_append, own_append]
    rcases step_cases hown now call p with ⟨hc, ht, hq⟩ | ⟨hc, hm, ht, hq⟩ | ⟨hc, hm, ht, hq⟩ | ⟨rfl, hm, ht, hq⟩
    · rw [own_dropped hc, ht, hq, List.append_nil]
      exact ⟨_, hb.post _⟩
    · rw [own_dropped hc, hm, ht, hq, List.append_nil, List.append_nil]
      exact ⟨_, hb.evict hx⟩
    · rw [own_dropped hc, hm, ht, hq, List.append_nil]
      exact ⟨_, (hb.evict hx).pop⟩
    · rw [own_dropped_clear, hm, ht, hq, List.append_nil, List.append_nil]
      exact ⟨_, hb.clear⟩

end Exact

end Easel.Channel
