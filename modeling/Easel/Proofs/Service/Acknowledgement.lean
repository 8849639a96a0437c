import Easel.Proofs.Service.History
import Mathlib.Data.List.TakeWhile

/-!
What an acknowledgement takes out of a queue. The client of a plugin acknowledges what it was shown last, without saying what
that was: the oldest command that has not expired is taken for it. So if the command has expired in the meantime, the next one
goes, which nobody was ever shown.
-/

namespace Easel.Service

open Http

variable {τ : Type} [Clock τ] [Sub τ] [LT τ] [DecidableLT τ] [LE τ] [DecidableLE τ] {s s₀ : Service τ} {now : Moment τ}
  {r : Request} {past : List (Occasion τ)} {a c : Command τ} {plugin : String}

theorem after_ordered (h₀ : s₀.channel.Ordered) (past : List (Occasion τ)) : (after s₀ past).channel.Ordered := by
  induction past with
  | nil => exact h₀
  | cons o past ih => exact (step_does _ o).ordered ih

/-- What was shown once was due then, and so are only commands with higher numbers later on. -/
theorem delivered_due (h₀ : s₀.channel.Ordered) (h : a ∈ delivered s₀ past) : (after s₀ past).channel.Due a := by
  induction past with
  | nil => cases h
  | cons o past ih =>
    rcases List.mem_append.mp h with h | h
    · obtain ⟨-, -, rest, hq⟩ := queue_of_shown? (Option.mem_toList.mp h) (after_ordered h₀ past)
      exact (after_ordered h₀ (o :: past)).due hq
    · exact (step_does _ o).due (ih h)

theorem lastShown?_mem_delivered (h : lastShown? s₀ plugin past = some c) : c ∈ delivered s₀ past := by
  induction past with
  | nil => cases h
  | cons o past ih =>
    unfold lastShown? at h
    split at h
    · exact List.mem_append_left _ (Option.mem_toList.mpr h)
    · exact List.mem_append_right _ (ih h)

/-- What was shown last has the highest number of all that was shown. -/
theorem number_le_lastShown? (h₀ : s₀.channel.Ordered) (h : lastShown? s₀ plugin past = some c) :
    c.plugin = plugin ∧ ∀ a ∈ delivered s₀ past, a.plugin = plugin → a.number ≤ c.number := by
  induction past with
  | nil => cases h
  | cons o past ih =>
    unfold lastShown? at h
    split at h
    · rename_i hp
      obtain ⟨hc, hm, -⟩ := queue_of_shown? h (after_ordered h₀ past)
      have hcp : c.plugin = plugin := Option.some.inj (hc.symm.trans hp)
      refine ⟨hcp, fun a ha hap => ?_⟩
      rcases List.mem_append.mp ha with ha | ha
      · rw [Option.mem_toList.mp ha] at h
        cases h
        exact Nat.le_refl _
      · exact (delivered_due h₀ ha).2 c (by rwa [hap, ← hcp])
    · rename_i hp
      refine ⟨(ih h).1, fun a ha hap => ?_⟩
      rcases List.mem_append.mp ha with ha | ha
      · have := (queue_of_shown? (Option.mem_toList.mp ha) (after_ordered h₀ past)).1
        exact absurd (this.trans (congrArg some hap)) hp
      · exact (ih h).2 a ha hap

/-- As long as its client asks for nothing more, what was shown last heads its queue until it expires. -/
theorem lastShown?_heads [SteadyClock τ] {later : τ} (h₀ : s₀.channel.Ordered) (hle : ∀ o ∈ past, o.now.channel ≤ later)
    (h : lastShown? s₀ plugin past = some c) : (after s₀ past).channel.Heads later c := by
  induction past with
  | nil => cases h
  | cons o past ih =>
    have hcp := (number_le_lastShown? h₀ h).1
    unfold lastShown? at h
    split at h
    · exact .inl (queue_of_shown? h (after_ordered h₀ past)).2.2
    · rename_i hp
      have hd := delivered_due h₀ (lastShown?_mem_delivered h)
      exact (step_does _ o).heads (hcp ▸ hp) (hle o List.mem_cons_self) (after_ordered h₀ past) hd.1
        (ih (fun o ho => hle o (List.mem_cons_of_mem _ ho)) h)

/-- Between two states a command was taken out that had not expired. -/
def Discards (s s' : Service τ) (now : τ) (a : Command τ) : Prop :=
  a ∈ s.channel.queue a.plugin ∧ s.channel.isExpired now a = false ∧ a ∉ s'.channel.queue a.plugin

theorem queue_acknowledged (ha : asks r = some .clearCommands) (hr : readSwitch r "all" = .ok false) (s : Service τ)
    (k : String) : (s.step (.request now r)).channel.queue k =
      if k = pluginOf r ∧ s.channel.tellsExpiry now.channel (pluginOf r) then
        ((s.channel.queue (pluginOf r)).dropWhile (s.channel.isExpired now.channel)).tail
      else s.channel.queue k := by
  unfold step
  dsimp only
  rw [respond_of_asks ha, serve, clearCommands_channel, hr]
  dsimp only
  split
  · rename_i ht
    rw [Channel.queue_pop]
    simp only [ht, and_true]
  · rename_i ht
    rw [if_neg fun h => ht h.2]

/-- Of what has not expired an acknowledgement takes out the oldest command, whatever was shown. -/
theorem discards_iff (ho : s.channel.Ordered) (ha : asks r = some .clearCommands) (hr : readSwitch r "all" = .ok false) :
    Discards s (s.step (.request now r)) now.channel a ↔ s.channel.tellsExpiry now.channel (pluginOf r) ∧
      ((s.channel.queue (pluginOf r)).dropWhile (s.channel.isExpired now.channel)).head? = some a := by
  unfold Discards
  rw [queue_acknowledged ha hr]
  constructor
  · rintro ⟨hm, he, hg⟩
    split at hg
    · rename_i ht
      rw [ht.1, ← (s.channel.queue (pluginOf r)).takeWhile_append_dropWhile] at hm
      rcases List.mem_append.mp hm with hm | hm
      · exact absurd (List.mem_takeWhile_imp hm) (Bool.eq_false_iff.mp he)
      · refine ⟨ht.2, ?_⟩
        rcases hl : (s.channel.queue (pluginOf r)).dropWhile (s.channel.isExpired now.channel) with - | ⟨x, rest⟩ <;>
          rw [hl] at hm hg
        · cases hm
        · rcases List.mem_cons.mp hm with rfl | hm
          · rfl
          · exact absurd hm hg
    · exact absurd hm hg
  · rintro ⟨ht, hh⟩
    obtain ⟨rest, hl⟩ := List.head?_eq_some_iff.mp hh
    have hm : a ∈ s.channel.queue (pluginOf r) := (List.dropWhile_suffix _).mem (hl ▸ List.mem_cons_self)
    have hp := ((ho _).2 a hm).1
    refine ⟨hp ▸ hm, ?_, fun hg => ?_⟩
    · -- What stands first behind the expired commands has not expired itself.
      have he := List.head?_dropWhile_not (s.channel.isExpired now.channel) (s.channel.queue (pluginOf r))
      rwa [hh] at he
    · rw [if_pos ⟨hp, ht⟩, hl] at hg
      have hs := (ho (pluginOf r)).1.sublist (List.dropWhile_suffix (s.channel.isExpired now.channel)).sublist
      rw [hl, List.pairwise_cons] at hs
      exact Nat.lt_irrefl _ (hs.1 a hg)

/-- When the client of a plugin acknowledges what it was shown last, it is exactly that which goes, unless it has expired. If it
has, then a command that was never shown to anybody goes in its place, as soon as one waits that has not expired. -/
theorem acknowledgement_discards [SteadyClock τ] (h₀ : s₀.channel.pending = [])
    (hc : lastShown? s₀ (pluginOf r) past = some c) (hle : ∀ o ∈ past, o.now.channel ≤ now.channel)
    (ha : asks r = some .clearCommands) (hr : readSwitch r "all" = .ok false) :
    let s := after s₀ past
    let s' := s.step (.request now r)
    let queue := s.channel.queue (pluginOf r)
    let expired := s.channel.isExpired now.channel
    let tells := s.channel.tellsExpiry now.channel (pluginOf r)
    (∀ k, s'.channel.queue k = if k = pluginOf r ∧ tells then (queue.dropWhile expired).tail else s.channel.queue k) ∧
      (tells ∧ expired c = false → queue = c :: s'.channel.queue (pluginOf r)) ∧
      (expired c → ∀ a ∈ queue, expired a = false → a ∉ delivered s₀ past) ∧
      ((∃ a, Discards s s' now.channel a ∧ a ∉ delivered s₀ past) ↔ tells ∧ expired c ∧ ∃ a ∈ queue, expired a = false) := by
  intro s s' queue expired tells
  have h₀ := Channel.Ordered.empty h₀
  have ho : s.channel.Ordered := after_ordered h₀ past
  have hq : ∀ k, s'.channel.queue k =
      if k = pluginOf r ∧ tells then (queue.dropWhile expired).tail else s.channel.queue k := queue_acknowledged ha hr s
  have hd (a : Command τ) : Discards s s' now.channel a ↔ tells ∧ (queue.dropWhile expired).head? = some a :=
    discards_iff ho ha hr
  obtain ⟨hp, hmax⟩ := number_le_lastShown? h₀ hc
  have hh : s.channel.Heads now.channel c := lastShown?_heads h₀ hle hc
  have hfirst (he : expired c = false) : ∃ rest, queue = c :: rest := by
    have h := hh.of_not_expired he
    rwa [hp] at h
  -- Behind an expired `c` all numbers are higher than any that was shown.
  have hrest (he : expired c) (a : Command τ) (hm : a ∈ queue) (hae : expired a = false) : a ∉ delivered s₀ past := by
    intro hs
    have hlt := hh.number_lt ho he (show a ∈ s.channel.queue c.plugin from hp ▸ hm) hae
    exact Nat.not_lt.mpr (hmax a hs ((ho _).2 a hm).1) hlt
  refine ⟨hq, fun ⟨ht, he⟩ => ?_, hrest, ?_, ?_⟩
  · obtain ⟨rest, hr⟩ := hfirst he
    rw [hq, if_pos ⟨rfl, ht⟩, hr, List.dropWhile_cons_of_neg (Bool.eq_false_iff.mp he)]
    rfl
  · rintro ⟨a, hda, hn⟩
    obtain ⟨ht, hf⟩ := (hd a).mp hda
    have hm : a ∈ queue := (List.dropWhile_suffix _).mem (List.mem_of_mem_head? hf)
    refine ⟨ht, ?_, a, hm, hda.2.1⟩
    by_contra he
    obtain ⟨rest, hr⟩ := hfirst (Bool.eq_false_iff.mpr he)
    rw [hr, List.dropWhile_cons_of_neg he] at hf
    exact hn (Option.some.inj hf ▸ lastShown?_mem_delivered hc)
  · rintro ⟨ht, he, a, hm, hae⟩
    have hne : queue.dropWhile expired ≠ [] := fun h =>
      absurd (List.dropWhile_eq_nil_iff.mp h a hm) (Bool.eq_false_iff.mp hae)
    obtain ⟨x, rest, hl⟩ := List.exists_cons_of_ne_nil hne
    have hdx : Discards s s' now.channel x := (hd x).mpr ⟨ht, by rw [hl]; rfl⟩
    exact ⟨x, hdx, hrest he x ((List.dropWhile_suffix _).mem (hl ▸ List.mem_cons_self)) hdx.2.1⟩

/-- Two commands wait, the first of them is shown and expires, and the acknowledgement takes out the second. -/
theorem second_command_discarded :
    let s₀ : Service Int := {
      settings := {}, channel := { ttl := 60, connectionTtl := 5 }, model := { source := .script [] }, limit := 1000 }
    let post (transcript : String) : Request := {
      method := "POST", path := "/api/commands", headers := [("content-type", "application/json")]
      body := "\x7b\"pluginId\":\"p\",\"transcript\":\"" ++ transcript ++ "\"\x7d" }
    let poll : Request := { method := "GET", path := "/api/commands", headers := [("x-plugin-id", "p")] }
    let acknowledge : Request := { poll with method := "DELETE" }
    let past : List (Occasion Int) := [
      .request ⟨50, 50⟩ poll, .request ⟨50, 50⟩ (post "two"), .request ⟨0, 0⟩ (post "one")]
    (lastShown? s₀ "p" past).map (·.number) = some 1 ∧
      ∃ a, Discards (after s₀ past) ((after s₀ past).step (.request ⟨61, 61⟩ acknowledge)) 61 a ∧ a ∉ delivered s₀ past := by
  intro s₀ post poll acknowledge past
  have hn : (lastShown? s₀ (pluginOf acknowledge) past).map (·.number) = some 1 := by decide +kernel
  have he : (lastShown? s₀ (pluginOf acknowledge) past).all ((after s₀ past).channel.isExpired 61) = true := by decide +kernel
  have hw : ∃ a ∈ (after s₀ past).channel.queue (pluginOf acknowledge), (after s₀ past).channel.isExpired 61 a = false := by
    have : ((after s₀ past).channel.queue (pluginOf acknowledge)).any
        (fun a => !(after s₀ past).channel.isExpired 61 a) = true := by decide +kernel
    simpa using this
  obtain ⟨c, hc, -⟩ := Option.map_eq_some_iff.mp hn
  rw [hc] at he
  have hle : ∀ o ∈ past, o.now.channel ≤ (Moment.mk 61 61 : Moment Int).channel := by decide +kernel
  have hd := acknowledgement_discards (r := acknowledge) rfl hc hle (by decide +kernel) rfl
  exact ⟨hn, hd.2.2.2.mpr ⟨by decide +kernel, he, hw⟩⟩

end Easel.Service
