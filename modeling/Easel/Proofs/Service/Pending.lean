import Easel.Proofs.Channel.Waiting
import Easel.Proofs.Service.History

/-!
How much is said to wait. A poll drops what has expired before it counts, so it tells how many commands can be delivered. A post
only counts: commands that have expired since anybody looked at their queue are among those that it tells of.
-/

namespace Easel.Service

open Http

variable {τ : Type}

/-- What an occasion calls the channel for, the last call first. -/
def calls (s : Service τ) : Occasion τ → Channel.Past τ
  | .sweep now => [(now.channel, .evictExpired)]
  | .request now r =>
    match asks r with
    | some .postCommand =>
      match (readObject r).bind Posting.ofFields with
      | .ok p =>
        match refusal? s.settings.transcriptLimit p with
        | none =>
          [(now.channel, .post (p.plugin.getD "") (Json.ofOption .str p.transcript) (Json.ofOption .arr p.actions))]
        | some _ => []
      | .error _ => []
    | some .pollCommand => [(now.channel, .peek (pluginOf r)), (now.channel, .touch (pluginOf r))]
    | some .clearCommands =>
      match readSwitch r "all" with
      | .ok true => [(now.channel, .clear (pluginOf r))]
      | .ok false => [(now.channel, .pop (pluginOf r))]
      | .error _ => []
    | _ => []

theorem time_of_calls {s : Service τ} {o : Occasion τ} {e : τ × Channel.Call} (h : e ∈ s.calls o) : e.1 = o.now.channel := by
  cases o with
  | sweep now => rw [List.mem_singleton.1 h]; rfl
  | request now r =>
    unfold calls at h
    dsimp only at h
    split at h
    · split at h
      · split at h
        · rw [List.mem_singleton.1 h]; rfl
        · cases h
      · cases h
    · rcases List.mem_cons.1 h with rfl | h
      · rfl
      · rw [List.mem_singleton.1 h]; rfl
    · split at h
      · rw [List.mem_singleton.1 h]; rfl
      · rw [List.mem_singleton.1 h]; rfl
      · cases h
    · cases h

variable [Clock τ] [AddCommGroup τ] [LinearOrder τ] {s s₀ : Service τ} {now : Moment τ} {r : Request} {o : Occasion τ}
  {past : List (Occasion τ)}

/-- All that the channel was called for. -/
def callsOf (s₀ : Service τ) : List (Occasion τ) → Channel.Past τ
  | [] => []
  | o :: past => (after s₀ past).calls o ++ callsOf s₀ past

theorem callsOf_timely {later : τ} (h : (later :: past.map (·.now.channel)).Pairwise (· ≥ ·)) :
    (callsOf s₀ past).Timely later := by
  induction past generalizing later with
  | nil => exact List.pairwise_singleton ..
  | cons o past ih =>
    obtain ⟨hlater, hrest⟩ := List.pairwise_cons.1 h
    obtain ⟨hold, hpast⟩ := List.pairwise_cons.1 (ih hrest)
    have ho : later ≥ o.now.channel := hlater _ List.mem_cons_self
    -- All calls of one occasion are made at one time.
    have hnow : ∀ t ∈ ((after s₀ past).calls o).map (·.1), t = o.now.channel := by
      intro t ht
      obtain ⟨e, he, rfl⟩ := List.mem_map.1 ht
      exact time_of_calls he
    rw [callsOf, Timeline.Timely, List.map_append, List.pairwise_cons, List.pairwise_append]
    refine ⟨fun t ht => ?_, List.pairwise_of_forall_mem_list fun t ht u hu => ?_, hpast, fun t ht u hu => ?_⟩
    · rcases List.mem_append.1 ht with ht | ht
      · rw [hnow t ht]
        exact ho
      · exact (hold t ht).trans ho
    · rw [hnow t ht, hnow u hu]
    · rw [hnow t ht]
      exact hold u hu

section Calls

variable (hclock : ∀ t u : τ, Clock.subtracts t u = true)

include hclock

omit [AddCommGroup τ] [LinearOrder τ] in
theorem tellsExpiry_of_clock (c : Channel τ) (t : τ) (p : String) : c.tellsExpiry t p = true := by
  rw [Channel.tellsExpiry, hclock, Bool.or_true]

theorem evictTold_of_clock (c : Channel τ) (t : τ) : (c.evictTold t).1 = (c.evictExpired t).2 := by
  have hexpiries : c.tellsExpiries t = true := by rw [Channel.tellsExpiries, hclock, Bool.or_true]
  have hconnections : c.tellsConnections t = true := List.all_eq_true.2 fun e _ => hclock t e.2
  rw [Channel.evictTold, hexpiries, hconnections]
  rfl

/-- The channel of a service goes through its calls and nothing else. -/
theorem channel_step (s : Service τ) (o : Occasion τ) : (s.step o).channel = Channel.after s.channel (s.calls o) := by
  cases o with
  | sweep now => exact evictTold_of_clock hclock s.channel now.channel
  | request now r =>
    unfold step calls
    dsimp only
    rcases h : asks r with - | e
    · rw [respond_idle h]
      rfl
    rw [respond_of_asks h]
    cases e with
    | compile => exact compile_channel s
    | pluginStatus => rw [serve, pluginStatus_run]; rfl
    | health | description => rfl
    | pollCommand =>
      rw [serve, pollCommand_run, if_pos (tellsExpiry_of_clock hclock _ _ _)]
      rfl
    | clearCommands =>
      rw [serve, clearCommands_channel]
      rcases readSwitch r "all" with f | _ | _
      · rfl
      · dsimp only
        rw [if_pos (tellsExpiry_of_clock hclock _ _ _)]
        rfl
      · rfl
    | postCommand =>
      rw [serve]
      unfold postCommand
      rcases (readObject r).bind Posting.ofFields with f | p
      · rfl
      dsimp only
      unfold post
      simp only [StateT.run_bind, StateT.run_get, pure_bind]
      cases refusal? s.settings.transcriptLimit p with
      | some refusal => rfl
      | none =>
        dsimp only
        rw [Channel.after, Channel.after, Channel.step]
        rcases s.channel.post now.channel (p.plugin.getD "") (Json.ofOption .str p.transcript) (Json.ofOption .arr p.actions) with
          f | ⟨a, channel⟩ <;> rfl

theorem channel_after (s₀ : Service τ) (past : List (Occasion τ)) :
    (after s₀ past).channel = Channel.after s₀.channel (callsOf s₀ past) := by
  induction past with
  | nil => rfl
  | cons o past ih =>
    rw [after, channel_step hclock, ih, callsOf, Channel.after_append]

end Calls

/-! ### Answers -/

theorem not_head_of_asks {e : Endpoint} (h : asks r = some e) (he : e.accepts "HEAD" = false) : r.method ≠ "HEAD" := fun hm => by
  have ha := hm ▸ accepts_of_asks h
  rw [he] at ha
  cases ha

theorem content_of_poll (ha : asks r = some .pollCommand) (hs : ((respond now r).run s).1.status = 200) :
    ∃ command, ((respond now r).run s).1.content = (Response.ofJson 200 (.obj [("command", command),
      ("pending", Json.ofNat ((s.step (.request now r)).channel.pendingCount (pluginOf r)))])).content := by
  rw [respond_of_asks ha, dress_status] at hs
  have hanswer := (pollCommand_ok hs).2
  rw [step, respond_of_asks ha, dress_content (not_head_of_asks ha rfl), serve, hanswer]
  exact ⟨_, rfl⟩

theorem content_of_post (ha : asks r = some .postCommand) (hs : ((respond now r).run s).1.status = 200) :
    ∃ p transcript actions a, s.calls (.request now r) = [(now.channel, .post p transcript actions)] ∧
      s.channel.post now.channel p transcript actions = .ok (a, (s.step (.request now r)).channel) ∧
      ((respond now r).run s).1.content = (Response.ofJson 200 (.obj [("success", .bool true), ("id", .str a.id),
        ("pending", Json.ofNat ((s.step (.request now r)).channel.pendingCount p))])).content := by
  rw [respond_of_asks ha, dress_status] at hs
  obtain ⟨p, a, hp, hrefusal, hpost, hanswer⟩ := postCommand_ok hs
  refine ⟨p.plugin.getD "", Json.ofOption .str p.transcript, Json.ofOption .arr p.actions, a, ?_, ?_, ?_⟩
  · unfold calls
    simp only [ha, hp, hrefusal]
  · rw [step, respond_of_asks ha]
    exact hpost
  · rw [step, respond_of_asks ha, dress_content (not_head_of_asks ha rfl)]
    exact congrArg Response.content hanswer

variable [IsOrderedAddMonoid τ]

/-- What a poll and a post say of how much waits, in any run. -/
theorem pending_told (h₀ : s₀.channel.pending = []) (hclock : ∀ t u : τ, Clock.subtracts t u = true)
    (hle : (now.channel :: past.map (·.now.channel)).Pairwise (· ≥ ·))
    (hs : ((respond now r).run (after s₀ past)).1.status = 200) :
    let calls := callsOf s₀ (.request now r :: past)
    let posted := Channel.postings s₀.channel calls
    let deliverable (p : String) := posted.countP (Channel.deliverable s₀.channel calls now.channel p)
    let lingering (p : String) := posted.countP (Channel.lingering s₀.channel calls now.channel p)
    let content := ((respond now r).run (after s₀ past)).1.content
    (asks r = some .pollCommand → ∃ command, content = (Response.ofJson 200 (.obj [("command", command),
        ("pending", Json.ofNat (deliverable (pluginOf r)))])).content) ∧
      (asks r = some .postCommand → ∃ a, posted.getLast? = some a ∧ content = (Response.ofJson 200 (.obj [("success", .bool true),
        ("id", .str a.id), ("pending", Json.ofNat (deliverable a.plugin + lingering a.plugin))])).content) := by
  intro calls posted deliverable lingering content
  have hnow : ∀ t ∈ now.channel :: past.map (·.now.channel), now.channel ≥ t := by
    intro t ht
    rcases List.mem_cons.1 ht with rfl | ht
    · exact le_rfl
    · exact (List.pairwise_cons.1 hle).1 t ht
  have hlater : (now.channel :: (Occasion.request now r :: past).map (·.now.channel)).Pairwise (· ≥ ·) :=
    List.pairwise_cons.2 ⟨hnow, hle⟩
  have htimely : calls.Timely now.channel := callsOf_timely hlater
  have hcount (p : String) : ((after s₀ past).step (.request now r)).channel.pendingCount p = deliverable p + lingering p := by
    have hchannel : ((after s₀ past).step (.request now r)).channel = Channel.after s₀.channel calls :=
      channel_after hclock s₀ (.request now r :: past)
    rw [hchannel]
    exact Channel.pendingCount_eq h₀ htimely p
  constructor
  · intro ha
    have hcalls : calls = (now.channel, .peek (pluginOf r)) :: (now.channel, .touch (pluginOf r)) :: callsOf s₀ past := by
      simp only [calls, callsOf, Service.calls, ha, List.cons_append, List.nil_append]
    have hnone : lingering (pluginOf r) = 0 := by
      refine List.countP_eq_zero.2 fun a hposted => Bool.eq_false_iff.1 ?_
      simp only [posted, hcalls] at hposted ⊢
      exact Channel.lingering_looked (decide_eq_true rfl) hposted
    obtain ⟨command, hcontent⟩ := content_of_poll ha hs
    rw [hcount, hnone, Nat.add_zero] at hcontent
    exact ⟨command, hcontent⟩
  · intro ha
    obtain ⟨p, transcript, actions, a, hcalls, hpost, hcontent⟩ := content_of_post ha hs
    have hplugin : a.plugin = p := by rw [(Channel.of_post hpost).1]
    rw [hcount, ← hplugin] at hcontent
    refine ⟨a, ?_, hcontent⟩
    have hmade : (Channel.after s₀.channel (callsOf s₀ past)).made now.channel (.post p transcript actions) = some a := by
      rw [← channel_after hclock, Channel.made, hpost]
      rfl
    have hposted : posted = Channel.postings s₀.channel (callsOf s₀ past) ++ [a] := by
      simp only [posted, calls, callsOf, hcalls, List.cons_append, List.nil_append, Channel.postings, hmade, Option.toList_some]
    rw [hposted, List.getLast?_concat]

/-- A command is posted for a plugin that does not poll; it has expired when the next one is, and is counted with it. -/
theorem pending_told_of_expired :
    let s₀ : Service Int := {
      settings := {}, channel := { ttl := 60, connectionTtl := 5 }, model := { source := .script [] }, limit := 1000 }
    let post (transcript : String) : Request := {
      method := "POST", path := "/api/commands", headers := [("content-type", "application/json")]
      body := "\x7b\"pluginId\":\"p\",\"transcript\":\"" ++ transcript ++ "\"\x7d" }
    let past : List (Occasion Int) := [.request ⟨0, 0⟩ (post "one")]
    let calls := callsOf s₀ (.request ⟨61, 61⟩ (post "two") :: past)
    let posted := Channel.postings s₀.channel calls
    posted.countP (Channel.deliverable s₀.channel calls 61 "p") = 1 ∧
      ∃ id, ((respond ⟨61, 61⟩ (post "two")).run (after s₀ past)).1.content = (Response.ofJson 200 (.obj [("success", .bool true),
        ("id", id), ("pending", Json.ofNat 2)])).content := by
  intro s₀ post past calls posted
  have hdeliverable : posted.countP (Channel.deliverable s₀.channel calls 61 "p") = 1 := by decide +kernel
  have hlingering : posted.countP (Channel.lingering s₀.channel calls 61 "p") = 1 := by decide +kernel
  have hplugin : posted.getLast?.map (·.plugin) = some "p" := by decide +kernel
  have hle : ((61 : Int) :: past.map (·.now.channel)).Pairwise (· ≥ ·) := by decide +kernel
  have hs : ((respond ⟨61, 61⟩ (post "two")).run (after s₀ past)).1.status = 200 := by decide +kernel
  obtain ⟨-, htold⟩ := pending_told rfl (fun _ _ => rfl) hle hs
  obtain ⟨a, hlast, hcontent⟩ := htold (by decide +kernel)
  have ha : a.plugin = "p" := by
    rw [show posted.getLast? = some a from hlast] at hplugin
    exact Option.some.inj hplugin
  have htwo : posted.countP (Channel.deliverable s₀.channel calls 61 a.plugin) +
      posted.countP (Channel.lingering s₀.channel calls 61 a.plugin) = 2 := by rw [ha, hdeliverable, hlingering]
  refine ⟨hdeliverable, .str a.id, hcontent.trans ?_⟩
  rw [← htwo]

end Easel.Service
