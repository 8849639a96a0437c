import Easel.Proofs.Channel
import Easel.Service.Endpoints

/-!
What has happened to a service, the last occasion first: requests came, and now and then it was swept. From that follows what
the service is like, which commands were shown to the clients of plugins, and what was shown to one of them last.
-/

namespace Easel.Service

open Http

/-- What a request comes to, if it is not answered at the door. -/
def asks (r : Request) : Option Endpoint :=
  if (r.header? "origin").isSome && (Sharing.askedMethod r).isSome then none else (endpoint r).toOption

inductive Occasion (τ : Type)
  | request (now : Moment τ) (r : Request)
  | sweep (now : Moment τ)

namespace Occasion

variable {τ : Type}

def now : Occasion τ → Moment τ
  | .request now _ | .sweep now => now

/-- The plugin whose own client asks. Whoever posts a command is not such a client. -/
def client : Occasion τ → Option String
  | .request _ r => if asks r = some .pollCommand ∨ asks r = some .clearCommands then some (pluginOf r) else none
  | .sweep _ => none

end Occasion

variable {τ : Type} {s s₀ : Service τ} {now : Moment τ} {r : Request} {e : Endpoint} {o : Occasion τ}
  {past : List (Occasion τ)} {c : Command τ}

theorem compile_channel (s : Service τ) : ((compile now r).run s).2.channel = s.channel := by
  unfold compile
  split
  · rfl
  split
  · rfl
  simp only [StateT.run_bind, StateT.run_get, pure_bind]
  rcases s.limiter.checkClient now.day (clientOf r) s.settings.requestsPerMinute s.settings.requestsPerDay with
    ⟨_ | refusal, limiter⟩ <;> rfl

theorem postCommand_channel (now : Moment τ) (r : Request) (s : Service τ) : ((postCommand now r).run s).2.channel = s.channel ∨
    ∃ p transcript actions a, s.channel.post now.channel p transcript actions = .ok (a, ((postCommand now r).run s).2.channel) := by
  unfold postCommand
  rcases (readObject r).bind Posting.ofFields with f | p
  · exact .inl rfl
  dsimp only
  unfold post
  simp only [StateT.run_bind, StateT.run_get, pure_bind]
  split
  · exact .inl rfl
  split
  · exact .inl rfl
  · rename_i hp
    exact .inr ⟨_, _, _, _, hp⟩

/-- A post that is answered without an error has put what the body says at the end of a queue, and tells how much waits there. -/
theorem postCommand_ok (h : ((postCommand now r).run s).1.status = 200) :
    ∃ p a, (readObject r).bind Posting.ofFields = .ok p ∧ refusal? s.settings.transcriptLimit p = none ∧
      s.channel.post now.channel (p.plugin.getD "") (Json.ofOption .str p.transcript) (Json.ofOption .arr p.actions) =
        .ok (a, ((postCommand now r).run s).2.channel) ∧
      ((postCommand now r).run s).1 = .ofJson 200 (.obj [("success", .bool true), ("id", .str a.id),
        ("pending", Json.ofNat (((postCommand now r).run s).2.channel.pendingCount (p.plugin.getD "")))]) := by
  have hrefused (f : BodyFault) : f.response.status ≠ 200 := by
    unfold BodyFault.response
    intro hf
    split at hf
    · split at hf <;> cases hf
    · cases hf
  unfold postCommand at h ⊢
  rcases hp : (readObject r).bind Posting.ofFields with f | p <;> rw [hp] at h
  · exact absurd h (hrefused f)
  dsimp only at h ⊢
  unfold post at h ⊢
  simp only [StateT.run_bind, StateT.run_get, pure_bind] at h ⊢
  cases hr : refusal? s.settings.transcriptLimit p with
  | some refusal =>
    rw [hr] at h
    cases h
  | none =>
    rw [hr] at h
    dsimp only at h ⊢
    rcases hc : s.channel.post now.channel (p.plugin.getD "") (Json.ofOption .str p.transcript) (Json.ofOption .arr p.actions) with
      f | ⟨a, channel⟩ <;> rw [hc] at h
    · cases h
    · exact ⟨p, a, rfl, hr, hc, rfl⟩

variable [Clock τ] [Sub τ] [LT τ] [DecidableLT τ]

theorem pollCommand_run (plugin : String) (s : Service τ) : (pollCommand now plugin).run s =
    if s.channel.tellsExpiry now.channel plugin then
      let (command, channel) := (s.channel.touch now.channel plugin).peek now.channel plugin
      let shown := command.map (·.toFields)
      (withinHeight shown.toList (.ofJson 200 (.obj [("command", Json.ofOption .obj shown),
        ("pending", Json.ofNat (channel.pendingCount plugin))])), { s with channel })
    else (.internalError, { s with channel := s.channel.touch now.channel plugin }) := by
  unfold pollCommand
  have ht : (s.channel.touch now.channel plugin).tellsExpiry now.channel plugin = s.channel.tellsExpiry now.channel plugin := rfl
  simp only [StateT.run_bind, StateT.run_get, StateT.run_modify, pure_bind, ht]
  cases s.channel.tellsExpiry now.channel plugin <;> rfl

theorem clearCommands_channel (s : Service τ) : ((clearCommands now r).run s).2.channel =
    match readSwitch r "all" with
    | .error _ => s.channel
    | .ok true => (s.channel.clear (pluginOf r)).2
    | .ok false =>
      if s.channel.tellsExpiry now.channel (pluginOf r) then (s.channel.pop now.channel (pluginOf r)).2 else s.channel := by
  unfold clearCommands
  rcases readSwitch r "all" with f | _ | _
  · rfl
  · simp only [StateT.run_bind, StateT.run_get, pure_bind]
    cases s.channel.tellsExpiry now.channel (pluginOf r) <;> rfl
  · rfl

theorem withinHeight_of_status {records : List Fields} {a : Response} (h : (withinHeight records a).status = 200) :
    withinHeight records a = a := by
  unfold withinHeight at h ⊢
  split
  · rfl
  · rename_i hn
    rw [if_neg hn] at h
    cases h

/-- A poll that is answered without an error shows the command that it leaves at the head of the queue. -/
theorem pollCommand_ok {plugin : String} (h : ((pollCommand now plugin).run s).1.status = 200) :
    ((pollCommand now plugin).run s).2.channel = ((s.channel.touch now.channel plugin).peek now.channel plugin).2 ∧
      ((pollCommand now plugin).run s).1 = .ofJson 200 (.obj [
        ("command", Json.ofOption .obj ((s.channel.peek now.channel plugin).1.map (·.toFields))),
        ("pending", Json.ofNat (((pollCommand now plugin).run s).2.channel.pendingCount plugin))]) := by
  rw [pollCommand_run] at h ⊢
  split
  · rename_i ht
    rw [if_pos ht] at h
    exact ⟨rfl, withinHeight_of_status h⟩
  · rename_i ht
    rw [if_neg ht] at h
    cases h

variable [LE τ] [DecidableLE τ]

def step (s : Service τ) : Occasion τ → Service τ
  | .request now r => ((respond now r).run s).2
  | .sweep now => sweep now s

/-- The command that an occasion shows to the client of a plugin: a poll shows the oldest one, unless it is answered with an
error. -/
def shown? (s : Service τ) : Occasion τ → Option (Command τ)
  | .request now r =>
    if asks r = some .pollCommand ∧ ((respond now r).run s).1.status = 200 then (s.channel.peek now.channel (pluginOf r)).1
    else none
  | .sweep _ => none

def after (s₀ : Service τ) : List (Occasion τ) → Service τ
  | [] => s₀
  | o :: past => (after s₀ past).step o

/-- All commands that were ever shown. -/
def delivered (s₀ : Service τ) : List (Occasion τ) → List (Command τ)
  | [] => []
  | o :: past => ((after s₀ past).shown? o).toList ++ delivered s₀ past

/-- What the last request of a plugin's client showed to it. -/
def lastShown? (s₀ : Service τ) (plugin : String) : List (Occasion τ) → Option (Command τ)
  | [] => none
  | o :: past => if o.client = some plugin then (after s₀ past).shown? o else lastShown? s₀ plugin past

/-- How the answer of an endpoint leaves the service. -/
def dress (r : Request) (a : Response) : Response :=
  let a := if (r.header? "origin").isNone || a.status = 500 then a else Sharing.mark a
  if r.method = "HEAD" then { a with content := .text "" } else a

theorem dress_status (r : Request) (a : Response) : (dress r a).status = a.status := by
  unfold dress
  dsimp only
  split <;> split <;> rfl

theorem dress_content (h : r.method ≠ "HEAD") (a : Response) : (dress r a).content = a.content := by
  unfold dress
  dsimp only
  rw [if_neg h]
  split <;> rfl

theorem endpoint_of_asks (h : asks r = some e) : endpoint r = .ok e := by
  unfold asks at h
  split at h
  · cases h
  · rcases hr : endpoint r with a | e' <;> rw [hr] at h <;> cases h
    rfl

theorem respond_of_asks (h : asks r = some e) (s : Service τ) :
    (respond now r).run s = (dress r ((serve now r e).run s).1, ((serve now r e).run s).2) := by
  have hd : dispatch now r = serve now r e := by
    unfold dispatch
    rw [endpoint_of_asks h]
  unfold respond shared dress
  rw [hd]
  rcases ho : r.header? "origin" with - | origin
  · rfl
  · have hn : Sharing.askedMethod r = none := by
      simp only [asks, ho, Option.isSome_some, Bool.true_and] at h
      split at h
      · cases h
      · exact Option.not_isSome_iff_eq_none.mp ‹_›
    rw [hn]
    simp only [Option.isNone_some, Bool.false_or, decide_eq_true_eq]
    rfl

theorem respond_idle (h : asks r = none) (s : Service τ) : ((respond now r).run s).2 = s := by
  unfold respond shared dispatch
  unfold asks at h
  rcases ho : r.header? "origin" with - | origin <;> rcases he : endpoint r with a | e <;>
    simp only [ho, he, Option.isSome_none, Option.isSome_some, Bool.false_and, Bool.true_and, Except.toOption] at h
  · rfl
  · cases h
  · rcases Sharing.askedMethod r <;> rfl
  · rcases hm : Sharing.askedMethod r with - | method
    · rw [hm] at h
      cases h
    · rfl

theorem accepts_of_asks (h : asks r = some e) : e.accepts r.method := by
  have he := endpoint_of_asks h
  unfold endpoint at he
  split at he
  · rename_i e' hf
    cases he
    have hp := List.find?_some hf
    exact ((Bool.and_eq_true _ _).mp hp).2
  · split at he
    · cases he
    · split at he <;> cases he

omit [LT τ] [DecidableLT τ] in
theorem pluginStatus_run (s : Service τ) : ((pluginStatus now).run s).2 = s := by
  unfold pluginStatus
  simp only [StateT.run_bind, StateT.run_get, pure_bind]
  cases s.channel.tellsConnections now.channel <;> rfl

theorem step_does (s : Service τ) (o : Occasion τ) : Channel.Does o.now.channel s.channel o.client (s.step o).channel := by
  cases o with
  | sweep now => exact .sweeps
  | request now r =>
    unfold step Occasion.client Occasion.now
    dsimp only
    rcases h : asks r with - | e
    · rw [respond_idle h]
      exact .nothing
    rw [respond_of_asks h]
    cases e with
    | compile => rw [serve, compile_channel]; exact .nothing
    | postCommand =>
      rcases postCommand_channel now r s with hc | ⟨p, transcript, actions, a, hc⟩
      · rw [serve, hc]; exact .nothing
      · exact .posts p hc
    | pollCommand =>
      rw [if_pos (.inl rfl), serve, pollCommand_run]
      split
      · exact .polls (pluginOf r)
      · exact .touches (pluginOf r)
    | clearCommands =>
      rw [if_pos (.inr rfl), serve, clearCommands_channel]
      split
      · exact .nothing
      · exact .clears (pluginOf r)
      · split
        · exact .acknowledges (pluginOf r)
        · exact .nothing
    | pluginStatus =>
      rw [serve, pluginStatus_run]
      exact .nothing
    | health => exact .nothing
    | description => exact .nothing

theorem shown?_eq_some (h : s.shown? o = some c) : ∃ now r, o = .request now r ∧ asks r = some .pollCommand ∧
    ((pollCommand now (pluginOf r)).run s).1.status = 200 ∧ (s.channel.peek now.channel (pluginOf r)).1 = some c := by
  cases o with
  | sweep now => cases h
  | request now r =>
    unfold shown? at h
    dsimp only at h
    split at h
    · rename_i hr
      obtain ⟨ha, hs⟩ := hr
      rw [respond_of_asks ha, dress_status] at hs
      exact ⟨now, r, rfl, ha, hs, h⟩
    · cases h

/-- The answer of a poll tells what it shows. -/
theorem content_of_shown? (h : s.shown? (.request now r) = some c) : ∃ pending, ((respond now r).run s).1.content =
    (Response.ofJson 200 (.obj [("command", .obj c.toFields), ("pending", pending)])).content := by
  obtain ⟨_, _, ⟨⟩, ha, hs, hp⟩ := shown?_eq_some h
  -- To a request for the head alone the answer would be empty.
  have hm : r.method ≠ "HEAD" := fun hm => absurd (hm ▸ accepts_of_asks ha) (by decide)
  rw [respond_of_asks ha, dress_content hm, serve, (pollCommand_ok hs).2, hp]
  exact ⟨_, rfl⟩

/-- What is shown stays at the head of its queue. -/
theorem queue_of_shown? (h : s.shown? o = some c) (ho : s.channel.Ordered) :
    o.client = some c.plugin ∧ c ∈ s.channel.queue c.plugin ∧ ∃ rest, (s.step o).channel.queue c.plugin = c :: rest := by
  obtain ⟨now, r, rfl, ha, hs, hp⟩ := shown?_eq_some h
  have hq : (s.step (.request now r)).channel.queue (pluginOf r) =
      (s.channel.queue (pluginOf r)).dropWhile (s.channel.isExpired now.channel) := by
    unfold step
    dsimp only
    rw [respond_of_asks ha, serve, (pollCommand_ok hs).1, Channel.queue_peek, if_pos rfl]
  rw [Channel.peek_command] at hp
  obtain ⟨rest, hr⟩ := List.head?_eq_some_iff.mp hp
  have hm : c ∈ s.channel.queue (pluginOf r) := (List.dropWhile_suffix _).mem (hr ▸ List.mem_cons_self)
  rw [((ho _).2 c hm).1]
  exact ⟨if_pos (.inl ha), hm, rest, hq.trans hr⟩

end Easel.Service
