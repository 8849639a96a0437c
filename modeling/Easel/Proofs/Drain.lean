import Easel.Proofs.Entrances

/-!
Draining a channel. What waits for a plugin and has not expired is handled one command after the other, each on what those before
it have left. Only a failure ends that early, and then all that waited behind the command that failed is still there.
-/

namespace Easel

namespace Channel

variable {τ : Type} {c c' : Channel τ} {plugin : String}

/-- Nobody has polled, and only one queue differs. -/
def SameBut (plugin : String) (c c' : Channel τ) : Prop :=
  c'.lastSeen = c.lastSeen ∧ ∀ q, q ≠ plugin → c'.queue q = c.queue q

theorem SameBut.trans {c'' : Channel τ} (h : SameBut plugin c c') (h' : SameBut plugin c' c'') : SameBut plugin c c'' :=
  ⟨h'.1.trans h.1, fun q hq => (h'.2 q hq).trans (h.2 q hq)⟩

variable [Sub τ] [LT τ] [DecidableLT τ] {now : τ}

/-- The commands for a plugin that have not expired, also those that wait behind expired ones. -/
def live (c : Channel τ) (now : τ) (plugin : String) : List (Command τ) :=
  (c.queue plugin).filter (!c.isExpired now ·)

theorem live_expired {expired : List (Command τ)} (h : ∀ a ∈ expired, c.isExpired now a = true) :
    expired.filter (!c.isExpired now ·) = [] := List.filter_eq_nil_iff.2 fun a ha => by simp [h a ha]

theorem sameBut_pop (c : Channel τ) (now : τ) (plugin : String) : SameBut plugin c (c.pop now plugin).2 :=
  ⟨rfl, fun q hq => by rw [queue_pop, if_neg hq]⟩

/-- Either all has expired and is gone, or the first command that has not expired comes out and leaves those behind it. -/
theorem pop_cases (c : Channel τ) (now : τ) (plugin : String) :
    (∃ c₁, c.pop now plugin = (none, c₁) ∧ c.live now plugin = [] ∧ c₁.queue plugin = []) ∨
      ∃ command expired c₁, c.pop now plugin = (some command, c₁) ∧ c.queue plugin = expired ++ command :: c₁.queue plugin ∧
        (∀ a ∈ expired, c.isExpired now a = true) ∧ c.isExpired now command = false ∧ c₁.ttl = c.ttl := by
  have hcommand : (c.pop now plugin).1 = _ := pop_command plugin
  have hleft : (c.pop now plugin).2.queue plugin = _ := (queue_pop plugin plugin).trans (if_pos rfl)
  cases hq : (c.queue plugin).dropWhile (c.isExpired now) with
  | nil =>
    rw [hq] at hcommand hleft
    exact .inl ⟨_, Prod.ext hcommand rfl, live_expired (List.dropWhile_eq_nil_iff.1 hq), hleft⟩
  | cons command rest =>
    have hsplit := (c.queue plugin).takeWhile_append_dropWhile (p := c.isExpired now)
    have halive := List.head?_dropWhile_not (c.isExpired now) (c.queue plugin)
    rw [hq] at hcommand hleft hsplit halive
    refine .inr ⟨command, (c.queue plugin).takeWhile (c.isExpired now), _, Prod.ext hcommand rfl, ?_,
      fun a ha => List.mem_takeWhile_imp ha, halive, rfl⟩
    rw [hleft]
    exact hsplit.symm

end Channel

namespace Assistant

open Compiler Execution

/-- Whatever the program does and however it ends, `P` is kept. -/
def Keeps (P : Desk → Prop) (m : DeskM α) : Prop := Leads P m (fun _ => P) fun _ => P

section Keeping

variable {P : Desk → Prop} {τ : Type}

theorem process_leads {Q : Desk → Prop} {transcript : Json} (hcompile : Leads P (compile transcript) (fun _ => Q) fun _ => Q)
    (hnotify : ∀ text, Keeps Q (onHost (Host.notify text))) (hexecute : ∀ batch, Keeps Q (execute {} batch)) :
    Leads P (process {} transcript) (fun _ => Q) fun _ => Q := by
  refine .bind hcompile fun compiled => ?_
  split
  · split
    · exact .bind (hnotify _) fun _ => .pure fun _ h => h
    · exact .bind (hexecute _) fun _ => .pure fun _ h => h
  · exact .bind (hnotify _) fun _ => .pure fun _ h => h
  · exact .throw fun _ h => h

theorem Keeps.handle (hmodel : ∀ d model, P d → P { d with model }) (hnotify : ∀ text, Keeps P (onHost (Host.notify text)))
    (hexecute : ∀ batch, Keeps P (execute {} batch)) (command : Command τ) : Keeps P (handle command) := by
  have hcompile (transcript : Json) : Keeps P (compile transcript) := by
    intro d hd
    rw [compile_desk]
    exact hmodel d _ hd
  unfold Assistant.handle
  split
  · exact process_leads (hcompile _) hnotify hexecute
  · split
    · exact .throw fun _ h => h
    · split
      · exact .throw fun _ h => h
      · exact .bind (hexecute _) fun _ => .pure fun _ h => h

theorem onHost_keeps_limit {limit : Int} (m : HostM α) : Keeps (·.limit = limit) (onHost m) := by
  intro d hd
  rw [onHost_run]
  rcases m.run d.host with ⟨_ | _, h⟩ <;> exact hd

/-- Nobody who handles commands moves the limit of the compiler. -/
theorem handle_keeps_limit (limit : Int) (command : Command τ) : Keeps (·.limit = limit) (handle command) :=
  .handle (fun _ _ h => h) (fun _ => onHost_keeps_limit _) (fun _ => onHost_keeps_limit _) command

theorem execute_heard (options : ExecutionOptions) (actions : List Action) {h : Host} (hq : Quiet h) :
    ∃ report h', (Execution.execute options actions).run h = (.ok report, h') ∧ Quiet h' := by
  obtain ⟨endings, h₁, hr, hq₁, -⟩ := runActions_quiet options actions hq
  unfold Execution.execute
  rw [run_bind_eq, hr]
  dsimp only
  split
  · obtain ⟨h₂, hn, hq₂⟩ := notify_quiet hq₁ (tally endings).summary
    rw [run_bind_eq, hn]
    exact ⟨_, _, rfl, hq₂⟩
  · exact ⟨_, _, rfl, hq₁⟩

theorem handle_keeps_quiet (command : Command τ) : Keeps (fun d => Quiet d.host) (handle command) := by
  refine .handle (fun _ _ h => h) (fun text d hq => ?_) (fun batch d hq => ?_) command
  · rw [onHost_run, notify_run hq]
    exact hq
  · obtain ⟨report, h', hx, hq'⟩ := execute_heard {} batch.actions hq
    rw [execute, onHost_run, hx]
    exact hq'

end Keeping

section Turns

variable {τ : Type} {command : Command τ} {commands : List (Command τ)} {outcome : Outcome} {outcomes : List Outcome}
  {d d' : Desk}

/-- One command on its own: what was spoken is processed, and actions that came with it are carried out. -/
inductive Handled (command : Command τ) (d : Desk) : Outcome → Desk → Prop
  | spoken {outcome : Outcome} {d' : Desk} (hnone : command.actions = .null)
      (hrun : (process {} command.transcript).run d = (.ok outcome, d')) : Handled command d outcome d'
  | ready {items : List Json} {batch : Batch} {report : Report} {d' : Desk} (hitems : command.actions.members? = some items)
      (hbatch : Batch.ofItems? items command.transcript.string? = some batch)
      (hrun : (execute {} batch).run d = (.ok report, d')) :
      Handled command d { batch := some batch, report := some report } d'

theorem handle_spoken (h : command.actions = .null) : handle command = process {} command.transcript := by
  rw [handle, h]
  rfl

theorem handle_ready {items : List Json} {batch : Batch} (hitems : command.actions.members? = some items)
    (hbatch : Batch.ofItems? items command.transcript.string? = some batch) : handle command = (do
      let report ← execute {} batch
      return { batch := some batch, report := some report }) := by
  have hnull : command.actions.isNull = false := by
    cases h : command.actions <;> rw [h] at hitems <;> first | rfl | cases hitems
  simp only [handle, hnull, hitems, hbatch, Bool.false_eq_true, if_false]

theorem handled_iff : Handled command d outcome d' ↔ (handle command).run d = (.ok outcome, d') := by
  constructor
  · rintro (⟨hnone, hrun⟩ | ⟨hitems, hbatch, hrun⟩)
    · rw [handle_spoken hnone, hrun]
    · rw [handle_ready hitems hbatch, run_bind_ok hrun]
      rfl
  · intro h
    by_cases hnull : command.actions = .null
    · rw [handle_spoken hnull] at h
      exact .spoken hnull h
    · have hgiven : command.actions.isNull = false := by
        cases ha : command.actions <;> first | rfl | exact absurd ha hnull
      cases hitems : command.actions.members? with
      | none =>
        simp only [handle, hgiven, hitems, Bool.false_eq_true, if_false] at h
        cases h
      | some items =>
        cases hbatch : Batch.ofItems? items command.transcript.string? with
        | none =>
          simp only [handle, hgiven, hitems, hbatch, Bool.false_eq_true, if_false] at h
          cases h
        | some batch =>
          rw [handle_ready hitems hbatch, run_bind_eq] at h
          rcases hrun : (execute {} batch).run d with ⟨e | report, d₁⟩ <;> rw [hrun] at h <;> cases h
          exact .ready hitems hbatch hrun

/-- Commands handled one at a time, each where the one before it has led. -/
inductive InTurn : Desk → List (Command τ) → List Outcome → Desk → Prop
  | nil {d : Desk} : InTurn d [] [] d
  | cons {command : Command τ} {commands : List (Command τ)} {outcome : Outcome} {outcomes : List Outcome} {d d₁ d' : Desk}
      (first : Handled command d outcome d₁) (rest : InTurn d₁ commands outcomes d') :
      InTurn d (command :: commands) (outcome :: outcomes) d'

namespace InTurn

theorem length (h : InTurn d commands outcomes d') : outcomes.length = commands.length := by
  induction h with
  | nil => rfl
  | cons _ _ ih => rw [List.length_cons, List.length_cons, ih]

theorem keeps {P : Desk → Prop} (hP : ∀ command : Command τ, Keeps P (handle command)) (h : InTurn d commands outcomes d')
    (hd : P d) : P d' := by
  induction h with
  | nil => exact hd
  | @cons command _ _ _ d _ _ first _ ih =>
    have hfirst := hP command d hd
    rw [handled_iff.1 first] at hfirst
    exact ih hfirst

end InTurn

/-- The actions of a command, if it has any, make a batch. -/
def WellPosted (command : Command τ) : Prop :=
  command.actions = .null ∨
    ∃ items batch, command.actions.members? = some items ∧ Batch.ofItems? items command.transcript.string? = some batch

/-- Compiling ends in a batch or in an error for the user. -/
def Settles (d : Desk) (transcript : Json) : Prop :=
  (∃ batch, compiled d transcript = .ok batch) ∨ ∃ e, compiled d transcript = .error (.command e)

theorem handle_settled (hq : Quiet d.host) (hposted : WellPosted command)
    (hsettles : command.actions = .null → Settles d command.transcript) :
    ∃ outcome d', (handle command).run d = (.ok outcome, d') := by
  have hreturns (h : ∃ outcome, ((handle command).run d).1 = .ok outcome) :
      ∃ outcome d', (handle command).run d = (.ok outcome, d') := by
    obtain ⟨outcome, h⟩ := h
    exact ⟨outcome, _, Prod.ext h rfl⟩
  rcases hposted with hnull | ⟨items, batch, hitems, hbatch⟩
  · refine hreturns ?_
    rw [handle_spoken hnull]
    rcases hsettles hnull with ⟨batch, hb⟩ | ⟨e, he⟩
    · exact process_ok hq hb
    · exact ⟨_, (process_error hq he).1⟩
  · obtain ⟨report, h', hx, -⟩ := execute_heard {} batch.actions hq
    have hrun : (execute {} batch).run d = (.ok report, { d with host := h' }) := execute_run hx
    exact ⟨_, _, handled_iff.1 (.ready hitems hbatch hrun)⟩

end Turns

section Drain

variable {τ : Type} [Sub τ] [LT τ] [DecidableLT τ] {now : τ} {plugin : String} {c c₁ c' : Channel τ} {command : Command τ}
  {outcome : Outcome} {d d₁ d' : Desk} {result : Except Failure (List Outcome)}

/-- A drain comes to the command with the desk at `d₁`. -/
def Delivers (now : τ) (plugin : String) (c : Channel τ) (d : Desk) (command : Command τ) (d₁ : Desk) : Prop :=
  ∃ front back outcomes, c.live now plugin = front ++ command :: back ∧ InTurn d front outcomes d₁

/-- Where a drain leaves the channel and the desk. -/
inductive Ends (now : τ) (plugin : String) (c : Channel τ) (d : Desk) :
    Except Failure (List Outcome) → Channel τ → Desk → Prop
  | all {outcomes : List Outcome} {c' : Channel τ} {d' : Desk} (handled : InTurn d (c.live now plugin) outcomes d')
      (left : c'.queue plugin = []) : Ends now plugin c d (.ok outcomes) c' d'
  /-- Those before the command that fails are handled, and those behind it wait. -/
  | stopped {before : List (Command τ)} {command : Command τ} {outcomes : List Outcome} {d₁ : Desk} {e : Failure}
      {c' : Channel τ} {d' : Desk} (queued : c.queue plugin = before ++ command :: c'.queue plugin)
      (alive : c.isExpired now command = false) (handled : InTurn d (before.filter (!c.isExpired now ·)) outcomes d₁)
      (fails : (handle command).run d₁ = (.error e, d')) : Ends now plugin c d (.error e) c' d'

theorem Ends.next {expired : List (Command τ)} (h : Ends now plugin c₁ d₁ result c' d') (httl : c₁.ttl = c.ttl)
    (hqueue : c.queue plugin = expired ++ command :: c₁.queue plugin) (hexpired : ∀ a ∈ expired, c.isExpired now a = true)
    (halive : c.isExpired now command = false) (hfirst : Handled command d outcome d₁) :
    Ends now plugin c d (result.map (outcome :: ·)) c' d' := by
  have hsame : c₁.isExpired now = c.isExpired now := Channel.isExpired_congr httl
  have hfilter (behind : List (Command τ)) : (expired ++ command :: behind).filter (!c.isExpired now ·) =
      command :: behind.filter (!c.isExpired now ·) := by
    rw [List.filter_append, Channel.live_expired hexpired, List.nil_append, List.filter_cons_of_pos (by simp [halive])]
  cases h with
  | all handled left =>
    rw [Channel.live, hsame] at handled
    refine .all ?_ left
    rw [Channel.live, hqueue, hfilter]
    exact .cons hfirst handled
  | @stopped before command' outcomes d₂ _ _ _ queued alive handled fails =>
    rw [hsame] at alive handled
    have hqueued : c.queue plugin = (expired ++ command :: before) ++ command' :: c'.queue plugin := by
      rw [hqueue, queued, List.append_assoc, List.cons_append]
    have hhandled : InTurn d ((expired ++ command :: before).filter (!c.isExpired now ·)) (outcome :: outcomes) d₂ := by
      rw [hfilter]
      exact .cons hfirst handled
    exact .stopped hqueued alive hhandled fails

theorem Ends.delivers_of_error {e : Failure} (h : Ends now plugin c d (.error e) c' d') :
    ∃ command d₁, Delivers now plugin c d command d₁ ∧ (handle command).run d₁ = (.error e, d') := by
  cases h with
  | @stopped before command outcomes d₁ _ _ _ queued alive handled fails =>
    refine ⟨command, d₁, ⟨_, (c'.queue plugin).filter (!c.isExpired now ·), outcomes, ?_, handled⟩, fails⟩
    rw [Channel.live, queued, List.filter_append, List.filter_cons_of_pos (by simp [alive])]

/-- What a drain comes to if it can be told what has expired. -/
structure Drained (now : τ) (plugin : String) (c : Channel τ) (d : Desk) (result : Except Failure (List Outcome))
    (c' : Channel τ) (d' : Desk) : Prop where
  ends : Ends now plugin c d result c' d'
  ordered : c.Ordered → (c.live now plugin).Pairwise (·.number < ·.number)
  counted : ∀ outcomes, result = .ok outcomes → outcomes.length = (c.live now plugin).length
  seen : c'.lastSeen.lookup plugin = some now
  others : ∀ q, q ≠ plugin → c'.queue q = c.queue q ∧ c'.lastSeen.lookup q = c.lastSeen.lookup q
  /-- No command fails if each has proper actions or a transcript that can be compiled, wherever its turn has led. -/
  returns : Quiet d.host → (∀ command d₁, Delivers now plugin c d command d₁ →
    WellPosted command ∧ (command.actions = .null → Settles d₁ command.transcript)) → ∃ outcomes, result = .ok outcomes

/-- A poll comes before anything is taken out. -/
theorem Ends.drained (h : Ends now plugin (c.touch now plugin) d result c' d')
    (helse : Channel.SameBut plugin (c.touch now plugin) c') : Drained now plugin c d result c' d' where
  ends := by
    cases h with
    | all handled left => exact .all handled left
    | stopped queued alive handled fails => exact .stopped queued alive handled fails
  ordered ho := (ho plugin).1.filter _
  counted outcomes ho := by
    cases h with
    | all handled => exact Except.ok.inj ho ▸ handled.length
    | stopped => cases ho
  seen := by rw [helse.1, Channel.touch, Keyed.lookup_put, if_pos rfl]
  others q hq := ⟨helse.2 q hq, by rw [helse.1, Channel.touch, Keyed.lookup_put, if_neg hq]⟩
  returns hq hproper := by
    cases result with
    | ok outcomes => exact ⟨outcomes, rfl⟩
    | error e =>
      obtain ⟨command, d₁, hdelivers, hfails⟩ := h.delivers_of_error
      obtain ⟨hposted, hsettles⟩ := hproper command d₁ hdelivers
      obtain ⟨front, back, outcomes, -, hfront⟩ := hdelivers
      obtain ⟨outcome, d₂, hrun⟩ := handle_settled (hfront.keeps handle_keeps_quiet hq) hposted hsettles
      rw [hfails] at hrun
      cases hrun

variable [Clock τ]

theorem drainUpTo_ends (now : τ) (plugin : String) (most : Nat) : ∀ (done : List Outcome) {c : Channel τ} {d : Desk},
    c.tellsExpiry now plugin = true → c.pendingCount plugin < most → ∃ result c' d',
      drainUpTo now plugin most done c d = (result.map (done ++ ·), c', d') ∧ Ends now plugin c d result c' d' ∧
        Channel.SameBut plugin c c' := by
  induction most with
  | zero => exact fun _ _ _ _ h => absurd h (Nat.not_lt_zero _)
  | succ most ih =>
    intro done c d htells hmost
    have helse := Channel.sameBut_pop c now plugin
    rw [drainUpTo, htells]
    simp only [Bool.not_true, Bool.false_eq_true, if_false]
    rcases Channel.pop_cases c now plugin with ⟨c₁, hpop, hlive, hleft⟩ |
        ⟨command, expired, c₁, hpop, hqueue, hexpired, halive, httl⟩ <;> rw [hpop] at helse ⊢ <;> dsimp only at helse ⊢
    · refine ⟨.ok [], c₁, d, by rw [Except.map, List.append_nil], .all ?_ hleft, helse⟩
      rw [hlive]
      exact .nil
    · rcases hrun : (handle command).run d with ⟨e | outcome, d₁⟩
      · have hnone : InTurn d (expired.filter (!c.isExpired now ·)) [] d := by
          rw [Channel.live_expired hexpired]
          exact .nil
        exact ⟨.error e, c₁, d₁, rfl, .stopped hqueue halive hnone hrun, helse⟩
      · -- An empty queue can always be told; here something waited, so it was the clock that could tell.
        have htells₁ : c₁.tellsExpiry now plugin = true := by
          have hclock : Clock.subtracts now c.ttl = true := by simpa [Channel.tellsExpiry, hqueue] using htells
          rw [Channel.tellsExpiry, httl, hclock, Bool.or_true]
        -- Whatever has expired, at least the command that came out is gone, so the room suffices for the rest.
        have hless : c₁.pendingCount plugin < most := by
          rw [Channel.pendingCount, hqueue, List.length_append, List.length_cons] at hmost
          rw [Channel.pendingCount]
          omega
        obtain ⟨result, c', d', hdrain, hends, helse'⟩ := ih (done ++ [outcome]) (d := d₁) htells₁ hless
        refine ⟨result.map (outcome :: ·), c', d', ?_, hends.next httl hqueue hexpired halive (handled_iff.2 hrun),
          helse.trans helse'⟩
        dsimp only
        rw [hdrain]
        cases result <;> simp [Except.map]

/-- Whatever waits in a channel, what a drain handles are the commands of the plugin that have not expired, each once and in the
order of the queue; if it cannot be told which ones have, it handles none and all wait. -/
theorem drain_in_turn (now : τ) (plugin : String) (c : Channel τ) (d : Desk) :
    let drained := drain now plugin c d
    (c.tellsExpiry now plugin = true → Drained now plugin c d drained.1 drained.2.1 drained.2.2) ∧
      (c.tellsExpiry now plugin = false → drained = (.error .clock, c.touch now plugin, d)) := by
  have htouch : (c.touch now plugin).tellsExpiry now plugin = c.tellsExpiry now plugin := rfl
  refine ⟨fun htells => ?_, fun htells => ?_⟩
  · obtain ⟨result, c', d', hdrain, hends, helse⟩ :=
      drainUpTo_ends now plugin _ [] (d := d) (htouch.trans htells) (Nat.lt_succ_self _)
    have hresult : drain now plugin c d = (result, c', d') := by
      rw [drain, hdrain]
      cases result <;> rfl
    rw [hresult]
    exact hends.drained helse
  · rw [drain, drainUpTo, htouch, htells]
    rfl

/-- The first command has expired, the second one brings no actions, and for the third one there is no reply. -/
theorem drain_in_turn_until_failure :
    let first : Command Int := ⟨1, "p", .str "late", .null, 0⟩
    let second : Command Int := ⟨2, "p", .null, .arr [], 10⟩
    let third : Command Int := ⟨3, "p", .str "draw", .null, 20⟩
    let fourth : Command Int := ⟨4, "p", .str "draw", .null, 30⟩
    let c : Channel Int := { ttl := 60, connectionTtl := 5, pending := [("p", [first, second, third, fourth])], posted := 4 }
    let d : Desk := ⟨{}, { source := .script [] }, 1000⟩
    let drained := drain 61 "p" c d
    c.tellsExpiry 61 "p" = true ∧ c.live 61 "p" = [second, third, fourth] ∧
      Drained 61 "p" c d drained.1 drained.2.1 drained.2.2 ∧ drained.1 = .error (.compile (.model (.other "no scripted reply"))) ∧
      drained.2.1.queue "p" = [fourth] ∧ drained.2.2.host.document.notifications.length = 1 :=
  ⟨rfl, rfl, (drain_in_turn 61 "p" _ _).1 rfl, rfl, rfl, rfl⟩

end Drain

end Assistant
end Easel
