import Easel.Console.Session
import Easel.Proofs.Assistant
import Easel.Proofs.Channel
import Easel.Proofs.Document.Aside
import Easel.Service.Endpoints

/-!
The ways of a spoken command to the document. It is compiled where the document is; or a server compiles it and a terminal
carries out the actions that come back; or the actions wait in a channel until it is drained. The document is edited alike.
-/

namespace Easel

namespace Assistant

open Compiler Execution

variable {d : Desk} {h : Host} {transcript : Json} {reply : String} {items : List Fields} {batch : Batch} {report : Report}

/-! ### Compiled here -/

theorem compiled_of_items (hreply : reply? d transcript = some reply) (hitems : Reply.actions reply = .ok items) :
    ∃ batch, compiled d transcript = .ok batch ∧ batch.actions = items.map Action.ofFields := by
  unfold reply? at hreply
  split at hreply
  · rename_i text ht
    cases ha : (d.model.source.answer (Prompt.ofTranscript text)).1 with
    | error e => rw [ha] at hreply; cases hreply
    | ok reply' =>
      rw [ha] at hreply
      cases hreply
      have hc : compiled d transcript = batchOf text reply := by
        rw [compiled, compile_run, ht]
        dsimp only
        rw [ha]
      rw [batchOf, hitems] at hc
      exact ⟨_, hc, rfl⟩
  · cases hreply

theorem execute_run (hx : (Execution.execute {} batch.actions).run d.host = (.ok report, h)) :
    (execute {} batch).run d = (.ok report, { d with host := h }) := by
  rw [execute, onHost_run, hx]

theorem process_run_empty (hq : Quiet d.host) (hb : compiled d transcript = .ok batch) (he : batch.actions = []) :
    ∃ model, (process {} transcript).run d = (.ok { batch := some batch },
      { d with model, host := { d.host with document := d.host.document.notify nothingToDo, calls := d.host.calls + 1 } }) := by
  refine ⟨((Compiler.compile d.limit transcript).run d.model).2, ?_⟩
  unfold process processBy
  rw [run_bind_eq, compile_desk, hb]
  dsimp only
  rw [if_pos (by rw [he]; rfl), run_bind_eq, onHost_run, notify_run hq]
  rfl

theorem process_run_batch (hb : compiled d transcript = .ok batch) (he : batch.actions ≠ [])
    (hx : (Execution.execute {} batch.actions).run d.host = (.ok report, h)) :
    ∃ model, (process {} transcript).run d = (.ok { batch := some batch, report := some report }, { d with model, host := h }) := by
  refine ⟨((Compiler.compile d.limit transcript).run d.model).2, ?_⟩
  unfold process processBy
  rw [run_bind_eq, compile_desk, hb]
  dsimp only
  rw [if_neg (by simpa using he), run_bind_eq, execute, onHost_run, hx]
  rfl

/-! ### Drained -/

section Drain

variable {τ : Type} {command : Command τ}

theorem ofItems?_objects (items : List Fields) (note : Option String) :
    Batch.ofItems? (items.map .obj) note = some { actions := items.map Action.ofFields, transcript := note } := by
  have hmap : (items.map Json.obj).mapM Action.ofJson? = some (items.map Action.ofFields) := by
    induction items with
    | nil => rfl
    | cons fields rest ih => rw [List.map_cons, List.mapM_cons, ih]; rfl
  rw [Batch.ofItems?, hmap]
  rfl

theorem handle_run_items (hc : command.actions = .arr (items.map .obj))
    (hx : (Execution.execute {} (items.map Action.ofFields)).run d.host = (.ok report, h)) :
    ∃ batch, (handle command).run d = (.ok { batch := some batch, report := some report }, { d with host := h }) := by
  refine ⟨{ actions := items.map Action.ofFields, transcript := command.transcript.string? }, ?_⟩
  have hnull : command.actions.isNull = false := by rw [hc]; rfl
  have hmembers : command.actions.members? = some (items.map .obj) := by rw [hc]; rfl
  simp only [handle, hnull, hmembers, ofItems?_objects, Bool.false_eq_true, if_false]
  rw [run_bind_eq, execute_run hx]
  rfl

variable [Clock τ] [Sub τ] [LT τ] [DecidableLT τ] {c : Channel τ} {now : τ} {plugin : String} {outcome : Outcome} {d' : Desk}

/-- Of the two turns one is for the command and one to see that nothing follows. -/
theorem drainUpTo_one (hclock : Clock.subtracts now c.ttl = true)
    (hqueue : (c.queue plugin).dropWhile (c.isExpired now) = [command]) (hrun : (handle command).run d = (.ok outcome, d'))
    (more : Nat) : ∃ c', drainUpTo now plugin (more + 2) [] c d = (.ok [outcome], c', d') := by
  have htells : c.tellsExpiry now plugin = true := by rw [Channel.tellsExpiry, hclock, Bool.or_true]
  have hfirst : c.pop now plugin = (some command, (c.pop now plugin).2) := by
    rw [← Prod.eta (c.pop now plugin), Channel.pop_command, hqueue]
    rfl
  have hleft : (c.pop now plugin).2.queue plugin = [] := by
    rw [Channel.queue_pop, if_pos rfl, hqueue]
    rfl
  generalize (c.pop now plugin).2 = left at hfirst hleft
  have htells' : left.tellsExpiry now plugin = true := by rw [Channel.tellsExpiry, hleft]; rfl
  have hnone : left.pop now plugin = (none, (left.pop now plugin).2) := by
    rw [← Prod.eta (left.pop now plugin), Channel.pop_command, hleft]
    rfl
  refine ⟨(left.pop now plugin).2, ?_⟩
  rw [drainUpTo, htells, hfirst]
  simp only [Bool.not_true, Bool.false_eq_true, if_false, hrun]
  rw [drainUpTo, htells', hnone]
  rfl

/-- One command waits, behind others that have expired at most. -/
theorem drain_one (hclock : Clock.subtracts now c.ttl = true)
    (hqueue : (c.queue plugin).dropWhile (c.isExpired now) = [command]) (hrun : (handle command).run d = (.ok outcome, d')) :
    ∃ c', drain now plugin c d = (.ok [outcome], c', d') := by
  obtain ⟨n, hn⟩ : ∃ n, (c.touch now plugin).pendingCount plugin = n + 1 := by
    refine Nat.exists_eq_succ_of_ne_zero fun h0 => ?_
    have hempty : c.queue plugin = [] := List.length_eq_zero_iff.1 h0
    rw [hempty] at hqueue
    cases hqueue
  rw [drain, hn]
  exact drainUpTo_one (c := c.touch now plugin) hclock hqueue hrun n

end Drain

end Assistant

/-! ### At a terminal -/

namespace Console.Session

open Assistant (execute)

variable {s : Session} {items : List Json} {report : Report} {h : Host} {r r' : Remote} {text : String}

/-- The session when all that was said has been shown. -/
def heard (s : Session) : Session :=
  { s with desk := { s.desk with host := { s.desk.host with document := s.desk.host.document.mute } } }

theorem onDesk_run {α : Type} (m : Assistant.DeskM α) (s : Session) : (onDesk m).run s =
    ((match (m.run s.desk).1 with
      | .ok a => .ok a
      | .error f => .error (.assistant f)), { s with desk := (m.run s.desk).2 }) := by
  have hget : (get : SessionM Session).run s = (.ok s, s) := rfl
  unfold onDesk
  rw [run_bind_ok hget]
  rcases m.run s.desk with ⟨f | a, desk⟩ <;> rfl

theorem notifications_run (s : Session) : ∃ said, notifications.run s = (.ok said, s.heard) := ⟨_, rfl⟩

theorem finish_run (s : Session) (report : Option Report) : ∃ printed, (finish report).run s = (.ok printed, s.heard) := by
  obtain ⟨said, hs⟩ := notifications_run s
  unfold finish
  rw [run_bind_eq, hs]
  dsimp only
  rw [run_bind_eq]
  show ∃ printed, (if s.heard.verbose then _ else _ : SessionM (List String)).run s.heard = (.ok printed, s.heard)
  split <;> exact ⟨_, rfl⟩

theorem runItems_run (hx : (Execution.execute {} (items.map Action.ofJson)).run s.desk.host = (.ok report, h)) :
    ∃ printed, (runItems items).run s = (.ok printed, heard { s with desk := { s.desk with host := h } }) := by
  unfold runItems
  rw [run_bind_eq, onDesk_run, Assistant.execute_run hx]
  exact finish_run _ _

/-- What a terminal does with the actions that a server sends back. -/
theorem runTranscript_remotely (hr : s.remote = some r) (hc : (Remote.compile (.str text)).run r = (.ok (.arr items), r'))
    (hx : (Execution.execute {} (items.map Action.ofJson)).run s.desk.host = (.ok report, h)) :
    ∃ printed, (runTranscript text).run s =
      (.ok printed, heard { s with remote := some r', desk := { s.desk with host := h } }) := by
  obtain ⟨printed, hrun⟩ := runItems_run (s := { s with remote := some r' }) hx
  refine ⟨printed, ?_⟩
  have hget : (get : SessionM Session).run s = (.ok s, s) := rfl
  unfold runTranscript
  rw [run_bind_ok hget, hr]
  dsimp only
  unfold runRemotely
  rw [hc]
  dsimp only
  rw [run_bind_eq]
  exact hrun

end Console.Session

/-- What a terminal reads in the answer of a server. -/
theorem Remote.compile_of_post {r r' : Remote} {transcript found : Json} {fields : Fields}
    (hp : (Remote.post "/api/claude" (.obj [("transcript", transcript)])).run r = (.ok (.obj fields), r'))
    (hf : fields.lookup "actions" = some found) : (Remote.compile transcript).run r = (.ok found, r') := by
  unfold Remote.compile
  rw [run_bind_eq, hp]
  dsimp only
  unfold Remote.field
  dsimp only
  rw [hf]
  rfl

/-! ### Together -/

namespace Assistant

open Compiler Execution

/-- What a server answers for a batch. -/
def served (batch : Batch) : Fields := batch.toFields ++ [("warnings", Json.strings batch.warnings)]

/-- Two runs edited the document alike; if they had anything to do, they also told the user the same and have the same report. -/
def Agree (items : List Fields) (a b : Option Report × Desk) : Prop :=
  a.2.host.document.mute = b.2.host.document.mute ∧
    (items ≠ [] → a.1 = b.1 ∧ a.2.host.document.notifications = b.2.host.document.notifications)

theorem mute_execute_nil {h h' : Host} {report : Report} (hq : Quiet h)
    (hx : (Execution.execute {} []).run h = (.ok report, h')) : h'.document.mute = h.document.mute := by
  have hnil : (Execution.execute {} []) = (do Host.notify ({} : Report).summary; return {}) := rfl
  rw [hnil, run_bind_eq, notify_run hq] at hx
  cases hx
  rfl

variable {τ : Type} [Clock τ] [Sub τ] [LT τ] [DecidableLT τ] {c c' : Channel τ} {command : Command τ} {plugin : String}
  {posted now : τ} {note transcript : Json} {d : Desk} {reply : String} {items : List Fields}

/-- However the actions of a reply come to the document, by its transcript, back from a server or through a channel in which
nothing else waits, they leave the same document and, unless there are none, the same report and messages. -/
theorem entrances_agree (hq : Quiet d.host) (hreply : reply? d transcript = some reply)
    (hitems : Reply.actions reply = .ok items)
    (hpost : c.post posted plugin note (.arr (items.map .obj)) = .ok (command, c')) (hclock : Clock.subtracts now c.ttl = true)
    (hold : ∀ x ∈ c.queue plugin, c.isExpired now x = true) (hnew : c.isExpired now command = false) :
    ∃ batch spoken d₁ report d₂ drained c'' d₃,
      (process {} transcript).run d = (.ok spoken, d₁) ∧ spoken.batch = some batch ∧
      Service.compileResponse (.ok batch) =
        Service.withinHeight (batch.actions.map Action.toFields) (.ofJson 200 (.obj (served batch))) ∧
      (execute {} { actions := (batch.actions.map Action.toJson).map Action.ofJson, transcript := none }).run d =
        (.ok report, d₂) ∧
      drain now plugin c' d = (.ok [drained], c'', d₃) ∧
      Agree items (spoken.report, d₁) (some report, d₂) ∧ Agree items (drained.report, d₃) (some report, d₂) ∧
      -- A terminal that gets the answer of the server shows all messages, and has the same document then.
      ∀ (s : Console.Session) (r r' : Remote) (text : String), s.desk = d → s.remote = some r →
        (Remote.post "/api/claude" (.obj [("transcript", .str text)])).run r = (.ok (.obj (served batch)), r') →
        ∃ printed s', (Console.Session.runTranscript text).run s = (.ok printed, s') ∧
          s'.desk.host.document = d₂.host.document.mute := by
  obtain ⟨batch, hb, ha⟩ := compiled_of_items hreply hitems
  obtain ⟨endings, h₁, hr, hq₁, -⟩ := runActions_quiet {} batch.actions hq
  obtain ⟨h₂, hx⟩ := execute_quiet {} batch.actions hr hq₁
  have hback : (batch.actions.map Action.toJson).map Action.ofJson = batch.actions := by
    rw [List.map_map]
    exact List.map_id'' Action.ofJson_toJson _
  have hqueue : (c'.queue plugin).dropWhile (c'.isExpired now) = [command] := by
    rw [Channel.isExpired_congr (Channel.of_post hpost).2.2, Channel.queue_post hpost, if_pos rfl,
      List.dropWhile_append_of_pos hold, List.dropWhile_cons_of_neg (by rw [hnew]; decide)]
  have hclock' : Clock.subtracts now c'.ttl = true := by rw [(Channel.of_post hpost).2.2, hclock]
  have hactions : command.actions = .arr (items.map .obj) := by rw [(Channel.of_post hpost).1]
  obtain ⟨batch', hdrained⟩ := handle_run_items hactions (ha ▸ hx)
  obtain ⟨c'', hdrain⟩ := drain_one hclock' hqueue hdrained
  have hterminal (s : Console.Session) (r r' : Remote) (text : String) (hs : s.desk = d) (hremote : s.remote = some r)
      (hp : (Remote.post "/api/claude" (.obj [("transcript", .str text)])).run r = (.ok (.obj (served batch)), r')) :
      ∃ printed s', (Console.Session.runTranscript text).run s = (.ok printed, s') ∧
        s'.desk.host.document = h₂.document.mute := by
    subst hs
    have hcompile : (Remote.compile (.str text)).run r = (.ok (.arr (batch.actions.map Action.toJson)), r') :=
      Remote.compile_of_post hp rfl
    obtain ⟨printed, hrun⟩ := Console.Session.runTranscript_remotely hremote hcompile (hback.symm ▸ hx)
    exact ⟨printed, _, hrun, rfl⟩
  have hserved : (execute {} { actions := (batch.actions.map Action.toJson).map Action.ofJson, transcript := none }).run d =
      (.ok (tally endings), { d with host := h₂ }) := execute_run (hback.symm ▸ hx)
  by_cases hnil : items = []
  · have hempty : batch.actions = [] := by rw [ha, hnil]; rfl
    obtain ⟨model, hspoken⟩ := process_run_empty hq hb hempty
    refine ⟨batch, _, _, _, _, _, c'', _, hspoken, rfl, rfl, hserved, hdrain, ⟨?_, fun h => absurd hnil h⟩,
      ⟨rfl, fun h => absurd hnil h⟩, hterminal⟩
    rw [hempty] at hx
    exact (mute_execute_nil hq hx).symm
  · have hsome : batch.actions ≠ [] := by rw [ha]; simpa using hnil
    obtain ⟨model, hspoken⟩ := process_run_batch hb hsome hx
    exact ⟨batch, _, _, _, _, _, c'', _, hspoken, rfl, rfl, hserved, hdrain, ⟨rfl, fun _ => ⟨rfl, rfl⟩⟩,
      ⟨rfl, fun _ => ⟨rfl, rfl⟩⟩, hterminal⟩

/-- Two actions that are not as they should be: one names its operation in the old way and has arguments that are no object and a
target that is no text, the other has a null for an operation. The channel is drained three seconds after they were posted. -/
theorem entrances_agree_on_odd_actions :
    let reply := "\x7b\"actions\": [\x7b\"action\": \"create_frame\", \"args\": [], \"target\": 7\x7d, \x7b\"op\": null\x7d]\x7d"
    let items := (Reply.actions reply).toOption.getD []
    let d : Desk := ⟨{}, { source := .script [.ok reply] }, 1000⟩
    let c : Channel Int := { ttl := 60, connectionTtl := 5 }
    let command : Command Int := ⟨1, "plugin", .null, .arr (items.map .obj), 0⟩
    let c' : Channel Int := { c with pending := [("plugin", [command])], posted := 1 }
    items.length = 2 ∧ c.post 0 "plugin" .null (.arr (items.map .obj)) = .ok (command, c') ∧
      ∃ (batch : Batch) (spoken : Outcome) (d₁ : Desk) (report : Report) (d₂ : Desk) (drained : Outcome) (c'' : Channel Int)
        (d₃ : Desk), (process {} (.str "draw")).run d = (.ok spoken, d₁) ∧
        (execute {} { actions := (batch.actions.map Action.toJson).map Action.ofJson, transcript := none }).run d =
          (.ok report, d₂) ∧
        drain 3 "plugin" c' d = (.ok [drained], c'', d₃) ∧
        Agree items (spoken.report, d₁) (some report, d₂) ∧ Agree items (drained.report, d₃) (some report, d₂) := by
  intro reply items d c command c'
  have hitems : Reply.actions reply = .ok items := by
    have hok : (Reply.actions reply).isOk = true := by decide +kernel
    cases h : Reply.actions reply with
    | error e => rw [h] at hok; cases hok
    | ok found => simp only [items, h]; rfl
  have hlength : items.length = 2 := by
    have hlength : ((Reply.actions reply).toOption.getD []).length = 2 := by decide +kernel
    exact hlength
  have hpost : c.post 0 "plugin" .null (.arr (items.map .obj)) = .ok (command, c') := rfl
  obtain ⟨batch, spoken, d₁, report, d₂, drained, c'', d₃, hspoken, -, -, hserved, hdrained, hagree, hagree', -⟩ :=
    entrances_agree (fun _ => rfl) (show reply? d (.str "draw") = some reply from rfl) hitems hpost rfl
      (fun _ h => by cases h) (show c.isExpired 3 command = false from rfl)
  exact ⟨hlength, hpost, batch, spoken, d₁, report, d₂, drained, c'', d₃, hspoken, hserved, hdrained, hagree, hagree'⟩

end Assistant

end Easel
