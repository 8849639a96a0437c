import Easel.Proofs.Drain
import Easel.Proofs.Execution.Backlog

/-!
What the lines of a session have its document do, whatever is shown of it. It does not depend on whether the messages of earlier lines
were shown.
-/

namespace Easel

open Execution

/-- The desk with other messages in front of those of its document. -/
def Desk.behind (backlog : List String) (d : Desk) : Desk := { d with host := d.host.behind backlog }

namespace Assistant

variable {α : Type} {backlog : List String} {d : Desk} {transcript : Json}

abbrev Heedless (backlog : List String) (m : DeskM α) : Prop := Parallel (fun d e => e = Desk.behind backlog d) m

theorem onHost_heedless {m : HostM α} (hm : Host.Heedless backlog m) : Heedless backlog (onHost m) := by
  rintro d _ rfl
  obtain ⟨hanswer, hhost⟩ := hm d.host _ rfl
  rw [onHost_run, onHost_run]
  dsimp only [Desk.behind]
  rw [hanswer, hhost]
  exact ⟨rfl, rfl⟩

theorem execute_heedless (batch : Batch) : Heedless backlog (execute {} batch) :=
  onHost_heedless (Execution.execute_heedless {} batch.actions)

theorem process_heedless (transcript : Json) : Heedless backlog (process {} transcript) := by
  have hcompile : Heedless backlog (compile transcript) := by
    rintro d _ rfl
    exact ⟨rfl, rfl⟩
  have hnotify (message : String) : Heedless backlog (onHost (Host.notify message)) := onHost_heedless (.notify message)
  apply hcompile.bind
  intro compiled
  split
  · split
    · exact .bind (hnotify _) fun _ => .pure _
    · exact .bind (execute_heedless _) fun _ => .pure _
  · exact .bind (hnotify _) fun _ => .pure _
  · exact .throw _

/-- A transcript that ends in a failure has told the user nothing. -/
theorem host_of_process_error {f : Failure} (hq : Quiet d.host) (hf : ((process {} transcript).run d).1 = .error f) :
    ((process {} transcript).run d).2.host = d.host := by
  cases hc : compiled d transcript with
  | ok batch =>
    obtain ⟨outcome, ho⟩ : ∃ outcome, ((process {} transcript).run d).1 = .ok outcome := process_ok hq hc
    rw [ho] at hf
    cases hf
  | error e =>
    cases e with
    | command e =>
      rw [(process_error hq hc).1] at hf
      cases hf
    | numeralTooLong | model =>
      unfold process processBy
      rw [run_bind_eq, compile_desk, hc]
      rfl

section Steady

variable {R : Host → Host → Prop} {h : Host}

theorem onHost_keeps (hR : Host.Stepwise R) {m : HostM α} (hm : ∀ g, R g (m.run g).2) :
    Keeps (fun d => R h d.host) (onHost m) := by
  intro d hd
  have hrun := hm d.host
  rw [onHost_run]
  rcases hr : m.run d.host with ⟨e | a, g⟩ <;> rw [hr] at hrun <;> exact hR.trans hd hrun

theorem execute_keeps (hR : Host.Stepwise R) (batch : Batch) : Keeps (fun d => R h d.host) (execute {} batch) :=
  onHost_keeps hR fun g => (execute_reaches {} batch.actions g).rel hR

theorem process_keeps (hR : Host.Stepwise R) (transcript : Json) : Keeps (fun d => R h d.host) (process {} transcript) := by
  apply process_leads
  · intro d hd
    rw [compile_desk]
    exact hd
  · intro text
    exact onHost_keeps hR ((Host.Plain.notify text).run_rel hR)
  · exact execute_keeps hR

end Steady

end Assistant

namespace Console.Session

variable {α : Type} {s u : Session} {backlog : List String} {line text : String}

/-! ### What a line has the document do -/

def atDesk (m : Assistant.DeskM α) (s : Session) : Session := { s with desk := (m.run s.desk).2 }

def carryOut (items : List Json) : Session → Session :=
  atDesk (Assistant.execute {} { actions := items.map Action.ofJson, transcript := none })

/-- A transcript is compiled, here or on the server, and what comes of it is carried out. -/
def dictate (text : String) (s : Session) : Session :=
  match s.remote with
  | none => s.atDesk (Assistant.process {} (.str text))
  | some r =>
    let (answer, r) := (Remote.compile (.str text)).run r
    let s := { s with remote := some r }
    match answer.toOption.bind Json.members? with
    | some items => s.carryOut items
    | none => s

/-- The list of actions that a text is, or that it holds. -/
def actionsOf? (text : String) : Option (List Json) :=
  match Json.read text with
  | .ok (.arr items) => some items
  | .ok (.obj fields) =>
    match (fields.lookup "actions").getD (.arr []) with
    | .arr items => some items
    | _ => none
  | _ => none

/-- What a command has the document do. -/
def obey (command argument : String) (s : Session) : Session :=
  match command with
  | "/selection" => s.atDesk (Assistant.onHost Host.getSelection)
  | "/actions" =>
    match actionsOf? argument with
    | some items => s.carryOut items
    | none => s
  | _ => s

/-- All that a line does to the document but for having its messages shown. -/
def work (s : Session) (line : String) : Session :=
  match Text.trim line.toList with
  | [] => s
  | '/' :: text =>
    let (command, argument) := Text.firstWord ('/' :: text)
    s.obey (String.ofList (Text.lower command)) (String.ofList argument)
  | text => s.dictate (String.ofList text)

/-- The messages that the document holds. -/
def pending (s : Session) : List String := s.desk.host.document.notifications

theorem running_obey (command argument : String) (s : Session) : (s.obey command argument).running = s.running := by
  unfold Session.obey
  split
  · rfl
  · split <;> rfl
  · rfl

theorem running_dictate (text : String) (s : Session) : (s.dictate text).running = s.running := by
  unfold Session.dictate
  split
  · rfl
  · dsimp only
    split
    split <;> rfl

theorem work_transcript {c : Char} {text : List Char} (h : Text.trim line.toList = c :: text) (hc : c ≠ '/') (s : Session) :
    s.work line = s.dictate (String.ofList (c :: text)) := by
  unfold work
  rw [h]
  split
  · rename_i hslash
    cases hslash
  · rename_i hslash
    exact absurd (List.cons.inj hslash).1 hc
  · rfl

/-! ### Messages that wait -/

/-- The sessions differ in a backlog of messages, and in what does not matter to the document. -/
structure Lags (backlog : List String) (s u : Session) : Prop where
  desk : u.desk = s.desk.behind backlog
  remote : u.remote = s.remote

theorem Lags.heard (h : Lags backlog s u) : u.heard.desk = s.heard.desk := by
  unfold Session.heard
  rw [h.desk]
  rfl

theorem Lags.pending (h : Lags backlog s u) : u.pending = backlog ++ s.pending := by
  rw [Session.pending, h.desk]
  rfl

theorem Lags.atDesk {m : Assistant.DeskM α} (h : Lags backlog s u) (hm : Assistant.Heedless backlog m) :
    Lags backlog (s.atDesk m) (u.atDesk m) := by
  refine ⟨?_, h.remote⟩
  obtain ⟨-, hdesk⟩ := hm s.desk u.desk h.desk
  exact hdesk

theorem Lags.carryOut (h : Lags backlog s u) (items : List Json) : Lags backlog (s.carryOut items) (u.carryOut items) :=
  h.atDesk (Assistant.execute_heedless _)

theorem Lags.dictate (h : Lags backlog s u) (text : String) : Lags backlog (s.dictate text) (u.dictate text) := by
  unfold Session.dictate
  rw [h.remote]
  cases s.remote with
  | none => exact h.atDesk (Assistant.process_heedless _)
  | some r =>
    dsimp only
    split
    rename_i answer r' _
    have hsent : Lags backlog { s with remote := some r' } { u with remote := some r' } := ⟨h.desk, rfl⟩
    split
    · exact hsent.carryOut _
    · exact hsent

theorem Lags.obey (h : Lags backlog s u) (command argument : String) :
    Lags backlog (s.obey command argument) (u.obey command argument) := by
  have hselection : Assistant.Heedless backlog (Assistant.onHost Host.getSelection) :=
    Assistant.onHost_heedless (.of_mum .getSelection (fun _ => .getSelection) fun _ => .getSelection)
  unfold Session.obey
  split
  · exact h.atDesk hselection
  · split
    · exact h.carryOut _
    · exact h
  · exact h

theorem Lags.work (h : Lags backlog s u) (line : String) : Lags backlog (s.work line) (u.work line) := by
  unfold Session.work
  split
  · exact h
  · exact h.obey _ _
  · exact h.dictate _

/-! ### What is laid down for good -/

theorem rel_atDesk {R : Host → Host → Prop} (hR : Host.Stepwise R) {m : Assistant.DeskM α}
    (hm : Assistant.Keeps (fun d => R s.desk.host d.host) m) : R s.desk.host (s.atDesk m).desk.host := by
  have hrun := hm s.desk (hR.refl s.desk.host)
  show R s.desk.host (m.run s.desk).2.host
  rcases hr : m.run s.desk with ⟨e | a, d⟩ <;> rw [hr] at hrun <;> exact hrun

section Steady

variable {R : Host → Host → Prop} (hR : Host.Stepwise R)

include hR

theorem rel_carryOut (items : List Json) (s : Session) : R s.desk.host (s.carryOut items).desk.host :=
  rel_atDesk hR (Assistant.execute_keeps hR _)

theorem rel_dictate (text : String) (s : Session) : R s.desk.host (s.dictate text).desk.host := by
  unfold Session.dictate
  split
  · exact rel_atDesk hR (Assistant.process_keeps hR _)
  · dsimp only
    split
    rename_i answer r' _
    split
    · exact rel_carryOut hR _ { s with remote := some r' }
    · exact hR.refl _

theorem rel_obey (command argument : String) (s : Session) : R s.desk.host (s.obey command argument).desk.host := by
  unfold Session.obey
  split
  · exact rel_atDesk hR (Assistant.onHost_keeps hR (Host.Plain.getSelection.run_rel hR))
  · split
    · exact rel_carryOut hR _ s
    · exact hR.refl _
  · exact hR.refl _

theorem rel_work (line : String) (s : Session) : R s.desk.host (s.work line).desk.host := by
  unfold Session.work
  split
  · exact hR.refl _
  · exact rel_obey hR _ _ s
  · exact rel_dictate hR _ s

end Steady

end Console.Session
end Easel
