import Easel.Proofs.Console.Quitting
import Easel.Proofs.Console.Work
import Easel.Proofs.Execution.Outlining

/-!
What a session shows of that which the document has to say. Every message is shown behind the line that it comes from, once and in order;
a line that comes to nothing leaves none for later.
-/

namespace Easel

open Execution

namespace Console.Session

variable {α : Type} {s s' u w : Session} {m : SessionM (List String)} {line text : String} {lines printed : List String}

/-! ### How messages look -/

/-- What stands before a message of the document. -/
def mark : String := "  " ++ styled "32" "canvas:" ++ " "

/-- Going by how it begins, the text is a message of the document. -/
def marked (text : String) : Bool := mark.toList.isPrefixOf text.toList

theorem marked_message (message : String) : marked (mark ++ message) = true := by
  rw [marked, String.toList_append]
  exact List.isPrefixOf_iff_prefix.2 (List.prefix_append _ _)

theorem unmarked {p t : List Char} (h : text.toList = p ++ t) (hp : ¬p <+: mark.toList) (hm : ¬mark.toList <+: p) :
    marked text = false := by
  rw [Bool.eq_false_iff]
  intro hmarked
  have hprefix : mark.toList <+: p ++ t := h ▸ List.isPrefixOf_iff_prefix.1 hmarked
  rcases List.prefix_or_prefix_of_prefix hprefix (List.prefix_append p t) with hle | hle
  · exact hm hle
  · exact hp hle

theorem unmarked_failure (f : Failure) : marked s!"Error: {f.message}" = false :=
  unmarked (p := "Error: ".toList) String.toList_append (by decide) (by decide)

theorem unmarked_report (message : String) : marked s!"  Error: {message}" = false :=
  unmarked (p := "  Error: ".toList) String.toList_append (by decide) (by decide)

theorem unmarked_invalid (message : String) : marked s!"  Invalid JSON: {message}" = false :=
  unmarked (p := "  Invalid JSON: ".toList) String.toList_append (by decide) (by decide)

theorem unmarked_unknown (command : String) : marked s!"Unknown command: {command}" = false :=
  unmarked (p := "Unknown command: ".toList) String.toList_append (by decide) (by decide)

theorem unmarked_help : ∀ text ∈ help, marked text = false := by decide +kernel

/-- Another style than that of the mark tells a text from a message. -/
theorem unmarked_styled (style shown rest : String) (hp : ¬("  \x1b[" ++ style ++ "m").toList <+: mark.toList)
    (hm : ¬mark.toList <+: ("  \x1b[" ++ style ++ "m").toList) : marked ("  " ++ styled style shown ++ rest) = false := by
  have h : ("  " ++ styled style shown ++ rest).toList =
      ("  \x1b[" ++ style ++ "m").toList ++ (shown ++ "\x1b[0m" ++ rest).toList := by
    simp only [styled, String.toList_append, List.append_assoc]
    rfl
  exact unmarked h hp hm

theorem unmarked_compiled (batch : String) : marked ("  " ++ styled "2" batch) = false := by
  have h := unmarked_styled "2" batch "" (by decide) (by decide)
  rwa [String.append_empty] at h

theorem unmarked_diagnostic (d : Diagnostic) : marked (diagnosticLine d) = false :=
  unmarked_styled "33" _ _ (by decide) (by decide)

theorem unmarked_layer (k : Kind) (rest : String) : marked ("  " ++ k.name ++ rest) = false := by
  refine unmarked (p := ("  " ++ k.name).toList) String.toList_append ?_ ?_ <;> cases k <;> decide

/-- The outline begins with the name of the page, on a line of its own. -/
theorem unmarked_outline {d : Document} (hpage : marked d.pageName = false) (h : d.outline = .ok text) : marked text = false := by
  unfold Document.outline at h
  cases ht : d.pageChildren.mapM (d.outlineTo d.layers.length 1) with
  | error f =>
    rw [ht] at h
    cases h
  | ok tops =>
    rw [ht] at h
    cases h
    have hbreak : '\n' ∉ mark.toList := by decide
    rw [marked]
    cases tops.flatten with
    | nil =>
      rw [String.intercalate_singleton]
      exact hpage
    | cons below rest =>
      have hfirst : ("\n".intercalate (d.pageName :: below :: rest)).toList =
          d.pageName.toList ++ '\n' :: ("\n".intercalate (below :: rest)).toList := by
        rw [String.intercalate_cons_cons, String.toList_append, String.toList_append, List.append_assoc]
        rfl
      rw [hfirst, Text.isPrefixOf_divided hbreak]
      exact hpage

/-- The document can be told messages, and its page has no name that looks like one. -/
def Clear (h : Host) : Prop := Quiet h ∧ marked h.document.pageName = false

theorem stepwise_clear : Host.Stepwise fun h h' => Clear h → Clear h' where
  refl _ h := h
  trans h h' hc := h' (h hc)
  enter _ hc := hc
  create _ _ hc := hc
  edit he h hc := ⟨hc.1, by rw [Host.stepwise_pageName.edit he h]; exact hc.2⟩

/-! ### What a line shows -/

/-- What a program of the session prints, and the session after it; a failure is printed, too. -/
def outcome (m : SessionM (List String)) (s : Session) : List String × Session :=
  match m.run s with
  | (.ok printed, s) => (printed, s)
  | (.error f, s) => ([s!"Error: {f.message}"], s)

theorem step_eq (line : String) (s : Session) : step line s = outcome (runLine line) s := rfl

/-- The program leaves the session like `w`, but for the messages that the document holds there: these are shown. -/
structure Shows (m : SessionM (List String)) (s w : Session) : Prop where
  session : (outcome m s).2 = w.heard
  messages : (outcome m s).1.filter marked = w.pending.map (mark ++ ·)

theorem heard_of_pending (hn : s.pending = []) : s.heard = s := by
  unfold heard Document.mute
  rw [← hn]
  rfl

theorem filter_unmarked (h : ∀ text ∈ printed, marked text = false) : printed.filter marked = [] :=
  List.filter_eq_nil_iff.2 fun text ht => by simp [h text ht]

theorem filter_messages (messages : List String) : (messages.map (mark ++ ·)).filter marked = messages.map (mark ++ ·) := by
  apply List.filter_eq_self.2
  intro text ht
  obtain ⟨message, -, rfl⟩ := List.mem_map.1 ht
  exact marked_message message

/-- There was nothing to say, and nothing that is printed looks as if there were. -/
theorem Shows.silent (hm : m.run s = (.ok printed, w)) (hn : w.pending = []) (hp : ∀ text ∈ printed, marked text = false) :
    Shows m s w := by
  refine ⟨?_, ?_⟩ <;> rw [outcome, hm]
  · exact (heard_of_pending hn).symm
  · rw [hn]
    exact filter_unmarked hp

theorem Shows.failed {f : Failure} (hm : m.run s = (.error f, w)) (hn : w.pending = []) : Shows m s w := by
  refine ⟨?_, ?_⟩ <;> rw [outcome, hm]
  · exact (heard_of_pending hn).symm
  · rw [hn]
    exact filter_unmarked fun text ht => by rw [List.mem_singleton.1 ht]; exact unmarked_failure f

theorem finish_messages (report : Option Report) (w : Session) : ∃ printed,
    (finish report).run w = (.ok printed, w.heard) ∧ printed.filter marked = w.pending.map (mark ++ ·) := by
  have hsaid : notifications.run w = (.ok (w.pending.map (mark ++ ·)), w.heard) := rfl
  have hget : (get : SessionM Session).run w.heard = (.ok w.heard, w.heard) := rfl
  unfold finish
  rw [run_bind_ok hsaid, run_bind_ok hget]
  split
  · refine ⟨_, rfl, ?_⟩
    have hdiagnostics : ∀ text ∈ ((report.map (·.diagnostics)).getD []).map diagnosticLine, marked text = false := by
      intro text ht
      obtain ⟨d, -, rfl⟩ := List.mem_map.1 ht
      exact unmarked_diagnostic d
    rw [List.filter_append, filter_messages, filter_unmarked hdiagnostics, List.append_nil]
  · exact ⟨_, rfl, filter_messages _⟩

theorem onDesk_ok {m : Assistant.DeskM α} {a : α} (h : (m.run s.desk).1 = .ok a) :
    (onDesk m).run s = (.ok a, s.atDesk m) := by
  rw [onDesk_run, h]
  rfl

theorem onDesk_error {m : Assistant.DeskM α} {f : Assistant.Failure} (h : (m.run s.desk).1 = .error f) :
    (onDesk m).run s = (.error (.assistant f), s.atDesk m) := by
  rw [onDesk_run, h]
  rfl

/-- What was said is shown among what is printed. -/
theorem Shows.told (hm : m.run s = (.ok printed, w.heard)) (hp : printed.filter marked = w.pending.map (mark ++ ·)) :
    Shows m s w := by
  refine ⟨?_, ?_⟩ <;> rw [outcome, hm]
  exact hp

theorem runItems_shows (hq : Quiet s.desk.host) (items : List Json) : Shows (runItems items) s (s.carryOut items) := by
  obtain ⟨report, h, hx, -⟩ := Assistant.execute_heard {} (items.map Action.ofJson) hq
  have hrun : (onDesk (Assistant.execute {} { actions := items.map Action.ofJson, transcript := none })).run s =
      (.ok report, s.carryOut items) := onDesk_ok (by rw [Assistant.execute_run hx])
  obtain ⟨printed, hfinish, hprinted⟩ := finish_messages (some report) (s.carryOut items)
  refine .told ?_ hprinted
  unfold runItems
  rw [run_bind_ok hrun]
  exact hfinish

/-- The batch that a transcript became. -/
def compiledLines : Option Batch → List String
  | some b => ["  " ++ styled "2" ((Json.obj b.toFields).write Json.spaced)]
  | none => []

theorem unmarked_compiledLines (batch : Option Batch) : ∀ text ∈ compiledLines batch, marked text = false := by
  intro text ht
  cases batch with
  | none => cases ht
  | some b =>
    rw [List.mem_singleton.1 ht]
    exact unmarked_compiled _

theorem runLocally_shows (hq : Quiet s.desk.host) (hn : s.pending = []) (text : String) :
    Shows (runLocally text) s (s.atDesk (Assistant.process {} (.str text))) := by
  cases ha : ((Assistant.process {} (.str text)).run s.desk).1 with
  | error f =>
    have hpending : (s.atDesk (Assistant.process {} (.str text))).pending = [] := by
      have hhost := Assistant.host_of_process_error hq ha
      rw [← hn]
      exact congrArg (fun h : Host => h.document.notifications) hhost
    have hrun : (runLocally text).run s = (.error (.assistant f), s.atDesk (Assistant.process {} (.str text))) := by
      unfold runLocally
      rw [run_bind_eq, onDesk_error ha]
    exact .failed hrun hpending
  | ok result =>
    obtain ⟨said, hfinish, hsaid⟩ := finish_messages result.report (s.atDesk (Assistant.process {} (.str text)))
    have hget : (get : SessionM Session).run (s.atDesk (Assistant.process {} (.str text))) =
        (.ok (s.atDesk (Assistant.process {} (.str text))), s.atDesk (Assistant.process {} (.str text))) := rfl
    have hrun : (runLocally text).run s = (.ok ((if s.verbose then compiledLines result.batch else []) ++ said),
        (s.atDesk (Assistant.process {} (.str text))).heard) := by
      unfold runLocally
      rw [run_bind_ok (onDesk_ok ha), run_bind_ok hget, run_bind_ok hfinish]
      rfl
    refine .told hrun ?_
    rw [List.filter_append, hsaid]
    split
    · rw [filter_unmarked (unmarked_compiledLines _), List.nil_append]
    · rfl

theorem Shows.after {first : SessionM α} {rest : α → SessionM (List String)} {a : α} (hfirst : first.run s = (.ok a, s'))
    (h : Shows (rest a) s' w) : Shows (first >>= rest) s w := by
  have hsame : outcome (first >>= rest) s = outcome (rest a) s' := by
    unfold outcome
    rw [run_bind_ok hfirst]
  exact ⟨hsame ▸ h.session, hsame ▸ h.messages⟩

theorem runRemotely_shows (hq : Quiet s.desk.host) (hn : s.pending = []) {r : Remote} (hr : s.remote = some r) (text : String) :
    Shows (runRemotely r text) s (s.dictate text) := by
  rcases hcompile : (Remote.compile (.str text)).run r with ⟨answer, r'⟩
  have hsent : (modify ({ · with remote := some r' }) : SessionM PUnit).run s = (.ok (), { s with remote := some r' }) := rfl
  unfold dictate runRemotely
  rw [hr]
  dsimp only
  rw [hcompile]
  apply Shows.after hsent
  cases answer with
  | ok actions =>
    dsimp only [Except.toOption, Option.bind_some]
    cases actions.members? with
    | some items => exact runItems_shows (s := { s with remote := some r' }) hq items
    | none => exact .failed rfl hn
  | error f =>
    dsimp only [Except.toOption, Option.bind_none]
    cases f.report? with
    | some message => exact .silent rfl hn (by simpa using unmarked_report message)
    | none => exact .failed rfl hn

theorem runTranscript_shows (hq : Quiet s.desk.host) (hn : s.pending = []) (text : String) :
    Shows (runTranscript text) s (s.dictate text) := by
  have hget : (get : SessionM Session).run s = (.ok s, s) := rfl
  apply Shows.after hget
  cases hr : s.remote with
  | none =>
    have hdictate : s.dictate text = s.atDesk (Assistant.process {} (.str text)) := by rw [dictate, hr]
    rw [hdictate]
    exact runLocally_shows hq hn text
  | some r => exact runRemotely_shows hq hn hr text

theorem runActions_shows (hq : Quiet s.desk.host) (hn : s.pending = []) (text : String) :
    Shows (runActions text) s (match actionsOf? text with
      | some items => s.carryOut items
      | none => s) := by
  unfold runActions actionsOf?
  cases Json.read text with
  | error e =>
    cases e with
    | tooLong digits => exact .failed rfl hn
    | malformed => exact .silent rfl hn (by simpa using unmarked_invalid _)
  | ok v =>
    cases v with
    | arr items => exact runItems_shows hq items
    | obj fields =>
      dsimp only
      cases (fields.lookup "actions").getD (.arr []) with
      | arr items => exact runItems_shows hq items
      | _ => exact .silent rfl hn (by decide)
    | _ => exact .silent rfl hn (by decide)

theorem outline_shows (hc : Clear s.desk.host) (hn : s.pending = []) : Shows outline s s := by
  have hdocument : document.run s = (.ok s.desk.host.document, s) := rfl
  apply Shows.after hdocument
  cases ho : s.desk.host.document.outline with
  | error f => exact .failed rfl hn
  | ok text => exact .silent rfl hn (by simpa using unmarked_outline hc.2 ho)

theorem selection_shows (hn : s.pending = []) : Shows selection s (s.atDesk (Assistant.onHost Host.getSelection)) := by
  have hpending : (s.atDesk (Assistant.onHost Host.getSelection)).pending = [] := by
    rw [← hn, pending, atDesk, Assistant.onHost_run]
    exact Host.Mum.notifications (fun _ => .getSelection) s.desk.host
  cases ha : ((Assistant.onHost Host.getSelection).run s.desk).1 with
  | error f =>
    have hrun : selection.run s = (.error (.assistant f), s.atDesk (Assistant.onHost Host.getSelection)) := by
      unfold selection
      rw [run_bind_eq, onDesk_error ha]
    exact .failed hrun hpending
  | ok ids =>
    apply Shows.after (onDesk_ok ha)
    have hdocument (w : Session) : document.run w = (.ok w.desk.host.document, w) := rfl
    apply Shows.after (hdocument _)
    split
    · exact .silent rfl hpending (by decide)
    · refine .silent rfl hpending fun text ht => ?_
      obtain ⟨id, -, hid⟩ := List.mem_filterMap.1 ht
      obtain ⟨l, -, rfl⟩ := Option.map_eq_some_iff.1 hid
      have hlayer := unmarked_layer l.kind (" " ++ (LayerId.text id ++ (" " ++ quoted l.look.name)))
      rw [← String.append_assoc, ← String.append_assoc, ← String.append_assoc] at hlayer
      exact hlayer

/-- A command shows what comes of it, and none but the command to quit ends the session. -/
theorem runCommand_shows (hc : Clear s.desk.host) (hn : s.pending = []) (command argument : String) :
    ∃ w, Shows (runCommand command argument) s w ∧ w.desk = (s.obey command argument).desk ∧
      w.remote = (s.obey command argument).remote ∧ w.running = (s.running && command ≠ "/quit") := by
  have hgoes (h : command ≠ "/quit") : s.running = (s.running && command ≠ "/quit") := by simp [h]
  unfold runCommand
  split
  · exact ⟨{ s with running := false }, .silent rfl hn (by decide), rfl, rfl, by simp⟩
  · exact ⟨s, outline_shows hc hn, rfl, rfl, hgoes (by decide)⟩
  · exact ⟨_, selection_shows hn, rfl, rfl, hgoes (by decide)⟩
  · have hrunning := running_obey "/actions" argument s
    refine ⟨s.obey "/actions" argument, ?_, rfl, rfl, hrunning.trans (hgoes (by decide))⟩
    split
    · rename_i hempty
      rw [String.isEmpty_iff.1 hempty]
      exact .silent rfl hn (by decide)
    · exact runActions_shows hc.1 hn argument
  · have hprinted : ∀ text ∈ [if !s.verbose then "  Diagnostics on" else "  Diagnostics off"], marked text = false := by
      cases s.verbose <;> decide
    exact ⟨{ s with verbose := !s.verbose }, .silent rfl hn hprinted, rfl, rfl, hgoes (by decide)⟩
  · exact ⟨s, .silent rfl hn unmarked_help, rfl, rfl, hgoes (by decide)⟩
  · rename_i hquit _ hselection hactions _ _
    have hobey : s.obey command argument = s := by
      unfold obey
      split
      · exact absurd rfl hselection
      · exact absurd rfl hactions
      · rfl
    have hprinted : ∀ text ∈ [s!"Unknown command: {command}", "Type /help for available commands."], marked text = false := by
      intro text ht
      rcases List.mem_cons.1 ht with rfl | ht
      · exact unmarked_unknown command
      · rw [List.mem_singleton.1 ht]
        decide
    rw [hobey]
    exact ⟨s, .silent rfl hn hprinted, rfl, rfl, hgoes hquit⟩

theorem runLine_transcript {c : Char} {text : List Char} (h : Text.trim line.toList = c :: text) (hc : c ≠ '/') :
    runLine line = runTranscript (String.ofList (c :: text)) := by
  unfold runLine
  rw [h]
  dsimp only
  split
  · rename_i hslash
    cases hslash
  · rename_i hslash
    exact absurd (List.cons.inj hslash).1 hc
  · rfl

/-- From a session that has shown all, a line shows all that it has the document say. -/
theorem runLine_shows (hc : Clear s.desk.host) (hn : s.pending = []) (line : String) :
    ∃ w, Shows (runLine line) s w ∧ w.desk = (s.work line).desk ∧ w.remote = (s.work line).remote ∧
      w.running = (s.running && !quits line) := by
  have hgoes (h : quits line = false) : s.running = (s.running && !quits line) := by simp [h]
  cases ht : Text.trim line.toList with
  | nil =>
    unfold runLine work
    rw [ht]
    exact ⟨s, .silent rfl hn (by decide), rfl, rfl, hgoes (not_quits_of_blank ht)⟩
  | cons c text =>
    by_cases hslash : c = '/'
    · subst hslash
      obtain ⟨w, hw, hdesk, hremote, hrunning⟩ := runCommand_shows hc hn
        (String.ofList (Text.lower (Text.firstWord ('/' :: text)).1)) (String.ofList (Text.firstWord ('/' :: text)).2)
      unfold runLine work
      rw [ht]
      refine ⟨w, hw, hdesk, hremote, ?_⟩
      rw [hrunning, quits_of_slash ht, decide_not]
    · have hshows := runTranscript_shows hc.1 hn (String.ofList (c :: text))
      have hrunning := running_dictate (String.ofList (c :: text)) s
      rw [runLine_transcript ht hslash, work_transcript ht hslash]
      exact ⟨_, hshows, rfl, rfl, hrunning.trans (hgoes (not_quits_of_ne ht hslash))⟩

/-! ### Whole sessions -/

/-- What is printed for lines, one after the other, and the session after them. -/
def answers (lines : List String) (s : Session) : List (List String) × Session := (lines.mapM step).run s

theorem answers_cons (line : String) (lines : List String) (s : Session) : answers (line :: lines) s =
    ((step line s).1 :: (answers lines (step line s).2).1, (answers lines (step line s).2).2) := by
  rw [answers, List.mapM_cons]
  rfl

theorem run_cons (line : String) (lines : List String) (s : Session) : run (line :: lines) s =
    if (step line s).2.running then
      (promptText ++ Session.printed (step line s).1 ++ (run lines (step line s).2).1, (run lines (step line s).2).2)
    else (promptText ++ Session.printed (step line s).1, (step line s).2) := rfl

/-- The session `s` has shown all that the document was told. In `u` the same was done, but nothing was shown. -/
structure CaughtUp (u s : Session) : Prop where
  desk : s.desk = u.heard.desk
  remote : s.remote = u.remote
  clear : Clear s.desk.host

namespace CaughtUp

theorem pending (h : CaughtUp u s) : s.pending = [] := by
  rw [Session.pending, h.desk]
  rfl

theorem lags (h : CaughtUp u s) : Lags u.pending s u := by
  have hbehind (d : Desk) : d = { d with host := { d.host with document := { d.host.document with
      notifications := d.host.document.notifications ++ [] } } } := by rw [List.append_nil]
  refine ⟨?_, h.remote.symm⟩
  rw [h.desk]
  exact hbehind u.desk

/-- A line is done in both sessions, and in the one its messages are shown. -/
theorem step (h : CaughtUp u s) (line : String) : CaughtUp (u.work line) (step line s).2 ∧
    (u.work line).pending.map (mark ++ ·) = u.pending.map (mark ++ ·) ++ (Session.step line s).1.filter marked ∧
    (Session.step line s).2.running = (s.running && !quits line) := by
  obtain ⟨w, hw, hdesk, hremote, hrunning⟩ := runLine_shows h.clear h.pending line
  have hwork := h.lags.work line
  have hheard : w.heard.desk = (u.work line).heard.desk := by
    rw [hwork.heard, heard, hdesk]
    rfl
  have hpending : (u.work line).pending = u.pending ++ w.pending := by
    rw [hwork.pending]
    exact congrArg (fun d : Desk => u.pending ++ d.host.document.notifications) hdesk.symm
  have hclear := rel_work stepwise_clear line s h.clear
  rw [← hdesk] at hclear
  rw [step_eq, hw.messages, hw.session]
  refine ⟨⟨hheard, hremote.trans hwork.remote.symm, hclear⟩, ?_, hrunning⟩
  rw [hpending, List.map_append]

theorem answers (h : CaughtUp u s) (lines : List String) : CaughtUp (lines.foldl work u) (answers lines s).2 ∧
    (lines.foldl work u).pending.map (mark ++ ·) =
      u.pending.map (mark ++ ·) ++ (Session.answers lines s).1.flatten.filter marked := by
  induction lines generalizing u s with
  | nil => exact ⟨h, (List.append_nil _).symm⟩
  | cons line lines ih =>
    obtain ⟨hstep, hmessages, -⟩ := h.step line
    obtain ⟨hrest, hmore⟩ := ih hstep
    rw [answers_cons]
    refine ⟨hrest, ?_⟩
    rw [List.foldl_cons, hmore, hmessages, List.flatten_cons, List.filter_append, List.append_assoc]

/-- A prompt and what follows it, for each line that is handled; without a line that quits one more prompt waits at the end. -/
theorem run_eq (h : CaughtUp u s) (hs : s.running = true) (lines : List String) : run lines s =
    (String.join ((Session.answers (handled lines) s).1.map fun texts => promptText ++ Session.printed texts) ++
      (if lines.any quits then "" else promptText ++ "\n"), (Session.answers (handled lines) s).2) := by
  induction lines generalizing u s with
  | nil => rfl
  | cons line lines ih =>
    obtain ⟨hstep, -, hrunning⟩ := h.step line
    rw [hs, Bool.true_and] at hrunning
    rw [run_cons, handled_cons, List.any_cons, hrunning]
    cases hquit : quits line with
    | true =>
      have hone : Session.answers [line] s = ([(Session.step line s).1], (Session.step line s).2) := answers_cons line [] s
      simp [hone, String.join_cons]
    | false =>
      rw [hquit] at hrunning
      simp only [Bool.not_false, if_true, Bool.false_eq_true, if_false, Bool.false_or, ih hstep hrunning, answers_cons,
        List.map_cons, String.join_cons, String.append_assoc]

end CaughtUp

/-- At the prompt after the lines all messages have been shown. What was done is compared with the same lines where none is shown, so
that every message stays in the document. -/
structure AllShown (lines : List String) (s : Session) : Prop where
  none_waits : (answers lines s).2.desk.host.document.notifications = []
  document : (answers lines s).2.desk.host.document = (lines.foldl work s).desk.host.document.mute
  /-- In their order, and each once. -/
  messages : (answers lines s).1.flatten.filter marked = (lines.foldl work s).desk.host.document.notifications.map (mark ++ ·)

/-- A session on a document where nothing was made yet. -/
def fresh (pageName : String) (fontsFail : Bool) (model : Model) (limit : Int) (remote : Option Remote) (verbose : Bool) : Session :=
  { desk := { host := { document := { pageName, fontsFail } }, model, limit }, remote, verbose }

/-- On a fresh document a session handles all lines up to the first that quits, whatever becomes of each, and at every prompt all
messages of the document have been shown, each once. -/
theorem every_message_shown_once (pageName : String) (fontsFail : Bool) (model : Model) (limit : Int) (remote : Option Remote)
    (verbose : Bool) (lines : List String) (hpage : marked pageName = false) :
    let s := fresh pageName fontsFail model limit remote verbose
    start lines s =
        (greeting ++ "\n" ++ (String.join ((answers (handled lines) s).1.map fun texts => promptText ++ Session.printed texts) ++
          if lines.any quits then "" else promptText ++ "\n"), (answers (handled lines) s).2) ∧
      ∀ k, AllShown ((handled lines).take k) s := by
  intro s
  have hfresh : CaughtUp s s := ⟨rfl, rfl, fun _ => rfl, hpage⟩
  refine ⟨?_, fun k => ?_⟩
  · rw [start, hfresh.run_eq rfl]
  · obtain ⟨hcaught, hmessages⟩ := hfresh.answers ((handled lines).take k)
    exact ⟨hcaught.pending, congrArg (·.host.document) hcaught.desk, hmessages.symm⟩

/-- The first line is carried out with two messages, and for the fourth one there is no reply. -/
theorem messages_shown_before_quitting :
    let reply := "\x7b\"actions\": [\x7b\"op\": \"create_rectangle\"\x7d, \x7b\"op\": \"fly\"\x7d]\x7d"
    let s := fresh "Page 1" true { source := .script [.ok reply] } 1000 none false
    let lines := ["draw", "/tree", "/VERBOSE", "again", " /QuIt now", "never"]
    marked "Page 1" = false ∧ handled lines = lines.take 5 ∧ AllShown (lines.take 5) s ∧
      (answers (lines.take 5) s).1.flatten.filter marked = [mark ++ "Unknown action: fly",
        mark ++ "Executed 2 actions on canvas! Skipped unknown action(s) at position 2."] := by
  intro reply s lines
  have hpage : marked "Page 1" = false := by decide
  have hhandled : handled lines = lines.take 5 := by decide
  have hsaid : ((lines.take 5).foldl work s).desk.host.document.notifications =
      ["Unknown action: fly", "Executed 2 actions on canvas! Skipped unknown action(s) at position 2."] := by decide +kernel
  have hall := (every_message_shown_once "Page 1" true { source := .script [.ok reply] } 1000 none false lines hpage).2 5
  have htake : (handled lines).take 5 = lines.take 5 := by rw [hhandled]; rfl
  rw [htake] at hall
  refine ⟨hpage, hhandled, hall, hall.messages.trans ?_⟩
  rw [hsaid]
  rfl

end Console.Session
end Easel
