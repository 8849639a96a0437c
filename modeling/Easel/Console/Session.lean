import Easel.Assistant
import Easel.Document.Outline
import Easel.Remote

/-!
A session at the terminal: commands and transcripts, line by line, on one document. Transcripts are compiled here, or on a
server if there is one; actions always run here. Whatever the document has to say is shown after each line.
-/

namespace Easel.Console

structure Session where
  desk : Desk
  remote : Option Remote := none
  verbose : Bool := false
  running : Bool := true

/-- Why a line came to nothing. -/
inductive Failure
  | assistant (failure : Assistant.Failure)
  | remote (fault : Remote.Fault)
  | outline (fault : Outline.Fault)
  | reader (error : Json.ReadError)
  | notIterable (found : Json)

def Failure.message : Failure → String
  | .assistant failure => failure.message
  | .remote fault => fault.message
  | .outline fault => fault.message
  | .reader error => error.message
  | .notIterable found => s!"'{found.kindName}' object is not iterable"

/-- What a line prints. -/
abbrev SessionM := ExceptT Failure (StateM Session)

namespace Session

def greeting : String := "canvas > Say what to draw. /help for commands."

def promptText : String := "canvas > "

def styled (style text : String) : String :=
  "\x1b[" ++ style ++ "m" ++ text ++ "\x1b[0m"

def help : List String :=
  ["", "  REPL Commands:", "    /tree            - Show the document tree",
    "    /selection       - Show the current selection",
    "    /actions <json>  - Execute actions directly, skipping the compiler",
    "    /verbose         - Toggle compiled actions and diagnostics output", "    /help            - Show this help",
    "    /quit            - Exit REPL", ""]

def onDesk (m : Assistant.DeskM α) : SessionM α := do
  let s ← get
  let (result, desk) := m.run s.desk
  set { s with desk }
  match result with
  | .ok a => return a
  | .error f => throw (.assistant f)

def document : SessionM Document := do
  return (← get).desk.host.document

/-- The notifications that were not shown yet, which are shown now. -/
def notifications : SessionM (List String) := do
  let messages := (← document).notifications
  onDesk (Assistant.onHost (Host.edit ({ · with notifications := [] })))
  return messages.map fun m => "  " ++ styled "32" "canvas:" ++ " " ++ m

def diagnosticLine (d : Diagnostic) : String :=
  let index := (d.index.map toString).getD "None"
  "  " ++ styled "33" s!"[{index}] {d.code}" ++ s!" {d.message}"

/-- What was said, and in a verbose session the diagnostics. -/
def finish (report : Option Report) : SessionM (List String) := do
  let said ← notifications
  if (← get).verbose then return said ++ ((report.map (·.diagnostics)).getD []).map diagnosticLine
  return said

def runItems (items : List Json) : SessionM (List String) := do
  let report ← onDesk (Assistant.execute {} { actions := items.map Action.ofJson, transcript := none })
  finish (some report)

def runRemotely (r : Remote) (text : String) : SessionM (List String) := do
  let (result, r) := (Remote.compile (.str text)).run r
  modify ({ · with remote := some r })
  match result with
  | .ok actions =>
    match actions.members? with
    | some items => runItems items
    | none => throw (.notIterable actions)
  | .error f =>
    match f.report? with
    | some message => return [s!"  Error: {message}"]
    | none => throw (.remote f)

def runLocally (text : String) : SessionM (List String) := do
  let outcome ← onDesk (Assistant.process {} (.str text))
  let compiled :=
    match outcome.batch with
    | some b => ["  " ++ styled "2" ((Json.obj b.toFields).write Json.spaced)]
    | none => []
  return (if (← get).verbose then compiled else []) ++ (← finish outcome.report)

def runTranscript (text : String) : SessionM (List String) := do
  match (← get).remote with
  | some r => runRemotely r text
  | none => runLocally text

/-- A list of actions, or an object that holds one. -/
def runActions (text : String) : SessionM (List String) := do
  match Json.read text with
  | .error (.tooLong digits) => throw (.reader (.tooLong digits))
  | .error e => return [s!"  Invalid JSON: {e.message}"]
  | .ok v =>
    let actions :=
      match v with
      | .obj fields => (fields.lookup "actions").getD (.arr [])
      | v => v
    match actions with
    | .arr items => runItems items
    | _ => return ["  Expected a list of actions"]

def outline : SessionM (List String) := do
  match (← document).outline with
  | .ok text => return [text]
  | .error f => throw (.outline f)

def selection : SessionM (List String) := do
  let ids ← onDesk (Assistant.onHost Host.getSelection)
  let d ← document
  if ids.isEmpty then return ["  Nothing selected."]
  return ids.filterMap fun id => (d.layer? id).map fun l =>
    s!"  {l.kind.name} {LayerId.text id} {quoted l.look.name}"

/-- A command and what follows it on the line. -/
def runCommand (command argument : String) : SessionM (List String) := do
  match command with
  | "/quit" =>
    modify ({ · with running := false })
    return ["Goodbye."]
  | "/tree" => outline
  | "/selection" => selection
  | "/actions" => if argument.isEmpty then return ["Usage: /actions <json>"] else runActions argument
  | "/verbose" =>
    let verbose := !(← get).verbose
    modify ({ · with verbose })
    return [if verbose then "  Diagnostics on" else "  Diagnostics off"]
  | "/help" => return help
  | command => return [s!"Unknown command: {command}", "Type /help for available commands."]

def runLine (line : String) : SessionM (List String) := do
  let text := Text.trim line.toList
  match text with
  | [] => return []
  | '/' :: _ =>
    let (command, argument) := Text.firstWord text
    runCommand (String.ofList (Text.lower command)) (String.ofList argument)
  | text => runTranscript (String.ofList text)

/-- What a line prints; a failure is printed and the session goes on. -/
def step (line : String) : StateM Session (List String) := fun s =>
  match (runLine line).run s with
  | (.ok printed, s) => (printed, s)
  | (.error f, s) => ([s!"Error: {f.message}"], s)

def printed (lines : List String) : String :=
  String.join (lines.map (· ++ "\n"))

/-- All that is printed for lines of input, until one of them quits or they end. -/
def run : List String → Session → String × Session
  | [], s => (promptText ++ "\n", s)
  | line :: rest, s =>
    let (lines, s) := step line s
    if s.running then
      let (more, s) := run rest s
      (promptText ++ printed lines ++ more, s)
    else (promptText ++ printed lines, s)

def start (lines : List String) (s : Session) : String × Session :=
  let (text, s) := run lines s
  (greeting ++ "\n" ++ text, s)

end Session

end Easel.Console
