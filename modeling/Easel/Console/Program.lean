import Easel.Console.Arguments
import Easel.Console.Session
import Easel.Settings

/-!
The program of the command line: it shows its help or version, leaves a transcript on a server, or starts a session.
-/

namespace Easel.Console

def version : String := "0.1.0"

def helpText : List String :=
  ["", s!"Voice Canvas CLI v{version}", "", "Usage:", "  canvas [options]                         Start the REPL",
    "  canvas send --plugin ID <transcript>     Queue a transcript for a plugin", "", "Options:",
    "  --mock            Compile with golden replies instead of a live model",
    "  --api-url URL     Compile on a running server instead of locally", "  --plugin ID       Plugin id for 'send'",
    "  -h, --help        Show this help", "  -v, --version     Show version", "", "Environment:",
    "  ANTHROPIC_API_KEY     Key for local compilation (COMPILER_PROVIDER=anthropic)",
    "  OPENAI_API_KEY        Key for local compilation (COMPILER_PROVIDER=openai)", "", "Examples:",
    "  canvas --mock                                             # Try it offline",
    "  canvas --api-url http://localhost:8000                    # Use a local server",
    "  canvas send --plugin abc --api-url http://localhost:8000 \"make a red square\"", "", "REPL Commands:",
    "  /tree             Show the document tree", "  /selection        Show the current selection",
    "  /actions <json>   Execute actions directly", "  /verbose          Toggle diagnostics",
    "  /help             Show REPL help", "  /quit             Exit REPL", ""]

/-- What the arguments ask for. -/
inductive Plan
  | showHelp
  | showVersion
  | send (url plugin transcript : String)
  | incomplete
  | session (mock : Bool) (url : Option String)

def given? (s : Option String) : Option String :=
  s.filter (!·.isEmpty)

def sendPlan (a : Arguments) : Plan :=
  match given? a.url, given? a.plugin, given? (some a.transcript) with
  | some url, some plugin, some transcript => .send url plugin transcript
  | _, _, _ => .incomplete

def planOf (a : Arguments) : Plan :=
  if a.showHelp then .showHelp
  else if a.showVersion then .showVersion
  else if a.sends then sendPlan a
  else .session a.mock (given? a.url)

/-- What was printed, and the exit code if the program ended itself. -/
structure Ending where
  text : String
  code : Option Nat := none

/-- What surrounds the program: answers of servers, the directory of golden replies, and the model to use without them. -/
structure Surroundings where
  answers : List (Except String Http.Response) := []
  goldenDirectory : Golden.Directory := { shown := "golden" }
  live : Model := { source := .script [], service := some "Claude" }
  limit : Int := ({} : Settings).transcriptLimit

namespace Surroundings

def remote (w : Surroundings) (url : String) : Remote :=
  { url, answers := w.answers }

def session (w : Surroundings) (mock : Bool) (url : Option String) : Session :=
  { desk :=
      { host := {}
        model := if mock then { source := .golden w.goldenDirectory } else w.live
        limit := w.limit }
    remote := url.map w.remote }

end Surroundings

def queuedLine (plugin : String) (v : Json) : Remote.RemoteM String := do
  let id ← Remote.field v "id"
  let pending ← Remote.field v "pending"
  return s!"Queued {id.display} for {plugin} ({pending.display} pending)"

/-- Leaves a transcript for a plugin. A fault that has no report of its own ends the program. -/
def send (r : Remote) (plugin transcript : String) : Except Remote.Fault Ending × Remote :=
  let (result, r) := ((Remote.sendCommand (.str plugin) (.str transcript)) >>= queuedLine plugin).run r
  match result with
  | .ok line => (.ok ⟨line ++ "\n", some 0⟩, r)
  | .error f =>
    match f.report? with
    | some message => (.ok ⟨s!"Error: {message}\n", some 1⟩, r)
    | none => (.error f, r)

/-- A run of the whole program: how it ended, and what it sent. -/
def run (w : Surroundings) (arguments lines : List String) : Except Remote.Fault Ending × List Sent :=
  match Arguments.parse arguments with
  | .error e => (.ok ⟨Session.printed e.lines, some 1⟩, [])
  | .ok a =>
    match planOf a with
    | .showHelp => (.ok ⟨Session.printed helpText, none⟩, [])
    | .showVersion => (.ok ⟨s!"canvas-cli {version}\n", none⟩, [])
    | .incomplete => (.ok ⟨"Error: send needs --api-url, --plugin and a transcript\n", some 1⟩, [])
    | .send url plugin transcript =>
      let (result, r) := send (w.remote url) plugin transcript
      (result, r.sent)
    | .session mock url =>
      let (text, s) := (w.session mock url).start lines
      (.ok ⟨text, none⟩, (s.remote.map (·.sent)).getD [])

end Easel.Console
