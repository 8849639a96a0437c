/-!
The arguments of the command line. Options may stand anywhere; what follows the word `send` and is no option is the
transcript, whatever it says.
-/

namespace Easel.Console

structure Arguments where
  sends : Bool := false
  url : Option String := none
  plugin : Option String := none
  mock : Bool := false
  words : List String := []
  showHelp : Bool := false
  showVersion : Bool := false
  deriving Repr, DecidableEq

inductive UsageError
  | urlMissing
  | pluginMissing
  | unknownOption (text : String)
  | unknownCommand (text : String)
  deriving Repr, DecidableEq

def UsageError.lines : UsageError → List String
  | .urlMissing => ["Error: --api-url requires a URL"]
  | .pluginMissing => ["Error: --plugin requires an ID"]
  | .unknownOption text => [s!"Unknown option: {text}", "Run 'canvas --help' for usage."]
  | .unknownCommand text => [s!"Unknown command: {text}", "Run 'canvas --help' for usage."]

namespace Arguments

def isOption (text : String) : Bool :=
  text.toList.head? = some '-'

/-- Reads the arguments from left to right; an option that needs a value takes the next argument, whatever it is. -/
def read (a : Arguments) : List String → Except UsageError Arguments
  | [] => .ok a
  | "--api-url" :: url :: rest => read { a with url := some url } rest
  | "--plugin" :: plugin :: rest => read { a with plugin := some plugin } rest
  | text :: rest =>
    if text = "send" ∧ !a.sends then read { a with sends := true } rest
    else if text = "--api-url" then .error .urlMissing
    else if text = "--plugin" then .error .pluginMissing
    else if text = "--mock" then read { a with mock := true } rest
    else if text = "--help" ∨ text = "-h" then read { a with showHelp := true } rest
    else if text = "--version" ∨ text = "-v" then read { a with showVersion := true } rest
    else if isOption text then .error (.unknownOption text)
    else if a.sends then read { a with words := a.words ++ [text] } rest
    else .error (.unknownCommand text)

def parse (texts : List String) : Except UsageError Arguments :=
  read {} texts

def transcript (a : Arguments) : String :=
  " ".intercalate a.words

end Arguments

end Easel.Console
