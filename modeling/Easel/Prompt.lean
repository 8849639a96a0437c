import Easel.Json.Printer
import Easel.Json.Reader
import Easel.Schema
import Easel.Text.Blank
import Easel.Text.Lines

/-!
Prompts to the language model: instructions that are always the same, made from the table of operations, and the transcript
on the last line. The transcript is written as JSON text, so nothing in it can end that line.
-/

namespace Easel.Prompt

def opening : List String :=
  ["You are a design command parser. Convert natural language design commands into JSON actions",
    "that can be executed against a vector design document."]

def rules : List String :=
  ["Output ONLY valid JSON: a single object with an \"actions\" array.",
    "No commentary or text outside JSON.",
    "Use the exact schema format above. Omit fields the user did not mention.",
    "For positioning, extract x,y coordinates from phrases like \"at x 400 and y 1500\", \"at position 200,300\", \"at coordinates 100,200\".",
    "If no position specified, use reasonable defaults (x:100, y:100).",
    "For colors, use hex format like \"#FF0000\" for red, \"#00FF00\" for green, \"#0000FF\" for blue.",
    "For text, use the exact words spoken.",
    "To act on an existing layer, prefer \x7b\"op\":\"select\",\"args\":\x7b\"name\":\"...\"\x7d\x7d with the layer's spoken name over guessing node ids.",
    "To place an element inside another one, set \"parentId\" to the container's name; the closest matching name wins, otherwise the element goes to the page root.",
    "For selection operations without a named layer, use \"select_all\" or \"deselect\".",
    "Style operations without a \"target\" apply to the current selection."]

def closing : String := "Now process this command:"

def instructions : String :=
  "\n".intercalate
    (opening ++ ["", "Available Actions:", Schema.describeCategories, "", "Schema:", Schema.describe, "", "Rules:"] ++
      rules.map ("- " ++ ·) ++ ["", closing])

/-- What stands before the transcript on its line. -/
def marker : String := "User command: "

def ofTranscript (transcript : String) : String :=
  instructions ++ "\n" ++ marker ++ (Json.str transcript).write Json.spaced ++ "\n"

inductive Fault
  | noTranscript
  | unreadable (error : Json.ReadError)
  deriving Repr, DecidableEq

def Fault.message : Fault → String
  | .noTranscript => "Prompt does not contain a transcript line"
  | .unreadable error => error.message

/-- A value in quotes is JSON text, any other stands for itself. -/
def readValue (value : String) : Except Fault String :=
  if value.toList.head? = some '\x22' then
    match Json.read value with
    | .ok (.str s) => .ok s
    | .ok _ => .ok value
    | .error e => .error (.unreadable e)
  else .ok value

/-- The text behind the marker, if the line starts with it. -/
def marked? (line : List Char) : Option (List Char) :=
  if marker.toList.isPrefixOf line then some (line.drop marker.toList.length) else none

/-- The last marked line counts. -/
def transcript (prompt : String) : Except Fault String :=
  match (Text.lines prompt.toList).reverse.findSome? marked? with
  | none => .error .noTranscript
  | some value => readValue (String.ofList (Text.trim value))

end Easel.Prompt
