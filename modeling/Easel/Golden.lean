import Easel.Keyed
import Easel.Text.Case
import Easel.Text.Quoted
import Easel.Text.Search

/-!
Golden replies: what a language model answered to a few well-known commands, for use without one. A reply is filed under its
scenario, the words of the command in lower case with underscores between them.
-/

namespace Easel.Golden

def isWordChar (c : Char) : Bool :=
  ('a' ≤ c && c ≤ 'z') || ('0' ≤ c && c ≤ '9')

def scenarioChars (transcript : List Char) : List Char :=
  ['_'].intercalate (Text.words isWordChar (Text.lower transcript))

def scenarioOf (transcript : String) : String :=
  String.ofList (scenarioChars transcript.toList)

def replies : Keyed String :=
  [("add_a_title_inside_the_card",
      "\x7b\n  \"actions\": [\n    \x7b\"op\": \"create_text\", \"args\": \x7b\"text\": \"Title\", \"fontSize\": 24, " ++
        "\"parentId\": \"Card\", \"name\": \"Title\"\x7d\x7d\n  ]\n\x7d\n"),
    ("draw_a_blue_circle_and_a_green_star",
      "\x7b\"actions\":[\n  \x7b\"op\":\"create_circle\",\"args\":\x7b\"x\":40,\"y\":40,\"radius\":30," ++
        "\"color\":\"#0000FF\",\"name\":\"Dot\"\x7d\x7d,\n  \x7b\"op\":\"create_star\",\"args\":\x7b\"x\":200,\"y\":40," ++
        "\"width\":80,\"height\":80,\"color\":\"#00FF00\"\x7d\x7d\n]\x7d\n"),
    ("make_a_red_rectangle",
      "```json\n\x7b\"actions\":[\x7b\"op\":\"create_rectangle\",\"args\":\x7b\"color\":\"#FF0000\"\x7d\x7d]\x7d\n```\n"),
    ("select_the_app_icon",
      "\x7b\"actions\":[\x7b\"op\":\"select\",\"args\":\x7b\"name\":\"app icon\"\x7d\x7d]\x7d\n"),
    ("tell_me_a_joke", "Sorry, I can only help with design commands.\n")]

/-- In alphabetical order. -/
def scenarios : List String :=
  replies.map (·.1)

inductive Fault
  | notFound (path : String)
  | nameTooLong (path : String)
  deriving Repr, DecidableEq

def Fault.message : Fault → String
  | .notFound path => s!"Golden file not found: {path}"
  | .nameTooLong path => s!"[Errno 36] File name too long: {quoted path}"

/-- The longest name of a file and the longest path, in bytes. -/
def nameLimit : Nat := 255

def pathLimit : Nat := 4095

/-- The directory of the replies: what messages call it, how many bytes its path takes, and how it is reached from a known
directory above it. `others` are the known directories beside it, reached in the same way. -/
structure Directory where
  shown : String
  bytes : Nat := shown.utf8ByteSize
  way : List String := [shown]
  others : List (List String) := []
  deriving Repr, DecidableEq

/-- The names along a path. Empty ones and single dots say nothing. -/
def pathNames (path : List Char) : List String :=
  ((Text.pieces (· = '/') path).map String.ofList).filter fun name => name ≠ "" && name ≠ "."

/-- A path that starts with a slash starts at the root; two slashes at the start, and not more, are kept. -/
def rootOf : List Char → Option String
  | '/' :: '/' :: '/' :: _ => some "/"
  | '/' :: '/' :: _ => some "//"
  | '/' :: _ => some "/"
  | _ => none

/-- The path of a scenario's file from the directory, or from the root. -/
def fileChars (scenario : String) : List Char :=
  (scenario ++ ".json").toList

namespace Directory

/-- A path without what says nothing, as messages show it. -/
def pathOf (d : Directory) (path : List Char) : String :=
  (rootOf path).getD (d.shown ++ "/") ++ "/".intercalate (pathNames path)

def pathBytes (d : Directory) (path : List Char) : Nat :=
  (match rootOf path with
    | some root => root.utf8ByteSize
    | none => d.bytes + 1) + ("/".intercalate (pathNames path)).utf8ByteSize

/-- What a path leads to: a reply, nothing, or nowhere because a name on the way is too long. -/
inductive Find
  | reply (text : String)
  | nothing
  | tooLong
  deriving Repr, DecidableEq

/-- Whether there is a directory at the end of a way. -/
def has (d : Directory) (way : List String) : Bool :=
  way.isPrefixOf d.way || d.others.contains way

/-- The reply in a file of a directory. -/
def file (d : Directory) (way : List String) (name : String) : Find :=
  match replies.find? fun (scenario, _) => way = d.way && scenario ++ ".json" = name with
  | some (_, text) => .reply text
  | none => .nothing

/-- Follows names from a directory that is there. Beyond the known ones there may be others, and nothing is found there;
`beyond` says how far up that is. -/
def follow (d : Directory) (beyond : Nat) (way : List String) : List String → Find
  | [] => .nothing
  | name :: rest =>
    if nameLimit < name.utf8ByteSize then .tooLong
    else if rest.isEmpty then if beyond = 0 then d.file way name else .nothing
    else if name = ".." then
      if way.isEmpty then d.follow (beyond + 1) [] rest else d.follow beyond way.dropLast rest
    else if beyond = 0 && d.has (way ++ [name]) then d.follow 0 (way ++ [name]) rest
    else .nothing

/-- No path holds the character that ends all paths. -/
def find (d : Directory) (path : List Char) : Find :=
  if path.contains '\x00' then .nothing
  else if pathLimit < d.pathBytes path then .tooLong
  else if (rootOf path).isSome then d.follow 1 [] (pathNames path)
  else d.follow 0 d.way (pathNames path)

end Directory

def reply (d : Directory) (scenario : String) : Except Fault String :=
  let path := fileChars scenario
  match d.find path with
  | .reply text => .ok text
  | .nothing => .error (.notFound (d.pathOf path))
  | .tooLong => .error (.nameTooLong (d.pathOf path))

/-- How long a model pretends to think. -/
inductive Pace
  | instant
  | realistic
  | slow
  deriving Repr, DecidableEq

namespace Pace

def all : List Pace :=
  [.instant, .realistic, .slow]

def name : Pace → String
  | .instant => "instant"
  | .realistic => "realistic"
  | .slow => "slow"

def ofName? (name : String) : Option Pace :=
  all.find? (·.name = name)

/-- What is said of an unknown pace; `shown` is the name as it was given. -/
def unknownMessage (shown : String) : String :=
  s!"Unknown delay profile: {shown}. Valid profiles: [" ++ ", ".intercalate (all.map fun p => quoted p.name) ++ "]"

end Pace

end Easel.Golden
