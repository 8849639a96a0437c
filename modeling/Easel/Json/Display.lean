import Easel.Json.Basic
import Easel.Text.Quoted

/-!
Values as messages show them: a text stands bare on its own and quoted within a list or an object.
-/

namespace Easel.Json

def bareWord : Bool → String
  | true => "True"
  | false => "False"

mutual

def quoted : Json → String
  | .null => "None"
  | .bool b => bareWord b
  | .num n => n.text
  | .str s => Easel.quoted s
  | .arr items => "[" ++ ", ".intercalate (quotedItems items) ++ "]"
  | .obj fields => "\x7b" ++ ", ".intercalate (quotedFields fields) ++ "\x7d"

def quotedItems : List Json → List String
  | [] => []
  | x :: rest => x.quoted :: quotedItems rest

def quotedFields : List (String × Json) → List String
  | [] => []
  | (name, x) :: rest => (Easel.quoted name ++ ": " ++ x.quoted) :: quotedFields rest

end

def display : Json → String
  | .str s => s
  | v => v.quoted

/-- What kind of value it is, as messages name it. -/
def kindName : Json → String
  | .null => "NoneType"
  | .bool _ => "bool"
  | .num (.int _) => "int"
  | .num (.float _) => "float"
  | .str _ => "str"
  | .arr _ => "list"
  | .obj _ => "dict"

end Easel.Json
