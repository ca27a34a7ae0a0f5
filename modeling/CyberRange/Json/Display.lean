import CyberRange.Json.Value
import CyberRange.Decimal.Notation
import CyberRange.Text.Quoted

namespace CyberRange.Json

/-! How a decoded document is put into a message: texts inside it are quoted, a
text by itself is not. -/

mutual

def shown : Json → String
  | .null => "None"
  | .bool value => if value then "True" else "False"
  | .int value => toString value
  | .float value => Decimal.ofFloat value
  | .text value => Text.quoted value
  | .list items => "[" ++ String.intercalate ", " (shownItems items) ++ "]"
  | .object fields => "\x7b" ++ String.intercalate ", " (shownFields fields) ++ "\x7d"

def shownItems : List Json → List String
  | [] => []
  | item :: rest => shown item :: shownItems rest

def shownFields : List (String × Json) → List String
  | [] => []
  | (name, value) :: rest => (Text.quoted name ++ ": " ++ shown value) :: shownFields rest

end

/-- The form of a value that is a whole message. -/
def display : Json → String
  | .text value => value
  | other => shown other

/-- Values in parentheses; a single one is followed by a comma. -/
def displayTuple (values : List Json) : String :=
  match values with
  | [single] => "(" ++ shown single ++ ",)"
  | _ => "(" ++ String.intercalate ", " (values.map shown) ++ ")"

def kindName : Json → String
  | .null => "NoneType"
  | .bool _ => "bool"
  | .int _ => "int"
  | .float _ => "float"
  | .text _ => "str"
  | .list _ => "list"
  | .object _ => "dict"

end CyberRange.Json
