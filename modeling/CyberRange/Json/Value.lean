import CyberRange.Entries

namespace CyberRange

/-! JSON documents.

Objects keep the order of the document, and a whole number is kept apart from
a number with a point or an exponent, because both show in answers.
-/

inductive Json where
  | null
  | bool (value : Bool)
  | int (value : Int)
  | float (value : Float)
  | text (value : String)
  | list (items : List Json)
  | object (fields : List (String × Json))
deriving Inhabited

namespace Json

def field? (name : String) : Json → Option Json
  | .object fields => Entries.get? name fields
  | _ => none

/-- Whether a value counts as present: not null, false, zero or empty. -/
def isFilled : Json → Bool
  | .null => false
  | .bool value => value
  | .int value => value != 0
  | .float value => value != 0
  | .text value => value != ""
  | .list items => !items.isEmpty
  | .object fields => !fields.isEmpty

def ofTexts (texts : List String) : Json :=
  .list (texts.map .text)

def ofText? : Option String → Json
  | none => .null
  | some value => .text value

mutual

/-- Whether a number that JSON has no form for (not a number, infinite) occurs. -/
def hasUnwritable : Json → Bool
  | .float value => value.isNaN || value.isInf
  | .list items => anyUnwritable items
  | .object fields => anyUnwritableField fields
  | _ => false

def anyUnwritable : List Json → Bool
  | [] => false
  | item :: rest => item.hasUnwritable || anyUnwritable rest

def anyUnwritableField : List (String × Json) → Bool
  | [] => false
  | (_, value) :: rest => value.hasUnwritable || anyUnwritableField rest

end

end Json

end CyberRange
