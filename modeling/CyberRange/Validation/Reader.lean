import CyberRange.Validation.Checked

namespace CyberRange.Reader

/-! Reading typed values out of documents.

Readers are lenient: a whole number may come as a text, a fraction-free number
or a truth value, a truth value as a text or as zero or one.  A text has to be a
text.  Unknown fields are ignored.
-/

def text (input : Json) : Checked String :=
  match input with
  | .text value => .valid value
  | _ => .fail .notText input

def shortText (limit : Nat) (input : Json) : Checked String :=
  (text input).bind fun value =>
    if limit < value.length then .fail (.tooLong limit) input else .valid value

def isDigits (letters : List Char) : Bool :=
  !letters.isEmpty && letters.all Char.isDigit

/-- Digits, perhaps with single underscores between them. -/
def groupedDigits? (letters : List Char) : Option Nat :=
  let groups := Text.pieces (· == '_') letters
  if groups.all isDigits then some (Json.digitsValue groups.flatten) else none

/-- A sign, grouped digits, and a fraction of zeros, all but the digits optional. -/
def wholeNumber? (letters : List Char) : Option Int :=
  let (negative, unsigned) : Bool × List Char :=
    match letters with
    | '-' :: rest => (true, rest)
    | '+' :: rest => (false, rest)
    | _ => (false, letters)
  let (whole, fraction) := Text.cutFirst '.' unsigned
  let fractionFits :=
    match fraction with
    | none => true
    | some digits => !digits.isEmpty && digits.all (· == '0')
  if fractionFits then
    (groupedDigits? whole).map fun size => if negative then -(size : Int) else size
  else none

def integerOfText (value : String) (input : Json) : Checked Int :=
  let letters := Text.trimWhere Text.isSpace value.toList
  if Json.digitLimit < (String.ofList letters).utf8ByteSize then .fail .oversizedInteger input
  else
    match wholeNumber? letters with
    | some number => .valid number
    | none => .fail .unreadableInteger input

/-- The whole number that a double is, within 64 bits. -/
def integerOfFloat (value : Float) (input : Json) : Checked Int :=
  if value.isNaN || value.isInf then .fail .infinite input
  else if value.floor != value then .fail .fractional input
  else if -9223372036854775808.0 < value && value < 9223372036854775807.0 then
    .valid value.toInt64.toInt
  else .fail .oversizedInteger input

def integer (input : Json) : Checked Int :=
  match input with
  | .int value => .valid value
  | .bool value => .valid (if value then 1 else 0)
  | .float value => integerOfFloat value input
  | .text value => integerOfText value input
  | _ => .fail .notInteger input

def atLeast (least : Int) (input : Json) : Checked Int :=
  (integer input).bind fun value =>
    if value < least then .fail (.below least) input else .valid value

def booleanOfText? (value : String) : Option Bool :=
  let lower := String.ofList (value.toList.map Char.toLower)
  if ["0", "off", "f", "false", "n", "no"].contains lower then some false
  else if ["1", "on", "t", "true", "y", "yes"].contains lower then some true
  else none

def boolean (input : Json) : Checked Bool :=
  match input with
  | .bool value => .valid value
  | .text value =>
      match booleanOfText? value with
      | some truth => .valid truth
      | none => .fail .unreadableBoolean input
  | .int value =>
      if value = 0 then .valid false
      else if value = 1 then .valid true
      else if value.natAbs < Nat.pow 2 63 then .fail .unreadableBoolean input
      else .fail .notBoolean input
  | .float value =>
      match integerOfFloat value input with
      | .valid whole =>
          if whole = 0 then .valid false
          else if whole = 1 then .valid true
          else .fail .unreadableBoolean input
      | .invalid _ => .fail .notBoolean input
  | _ => .fail .notBoolean input

/-- A case of a closed family, given by its name. -/
def caseOf (family : List (String × α)) (input : Json) : Checked α :=
  let problem := Problem.unknownCase (Entries.keys family)
  match input with
  | .text name =>
      match Entries.get? name family with
      | some found => .valid found
      | none => .fail problem input
  | _ => .fail problem input

def optionOf (family : List (String × α)) (input : Json) : Checked α :=
  let problem := Problem.unknownOption (Entries.keys family)
  match input with
  | .text name =>
      match Entries.get? name family with
      | some found => .valid found
      | none => .fail problem input
  | _ => .fail problem input

/-- The outcomes of reading each item, each issue placed at its position. -/
def items (read : Json → Checked α) (values : List Json) : Checked (List α) :=
  .sequence (values.mapIdx fun position value => (read value).under (.index position))

def listOf (read : Json → Checked α) (input : Json) : Checked (List α) :=
  match input with
  | .list values => items read values
  | _ => .fail .notList input

/-- Like a list, but reported as a tuple. -/
def tupleOf (read : Json → Checked α) (input : Json) : Checked (List α) :=
  match input with
  | .list values => items read values
  | _ => .fail .notTuple input

def mappingOf (read : Json → Checked α) (input : Json) : Checked (Entries α) :=
  match input with
  | .object fields =>
      .sequence (fields.map fun (name, value) =>
        ((read value).under (.key name)).map fun found => (name, found))
  | _ => .fail .notMapping input

def anything (input : Json) : Checked Json :=
  .valid input

def orNull (read : Json → Checked α) (input : Json) : Checked (Option α) :=
  match input with
  | .null => .valid none
  | _ => (read input).map some

/-- A moment counted from the start of 1970. -/
def countedMoment (reading : Except Timestamp.DateFault Timestamp) (input : Json) :
    Checked Timestamp :=
  match reading with
  | .ok time => .valid time
  | .error fault => .fail (.unreachableMoment fault) input

def moment (input : Json) : Checked Timestamp :=
  match input with
  | .text value =>
      match Timestamp.read value, Timestamp.ofCount? value with
      | .ok time, _ => .valid time
      | .error _, some (.ok time) => .valid time
      | .error _, some (.error fault) => .fail (.unreadableMoment fault) input
      | .error fault, none => .fail (.unreadableMoment fault) input
  | .int count => countedMoment (Timestamp.ofEpoch count 0) input
  | .float count => countedMoment (Timestamp.ofSeconds count) input
  | _ => .fail .notMoment input

/-- A field that has to be there; its absence is an issue of the whole record. -/
def required (record : Json) (name : String) (read : Json → Checked α) : Checked α :=
  match record.field? name with
  | some value => (read value).under (.key name)
  | none => .invalid [{ problem := .missing, place := [.key name], input := record }]

/-- A field that may be left out. -/
def defaulting (record : Json) (name : String) (fallback : α) (read : Json → Checked α) :
    Checked α :=
  match record.field? name with
  | some value => (read value).under (.key name)
  | none => .valid fallback

/-- A record inside another document has to be a mapping. -/
def record (name : String) (read : Json → Checked α) (input : Json) : Checked α :=
  match input with
  | .object _ => read input
  | _ => .fail (.notRecord name) input

end CyberRange.Reader
