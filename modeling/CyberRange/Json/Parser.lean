import CyberRange.Json.Value

namespace CyberRange.Json

/-! Reading a document.

The reader works on what is left of the input and reports a defect by the
number of characters left where it was met, so an offset is the input's length
less that number.  Of a repeated field the last value stays, at the place of the
first.  Names of numbers that JSON lacks are read as well.
-/

inductive Defect where
  | expectingValue
  | extraData
  | expectingName
  | expectingColon
  | expectingComma
  | unterminatedText
  | controlCharacter
  | unknownEscape
  | brokenUnit
  /-- A whole number with more digits than may be read. -/
  | tooManyDigits (count : Nat)
  /-- Lists and objects inside one another beyond what may be read. -/
  | tooDeep (inObject : Bool)
deriving Repr, DecidableEq

/-- Whole numbers are read up to this number of digits. -/
def digitLimit : Nat := 4300

/-- Lists and objects are read up to this number inside one another. -/
def nestingLimit : Nat := 970

def Defect.message : Defect → String
  | .expectingValue => "Expecting value"
  | .extraData => "Extra data"
  | .expectingName => "Expecting property name enclosed in double quotes"
  | .expectingColon => "Expecting ':' delimiter"
  | .expectingComma => "Expecting ',' delimiter"
  | .unterminatedText => "Unterminated string starting at"
  | .controlCharacter => "Invalid control character at"
  | .unknownEscape => "Invalid \\escape"
  | .brokenUnit => "Invalid \\uXXXX escape"
  | .tooManyDigits count =>
      "Exceeds the limit (" ++ toString digitLimit ++
        " digits) for integer string conversion: value has " ++ toString count ++
        " digits; use sys.set_int_max_str_digits() to increase the limit"
  | .tooDeep inObject =>
      "maximum recursion depth exceeded while decoding a JSON " ++
        (if inObject then "object" else "array") ++ " from a unicode string"

structure Fault where
  defect : Defect
  left : Nat
deriving Repr, DecidableEq

def isGap (c : Char) : Bool :=
  c == ' ' || c == '\t' || c == '\n' || c == '\r'

def skipGaps (input : List Char) : List Char :=
  input.dropWhile isGap

def hexValue? (c : Char) : Option Nat :=
  if '0' ≤ c && c ≤ '9' then some (c.toNat - '0'.toNat)
  else if 'a' ≤ c && c ≤ 'f' then some (c.toNat - 'a'.toNat + 10)
  else if 'A' ≤ c && c ≤ 'F' then some (c.toNat - 'A'.toNat + 10)
  else none

/-- Four hexadecimal digits as a UTF-16 unit; a closing quote has to follow, so
something must be left behind them. -/
def unit? : List Char → Option (Nat × List Char)
  | a :: b :: c :: d :: rest =>
      match hexValue? a, hexValue? b, hexValue? c, hexValue? d with
      | some a, some b, some c, some d =>
          if rest.isEmpty then none else some (((a * 16 + b) * 16 + c) * 16 + d, rest)
      | _, _, _, _ => none
  | _ => none

def isHighUnit (unit : Nat) : Bool := 0xD800 ≤ unit && unit ≤ 0xDBFF

def isLowUnit (unit : Nat) : Bool := 0xDC00 ≤ unit && unit ≤ 0xDFFF

/-- The character of a unit; half a surrogate pair has none. -/
def unitChar (unit : Nat) : Char :=
  if isHighUnit unit || isLowUnit unit then '\uFFFD' else Char.ofNat unit

def pairChar (high low : Nat) : Char :=
  Char.ofNat (0x10000 + (high - 0xD800) * 0x400 + (low - 0xDC00))

/-- The character after an escape's backslash and `u`, and what follows.  The
`u` itself is where a broken unit is reported. -/
def scanUnit (input : List Char) : Except Fault (Char × List Char) :=
  match unit? input with
  | none => .error ⟨.brokenUnit, input.length + 1⟩
  | some (high, rest) =>
      if isHighUnit high then
        match rest with
        | '\x5c' :: 'u' :: more =>
            if more.length < 5 then .ok (unitChar high, rest)
            else
              match unit? more with
              | none => .error ⟨.brokenUnit, more.length + 1⟩
              | some (low, beyond) =>
                  if isLowUnit low then .ok (pairChar high low, beyond)
                  else .ok (unitChar high, rest)
        | _ => .ok (unitChar high, rest)
      else .ok (unitChar high, rest)

def plainEscape? (c : Char) : Option Char :=
  if c == '\x22' || c == '\x5c' || c == '/' then some c
  else if c == 'b' then some '\x08'
  else if c == 'f' then some '\x0c'
  else if c == 'n' then some '\n'
  else if c == 'r' then some '\r'
  else if c == 't' then some '\t'
  else none

/-- The letters up to the closing quote; `opened` characters were left at the
opening one.  Every letter takes at least one character, so as much fuel as
there is input suffices. -/
def scanLetters (opened : Nat) : Nat → List Char → Except Fault ((List Char) × List Char)
  | 0, _ => .error ⟨.unterminatedText, opened⟩
  | _ + 1, [] => .error ⟨.unterminatedText, opened⟩
  | fuel + 1, c :: rest =>
      if c == '\x22' then .ok ([], rest)
      else if c == '\x5c' then
        match rest with
        | [] => .error ⟨.unterminatedText, opened⟩
        | 'u' :: more => do
            let (letter, beyond) ← scanUnit more
            let (letters, left) ← scanLetters opened fuel beyond
            .ok (letter :: letters, left)
        | e :: more =>
            match plainEscape? e with
            | none => .error ⟨.unknownEscape, rest.length + 1⟩
            | some letter => do
                let (letters, left) ← scanLetters opened fuel more
                .ok (letter :: letters, left)
      else if c.toNat < 0x20 then .error ⟨.controlCharacter, rest.length + 1⟩
      else do
        let (letters, left) ← scanLetters opened fuel rest
        .ok (c :: letters, left)

def scanText (input : List Char) : Except Fault (String × List Char) := do
  let (letters, rest) ← scanLetters (input.length + 1) (input.length + 1) input
  .ok (String.ofList letters, rest)

/-- What is left after a word, if the input starts with it. -/
def after? : List Char → List Char → Option (List Char)
  | [], input => some input
  | _ :: _, [] => none
  | expected :: word, c :: rest => if expected == c then after? word rest else none

def digitsValue (digits : List Char) : Nat :=
  digits.foldl (fun value digit => value * 10 + (digit.toNat - '0'.toNat)) 0

/-- `significand * 10 ^ exponent` as a double.  Beyond the range of doubles the
exact exponent no longer matters. -/
def decimalFloat (significand : Nat) (exponent : Int) : Float :=
  let magnitude := exponent + (Nat.toDigits 10 significand).length
  if significand = 0 || magnitude < -400 then 0.0
  else if 400 < magnitude then 1.0 / 0.0
  else Float.ofScientific significand (exponent < 0) exponent.natAbs

/-- The digits behind a point, if the input starts with a point and a digit. -/
def scanFraction (input : List Char) : Option (List Char × List Char) :=
  match input with
  | '.' :: rest =>
      let digits := rest.takeWhile Char.isDigit
      if digits.isEmpty then none else some (digits, rest.dropWhile Char.isDigit)
  | _ => none

/-- An exponent, if the input starts with a mark, perhaps a sign, and a digit. -/
def scanExponent (input : List Char) : Option (Int × List Char) :=
  match input with
  | mark :: rest =>
      if mark == 'e' || mark == 'E' then
        let (negative, unsigned) : Bool × List Char :=
          match rest with
          | '-' :: more => (true, more)
          | '+' :: more => (false, more)
          | _ => (false, rest)
        let digits := unsigned.takeWhile Char.isDigit
        if digits.isEmpty then none
        else
          let value : Int := digitsValue digits
          some (if negative then -value else value, unsigned.dropWhile Char.isDigit)
      else none
  | [] => none

/-- A number whose sign has been read; `left` characters were left before it. -/
def scanUnsigned (negative : Bool) (left : Nat) (input : List Char) :
    Except Fault (Json × List Char) :=
  let whole : List Char :=
    match input with
    | '0' :: _ => ['0']
    | _ => input.takeWhile Char.isDigit
  let rest := input.drop whole.length
  if whole.isEmpty then .error ⟨.expectingValue, left⟩
  else
    let (fraction, rest, pointed) : List Char × List Char × Bool :=
      match scanFraction rest with
      | some (digits, more) => (digits, more, true)
      | none => ([], rest, false)
    let (exponent, rest, scaled) : Int × List Char × Bool :=
      match scanExponent rest with
      | some (value, more) => (value, more, true)
      | none => (0, rest, false)
    if pointed || scaled then
      let size := decimalFloat (digitsValue (whole ++ fraction)) (exponent - fraction.length)
      .ok (.float (if negative then -size else size), rest)
    else if digitLimit < whole.length then .error ⟨.tooManyDigits whole.length, left⟩
    else
      let size : Int := digitsValue whole
      .ok (.int (if negative then -size else size), rest)

/-- A value that is neither a text nor holds others. -/
def scanScalar (input : List Char) : Except Fault (Json × List Char) :=
  let names : List (String × Json) :=
    [("null", .null), ("true", .bool true), ("false", .bool false), ("NaN", .float (0.0 / 0.0)),
      ("Infinity", .float (1.0 / 0.0)), ("-Infinity", .float (-1.0 / 0.0))]
  match names.findSome? fun (name, value) =>
      (after? name.toList input).map fun rest => (value, rest) with
  | some found => .ok found
  | none =>
      match input with
      | '-' :: rest => scanUnsigned true input.length rest
      | _ => scanUnsigned false input.length input

mutual

/-- A value with up to `room` lists and objects inside one another. -/
def scanValue : Nat → Nat → List Char → Except Fault (Json × List Char)
  | 0, _, input => .error ⟨.expectingValue, input.length⟩
  | fuel + 1, room, input =>
      match input with
      | '\x22' :: rest => do
          let (value, left) ← scanText rest
          .ok (.text value, left)
      | '[' :: rest =>
          if room = 0 then .error ⟨.tooDeep false, input.length⟩
          else
            match skipGaps rest with
            | ']' :: left => .ok (.list [], left)
            | inner => do
                let (items, left) ← scanItems fuel (room - 1) inner
                .ok (.list items, left)
      | '\x7b' :: rest =>
          if room = 0 then .error ⟨.tooDeep true, input.length⟩
          else
            match skipGaps rest with
            | '\x7d' :: left => .ok (.object [], left)
            | inner => do
                let (fields, left) ← scanFields fuel (room - 1) inner
                .ok (.object (Entries.ofPairs fields), left)
      | _ => scanScalar input

def scanItems : Nat → Nat → List Char → Except Fault ((List Json) × List Char)
  | 0, _, input => .error ⟨.expectingValue, input.length⟩
  | fuel + 1, room, input => do
      let (item, rest) ← scanValue fuel room input
      match skipGaps rest with
      | ']' :: left => .ok ([item], left)
      | ',' :: more => do
          let (items, left) ← scanItems fuel room (skipGaps more)
          .ok (item :: items, left)
      | other => .error ⟨.expectingComma, other.length⟩

def scanFields : Nat → Nat → List Char → Except Fault ((List (String × Json)) × List Char)
  | 0, _, input => .error ⟨.expectingName, input.length⟩
  | fuel + 1, room, input =>
      match input with
      | '\x22' :: start => do
          let (name, rest) ← scanText start
          match skipGaps rest with
          | ':' :: afterColon => do
              let (value, beyond) ← scanValue fuel room (skipGaps afterColon)
              match skipGaps beyond with
              | '\x7d' :: left => .ok ([(name, value)], left)
              | ',' :: more => do
                  let (fields, left) ← scanFields fuel room (skipGaps more)
                  .ok ((name, value) :: fields, left)
              | other => .error ⟨.expectingComma, other.length⟩
          | other => .error ⟨.expectingColon, other.length⟩
      | other => .error ⟨.expectingName, other.length⟩

end

/-- A whole document: one value between gaps.  A step into a list or object takes
two calls and at least one character, so the fuel suffices. -/
def scanDocument (input : List Char) : Except Fault Json := do
  let (value, rest) ← scanValue (2 * input.length + 2) nestingLimit (skipGaps input)
  match skipGaps rest with
  | [] => .ok value
  | extra => .error ⟨.extraData, extra.length⟩

structure Malformed where
  defect : Defect
  offset : Nat
deriving Repr, DecidableEq

/-- Reads a text; one byte order mark in front of it is skipped. -/
def parse (source : String) : Except Malformed Json :=
  let letters := match source.toList with
    | '\uFEFF' :: rest => rest
    | whole => whole
  match scanDocument letters with
  | .ok value => .ok value
  | .error fault => .error ⟨fault.defect, letters.length - fault.left⟩

end CyberRange.Json
