import CyberRange.Json.Value
import CyberRange.Decimal.Notation
import CyberRange.Text.Quoted

namespace CyberRange.Json

/-! The one-line form of a document, in ASCII: every other character is written
by its UTF-16 units. -/

def unitEscape (unit : Nat) : List Char :=
  Text.backslash :: 'u' :: Text.hexDigits 4 unit

def escapedChar (c : Char) : List Char :=
  if c == Text.quotationMark || c == Text.backslash then [Text.backslash, c]
  else if c == '\n' then [Text.backslash, 'n']
  else if c == '\r' then [Text.backslash, 'r']
  else if c == '\t' then [Text.backslash, 't']
  else if 0x20 ≤ c.toNat && c.toNat ≤ 0x7E then [c]
  else if c.toNat < 0x10000 then unitEscape c.toNat
  else
    let above := c.toNat - 0x10000
    unitEscape (0xD800 + above / 0x400) ++ unitEscape (0xDC00 + above % 0x400)

def writeText (text : String) : String :=
  String.ofList
    (Text.quotationMark :: text.toList.flatMap escapedChar ++ [Text.quotationMark])

def writeFloat (value : Float) : String :=
  if value.isNaN then "NaN"
  else if value.isInf then (if value < 0 then "-Infinity" else "Infinity")
  else Decimal.ofFloat value

mutual

def write : Json → String
  | .null => "null"
  | .bool value => if value then "true" else "false"
  | .int value => toString value
  | .float value => writeFloat value
  | .text value => writeText value
  | .list items => "[" ++ String.intercalate ", " (writeItems items) ++ "]"
  | .object fields => "\x7b" ++ String.intercalate ", " (writeFields fields) ++ "\x7d"

def writeItems : List Json → List String
  | [] => []
  | item :: rest => write item :: writeItems rest

def writeFields : List (String × Json) → List String
  | [] => []
  | (name, value) :: rest => (writeText name ++ ": " ++ write value) :: writeFields rest

end

end CyberRange.Json
