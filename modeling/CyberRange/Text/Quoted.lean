import CyberRange.Text.Printable

namespace CyberRange.Text

/-! Quoted text: a text between quotes, with what cannot be read off a screen
written as an escape. -/

def apostrophe : Char := '\x27'

def quotationMark : Char := '\x22'

def backslash : Char := '\x5c'

/-- A number in lower-case hexadecimal with exactly `width` digits. -/
def hexDigits (width : Nat) (value : Nat) : List Char :=
  let digits := Nat.toDigits 16 value
  List.replicate (width - digits.length) '0' ++ digits

/-- One character as it stands between two `quote`s. -/
def escaped (quote : Char) (c : Char) : List Char :=
  if c == quote || c == backslash then [backslash, c]
  else if c == '\n' then [backslash, 'n']
  else if c == '\r' then [backslash, 'r']
  else if c == '\t' then [backslash, 't']
  else if isPrintable c then [c]
  else if c.toNat < 0x100 then backslash :: 'x' :: hexDigits 2 c.toNat
  else if c.toNat < 0x10000 then backslash :: 'u' :: hexDigits 4 c.toNat
  else backslash :: 'U' :: hexDigits 8 c.toNat

/-- Apostrophes enclose a text, unless it holds one and no quotation mark. -/
def enclosing (letters : List Char) : Char :=
  if letters.contains apostrophe && !letters.contains quotationMark then quotationMark
  else apostrophe

def quoted (text : String) : String :=
  let quote := enclosing text.toList
  String.ofList (quote :: text.toList.flatMap (escaped quote) ++ [quote])

end CyberRange.Text
