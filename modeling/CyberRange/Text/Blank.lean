namespace CyberRange.Text

/-! Blank characters, and cutting text at separators.

`pieces` cuts a list wherever a separator stands and keeps the empty pieces, so
joining the pieces gives the list back.  Words at the prompt and segments of a
path are the non-empty pieces.
-/

/-- The characters with the Unicode property White_Space. -/
def isSpace (c : Char) : Bool :=
  let code := c.toNat
  (0x09 ≤ code && code ≤ 0x0D) || code == 0x20 || code == 0x85 || code == 0xA0 ||
    code == 0x1680 || (0x2000 ≤ code && code ≤ 0x200A) || code == 0x2028 ||
    code == 0x2029 || code == 0x202F || code == 0x205F || code == 0x3000

/-- What separates words at the prompt: white space and the four information
separators U+001C to U+001F. -/
def isBlank (c : Char) : Bool :=
  isSpace c || (0x1C ≤ c.toNat && c.toNat ≤ 0x1F)

/-- Drops the characters that satisfy `unwanted` from both ends. -/
def trimWhere (unwanted : Char → Bool) (letters : List Char) : List Char :=
  ((letters.dropWhile unwanted).reverse.dropWhile unwanted).reverse

/-- The text without the blanks at its ends. -/
def strip (text : String) : String :=
  String.ofList (trimWhere isBlank text.toList)

/-- Cuts a list at every separator; one piece more than there are separators. -/
def pieces (separates : α → Bool) : List α → List (List α)
  | [] => [[]]
  | item :: rest =>
      if separates item then
        [] :: pieces separates rest
      else
        match pieces separates rest with
        | [] => [[item]]
        | first :: others => (item :: first) :: others

def filledPieces (separates : α → Bool) (items : List α) : List (List α) :=
  (pieces separates items).filter fun piece => !piece.isEmpty

def words (line : String) : List String :=
  (filledPieces isBlank line.toList).map String.ofList

/-- The text up to the last `separator`, and what follows it; the first part is
empty when the separator does not occur. -/
def cutLast (separator : Char) (letters : List Char) : List Char × List Char :=
  let tail := (letters.reverse.takeWhile (· != separator)).reverse
  ((letters.reverse.dropWhile (· != separator)).drop 1 |>.reverse, tail)

/-- The text before the first `separator`, and what follows it if it occurs. -/
def cutFirst (separator : Char) (letters : List Char) : List Char × Option (List Char) :=
  (letters.takeWhile (· != separator),
    match letters.dropWhile (· != separator) with
    | [] => none
    | _ :: rest => some rest)

/-- The text without the copies of `mark` at its end. -/
def dropTrailing (mark : Char) (text : String) : String :=
  String.ofList (text.toList.reverse.dropWhile (· == mark)).reverse

/-- The text with spaces in front, at least `width` characters long. -/
def padLeft (width : Nat) (text : String) : String :=
  String.ofList (List.replicate (width - text.length) ' ') ++ text

/-- The text with spaces behind, at least `width` characters long. -/
def padRight (width : Nat) (text : String) : String :=
  text ++ String.ofList (List.replicate (width - text.length) ' ')

/-- A number in decimal with zeros in front, at least `width` digits long. -/
def zeroPadded (width : Nat) (value : Nat) : String :=
  let digits := Nat.toDigits 10 value
  String.ofList (List.replicate (width - digits.length) '0' ++ digits)

/-- Orders texts by code points; equal texts keep their places. -/
def sortBy (name : α → String) (items : List α) : List α :=
  items.mergeSort fun one other => decide (name one ≤ name other)

theorem pieces_ne_nil (separates : α → Bool) (items : List α) :
    pieces separates items ≠ [] := by
  cases items with
  | nil => simp [pieces]
  | cons item rest =>
      unfold pieces
      split
      · simp
      · split <;> simp

end CyberRange.Text
