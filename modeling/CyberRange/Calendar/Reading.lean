import CyberRange.Calendar.Timestamp

namespace CyberRange.Timestamp

/-! Reading timestamps.

Every reader takes characters and returns what it read and what is left.  A text
that is no timestamp is reported with the first fault of its date, because a
date alone stands for its midnight.
-/

inductive DateFault where
  | tooShort
  | yearDigit
  | monthDigit
  | dayDigit
  | separator
  | monthRange
  | dayRange
  | leftover
  | tooEarly
  | tooLate
  | notANumber
deriving Repr, DecidableEq

def DateFault.message : DateFault → String
  | .tooShort => "input is too short"
  | .yearDigit => "invalid character in year"
  | .monthDigit => "invalid character in month"
  | .dayDigit => "invalid character in day"
  | .separator => "invalid date separator, expected \x60-\x60"
  | .monthRange => "month value is outside expected range of 1-12"
  | .dayRange => "day value is outside expected range"
  | .leftover => "unexpected extra characters at the end of the input"
  | .tooEarly => "dates before 1600 are not supported as unix timestamps"
  | .tooLate => "dates after 9999 are not supported as unix timestamps"
  | .notANumber => "NaN values not permitted"

def digits? (count : Nat) (letters : List Char) : Option (Nat × List Char) :=
  let taken := letters.take count
  if taken.length = count && taken.all Char.isDigit then
    some (taken.foldl (fun value digit => value * 10 + (digit.toNat - '0'.toNat)) 0,
      letters.drop count)
  else none

def after? (mark : Char) : List Char → Option (List Char)
  | [] => none
  | c :: rest => if c == mark then some rest else none

def isLeap (year : Nat) : Bool :=
  year % 4 = 0 && (year % 100 ≠ 0 || year % 400 = 0)

def daysIn (year month : Nat) : Nat :=
  if month = 2 then (if isLeap year then 29 else 28)
  else if month = 4 || month = 6 || month = 9 || month = 11 then 30
  else 31

def readDate (letters : List Char) : Except DateFault ((Nat × Nat × Nat) × List Char) := do
  if (String.ofList letters).utf8ByteSize < 10 then throw .tooShort
  let some (year, rest) := digits? 4 letters | throw .yearDigit
  let some rest := after? '-' rest | throw .separator
  let some (month, rest) := digits? 2 rest | throw .monthDigit
  let some rest := after? '-' rest | throw .separator
  let some (day, rest) := digits? 2 rest | throw .dayDigit
  if month < 1 || 12 < month then throw .monthRange
  if day < 1 || daysIn year month < day then throw .dayRange
  return ((year, month, day), rest)

/-- The digits behind a point or comma as microseconds; what is finer is cut off. -/
def readFraction (letters : List Char) : Option (Nat × List Char) :=
  match letters with
  | mark :: rest =>
      if mark == '.' || mark == ',' then
        let taken := rest.takeWhile Char.isDigit
        if taken.isEmpty then none
        else
          let six := (taken ++ List.replicate 6 '0').take 6
          some ((digits? 6 six).elim 0 Prod.fst, rest.dropWhile Char.isDigit)
      else some (0, letters)
  | [] => some (0, [])

/-- `HH:MM`, then perhaps seconds and a fraction: hour, minute, second,
microsecond. -/
def readClock (letters : List Char) : Option ((Nat × Nat × Nat × Nat) × List Char) := do
  let (hour, rest) ← digits? 2 letters
  let rest ← after? ':' rest
  let (minute, rest) ← digits? 2 rest
  if 23 < hour || 59 < minute then failure
  match after? ':' rest with
  | none => return ((hour, minute, 0, 0), rest)
  | some rest => do
      let (second, rest) ← digits? 2 rest
      if 59 < second then failure
      let (microsecond, rest) ← readFraction rest
      return ((hour, minute, second, microsecond), rest)

/-- An offset behind its sign: hours, minutes with or without a colon, and, where
`withSeconds` holds, perhaps seconds. -/
def readOffsetSize (withSeconds : Bool) (letters : List Char) : Option (Nat × List Char) := do
  let (hours, rest) ← digits? 2 letters
  let (minutes, rest) ← digits? 2 ((after? ':' rest).getD rest)
  if 59 < minutes || 23 < hours then failure
  let size := hours * 3600 + minutes * 60
  if withSeconds then
    match after? ':' rest with
    | none => return (size, rest)
    | some rest => do
        let (seconds, rest) ← digits? 2 rest
        return (size + seconds, rest)
  else return (size, rest)

/-- What may stand behind the time of day; nothing at all means no zone. -/
def readZone (withSeconds : Bool) (letters : List Char) : Option (Option Int) :=
  match letters with
  | [] => some none
  | sign :: rest =>
      if sign == 'Z' || sign == 'z' then
        if rest.isEmpty then some (some 0) else none
      else if sign == '+' || sign == '-' || sign == '\u2212' then
        match readOffsetSize withSeconds rest with
        | some (size, []) => some (some (if sign == '+' then (size : Int) else -(size : Int)))
        | _ => none
      else none

def isDateEnd (c : Char) : Bool :=
  c == 'T' || c == 't' || c == ' ' || c == '_'

def assemble? (withSeconds : Bool) (letters : List Char) : Option Timestamp :=
  match readDate letters with
  | .ok ((year, month, day), mark :: rest) =>
      if isDateEnd mark then do
        let ((hour, minute, second, microsecond), rest) ← readClock rest
        let offset ← readZone withSeconds rest
        return { year, month, day, hour, minute, second, microsecond, offset }
      else none
  | _ => none

/-- The inverse of `iso`. -/
def ofIso? (text : String) : Option Timestamp :=
  assemble? true text.toList

/-- A date and time, or a date alone for its midnight. -/
def read (text : String) : Except DateFault Timestamp :=
  match assemble? false text.toList with
  | some time => .ok time
  | none =>
      match readDate text.toList with
      | .error fault => .error fault
      | .ok ((year, month, day), []) =>
          .ok { year, month, day, hour := 0, minute := 0, second := 0, microsecond := 0,
                offset := none }
      | .ok (_, _ :: _) => .error .leftover

/-- The civil date of a day counted from the first of March of the year zero. -/
def civil (days : Nat) : Nat × Nat × Nat :=
  let era := days / 146097
  let dayOfEra := days % 146097
  let yearOfEra := (dayOfEra - dayOfEra / 1460 + dayOfEra / 36524 - dayOfEra / 146096) / 365
  let dayOfYear := dayOfEra - (365 * yearOfEra + yearOfEra / 4 - yearOfEra / 100)
  let shifted := (5 * dayOfYear + 2) / 153
  let month := if shifted < 10 then shifted + 3 else shifted - 9
  let year := yearOfEra + era * 400 + if month ≤ 2 then 1 else 0
  (year, month, dayOfYear - (153 * shifted + 2) / 5 + 1)

/-- The moment a number of seconds and microseconds after the start of 1970, in
universal time; a number beyond twenty thousand million counts milliseconds.
Years from 1600 to 9999 are known. -/
def ofEpoch (count : Int) (micros : Nat) : Except DateFault Timestamp :=
  let inMilliseconds := 20000000000 < count.natAbs
  let whole := if inMilliseconds then count.fdiv 1000 else count
  let fraction := micros + if inMilliseconds then (count.fmod 1000).toNat * 1000 else 0
  let seconds := whole + (fraction / 1000000 : Nat)
  if seconds < -11676096000 then .error .tooEarly
  else if 253402300799 < seconds then .error .tooLate
  else
    let days := (seconds.fdiv 86400 + 719468).toNat
    let inDay := (seconds.fmod 86400).toNat
    let (year, month, day) := civil days
    .ok { year, month, day, hour := inDay / 3600, minute := inDay / 60 % 60,
          second := inDay % 60, microsecond := fraction % 1000000, offset := some 0 }

/-- The moment a number of seconds after the start of 1970, to the nearest
microsecond. -/
def ofSeconds (count : Float) : Except DateFault Timestamp :=
  if count.isNaN then .error .notANumber
  else
    ofEpoch count.floor.toInt64.toInt
      ((count - count.floor) * 1000000.0).round.toUInt64.toNat

/-- A sign, digits, and perhaps a fraction: the number of seconds of a moment. -/
def ofCount? (text : String) : Option (Except DateFault Timestamp) :=
  let (negative, unsigned) : Bool × List Char :=
    match text.toList with
    | '-' :: rest => (true, rest)
    | '+' :: rest => (false, rest)
    | letters => (false, letters)
  let (whole, fraction) := Text.cutFirst '.' unsigned
  let digits := fraction.getD []
  if whole.isEmpty || !(whole ++ digits).all Char.isDigit then none
  else
    let value := (whole ++ digits).foldl
      (fun value digit => value * 10 + (digit.toNat - '0'.toNat)) 0
    if digits.isEmpty then some (ofEpoch (if negative then -(value : Int) else value) 0)
    else
      let size := Float.ofScientific value true digits.length
      some (ofSeconds (if negative then -size else size))

end CyberRange.Timestamp
