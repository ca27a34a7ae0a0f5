import CyberRange.Text.Blank

namespace CyberRange

/-! Moments in the civil calendar.

A timestamp keeps the offset it was made with: nothing is converted, so two
timestamps of one instant at different offsets differ.
-/

/-- A date, a time of day in microseconds, and the offset from universal time in
seconds if the zone is known. -/
structure Timestamp where
  year : Nat
  month : Nat
  day : Nat
  hour : Nat
  minute : Nat
  second : Nat
  microsecond : Nat
  offset : Option Int
  /-- What the zone calls itself, if it is not called by its offset: any text. -/
  zone : Option String := none
deriving Repr, DecidableEq, Inhabited

namespace Timestamp

def date (time : Timestamp) : String :=
  Text.zeroPadded 4 time.year ++ "-" ++ Text.zeroPadded 2 time.month ++ "-" ++
    Text.zeroPadded 2 time.day

def timeOfDay (time : Timestamp) : String :=
  Text.zeroPadded 2 time.hour ++ ":" ++ Text.zeroPadded 2 time.minute ++ ":" ++
    Text.zeroPadded 2 time.second

/-- A sign, hours and minutes; seconds only if there are any. -/
def offsetText (offset : Int) : String :=
  let size := offset.natAbs
  (if offset < 0 then "-" else "+") ++ Text.zeroPadded 2 (size / 3600) ++ ":" ++
    Text.zeroPadded 2 (size / 60 % 60) ++
    if size % 60 = 0 then "" else ":" ++ Text.zeroPadded 2 (size % 60)

/-- Date and time of day, with six digits of fraction unless it is zero. -/
def dateTime (time : Timestamp) : String :=
  time.date ++ "T" ++ time.timeOfDay ++
    if time.microsecond = 0 then "" else "." ++ Text.zeroPadded 6 time.microsecond

/-- The ISO form; a timestamp without a zone has no offset in it. -/
def iso (time : Timestamp) : String :=
  time.dateTime ++
    match time.offset with
    | none => ""
    | some offset => offsetText offset

/-- The ISO form in which universal time is written `Z`. -/
def wire (time : Timestamp) : String :=
  time.dateTime ++
    match time.offset with
    | none => ""
    | some offset => if offset = 0 then "Z" else offsetText offset

/-- What a zone without a name of its own is called. -/
def offsetName (time : Timestamp) : String :=
  match time.offset with
  | none => ""
  | some offset => if offset = 0 then "UTC" else "UTC" ++ offsetText offset

def zoneName (time : Timestamp) : String :=
  time.zone.getD time.offsetName

/-- Date, hour, minute and zone, as a scan report opens.  The year is not padded. -/
def minuteStamp (time : Timestamp) : String :=
  toString time.year ++ "-" ++ Text.zeroPadded 2 time.month ++ "-" ++
    Text.zeroPadded 2 time.day ++ " " ++ Text.zeroPadded 2 time.hour ++ ":" ++
    Text.zeroPadded 2 time.minute ++ " " ++ time.zoneName

end Timestamp

end CyberRange
