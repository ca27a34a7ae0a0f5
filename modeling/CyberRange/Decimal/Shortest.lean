namespace CyberRange.Decimal

/-! The shortest decimal that reads back as a given binary number.

A finite positive double is `significand * 2 ^ power`.  The reals that round to
it form an interval, whose ends belong to it exactly when the significand is
even.  A grid is the set of multiples of one power of ten.  The coarsest grid
with a point in the interval gives the fewest digits, and of the two points of
that grid around the value the nearer one is taken.
-/

/-- A positive double as `significand * 2 ^ power`; `narrow` says that the next
smaller double is nearer than the next larger one. -/
structure Binary where
  significand : Nat
  power : Int
  narrow : Bool
deriving Repr, DecidableEq

/-- The parts of a finite double's bits, its sign apart. -/
def Binary.ofBits (bits : UInt64) : Binary :=
  let fraction : Nat := bits.toNat % Nat.pow 2 52
  let exponent : Nat := bits.toNat / Nat.pow 2 52 % Nat.pow 2 11
  if exponent = 0 then
    { significand := fraction, power := -1074, narrow := false }
  else
    { significand := Nat.pow 2 52 + fraction, power := (exponent : Int) - 1075,
      narrow := fraction = 0 && 1 < exponent }

/-- `scaled factor power` is the numerator of `factor * 2 ^ power` over the
denominator `2 ^ (-power)`, or over one when the power is not negative. -/
def scaled (factor : Nat) (power : Int) : Nat :=
  factor * Nat.pow 2 power.toNat

/-- Whether `digits * 10 ^ exponent` rounds to the number.  Everything is
compared in quarters of the last binary place. -/
def Binary.admits (number : Binary) (digits : Nat) (exponent : Int) : Bool :=
  let quarters := number.power - 2
  let point := digits * Nat.pow 10 exponent.toNat * Nat.pow 2 (-quarters).toNat
  let unit := Nat.pow 10 (-exponent).toNat
  let below := scaled (4 * number.significand - if number.narrow then 1 else 2) quarters * unit
  let above := scaled (4 * number.significand + 2) quarters * unit
  if number.significand % 2 = 0 then below ≤ point && point ≤ above
  else below < point && point < above

/-- The multiple of `10 ^ exponent` just below the number, and what is missing
to the number, both in units of `10 ^ exponent`: quotient, remainder, divisor. -/
def Binary.onGrid (number : Binary) (exponent : Int) : Nat × Nat × Nat :=
  let numerator := scaled number.significand number.power * Nat.pow 10 (-exponent).toNat
  let divisor := Nat.pow 10 exponent.toNat * Nat.pow 2 (-number.power).toNat
  (numerator / divisor, numerator % divisor, divisor)

/-- The nearer of the number's neighbours on the grid that rounds to it; of two
equally near ones the even one. -/
def Binary.pointOn? (number : Binary) (exponent : Int) : Option Nat :=
  let (lower, missing, divisor) := number.onGrid exponent
  let lowerFits := 0 < lower && number.admits lower exponent
  let upperFits := number.admits (lower + 1) exponent
  if lowerFits && upperFits then
    if 2 * missing < divisor || (2 * missing = divisor && lower % 2 = 0) then some lower
    else some (lower + 1)
  else if lowerFits then some lower
  else if upperFits then some (lower + 1)
  else none

/-- Looks for a point on ever finer grids, starting at `exponent`. -/
def Binary.searchFrom (number : Binary) (exponent : Int) : Nat → Nat × Int
  | 0 => (0, 0)
  | grids + 1 =>
      match number.pointOn? exponent with
      | some digits => (digits, exponent)
      | none => number.searchFrom (exponent - 1) grids

/-- The digits and the exponent of the shortest decimal.  Doubles lie between
`10 ^ (-324)` and `10 ^ 309`, and seventeen digits always suffice. -/
def Binary.shortest (number : Binary) : Nat × Int :=
  number.searchFrom 309 660

end CyberRange.Decimal
