import CyberRange.Decimal.Shortest

namespace CyberRange.Decimal

/-! How a floating-point number is written: its shortest digits, positional for
magnitudes from `0.0001` up to `10 ^ 16`, always with a point or an exponent. -/

def zeros (count : Nat) : List Char :=
  List.replicate count '0'

/-- `0.digits * 10 ^ point`, written positionally. -/
def positional (digits : List Char) (point : Int) : List Char :=
  if point ≤ 0 then
    ['0', '.'] ++ zeros (-point).toNat ++ digits
  else if (digits.length : Int) ≤ point then
    digits ++ zeros (point.toNat - digits.length) ++ ['.', '0']
  else
    digits.take point.toNat ++ '.' :: digits.drop point.toNat

/-- One digit before the point and an exponent of at least two digits. -/
def scientific (digits : List Char) (point : Int) : List Char :=
  let power := point - 1
  let exponent := Nat.toDigits 10 power.natAbs
  let fraction := digits.drop 1
  digits.take 1 ++ (if fraction.isEmpty then [] else '.' :: fraction) ++
    ['e', if power < 0 then '-' else '+'] ++ zeros (2 - exponent.length) ++ exponent

def layout (digits : Nat) (exponent : Int) : List Char :=
  let written := Nat.toDigits 10 digits
  let point := exponent + written.length
  if -4 < point && point ≤ 16 then positional written point else scientific written point

/-- The text of a double; a sign also stands before zero. -/
def ofFloat (number : Float) : String :=
  if number.isNaN then "nan"
  else
    let sign := if number.toBits.toNat / Nat.pow 2 63 = 1 then "-" else ""
    if number.isInf then sign ++ "inf"
    else
      let binary := Binary.ofBits number.toBits
      if binary.significand = 0 then sign ++ "0.0"
      else
        let (digits, exponent) := binary.shortest
        sign ++ String.ofList (layout digits exponent)

end CyberRange.Decimal
