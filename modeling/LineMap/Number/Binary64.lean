import LineMap.Decimal.Shortest
/-!
# Doubles — their exact values and their texts

A double is taken apart into a sign, a significand and a power of two, so
that it can be compared exactly and written in decimal. Its text is the
shortest that reads back, positional where its first digit stands between
the fourth place after the point and the sixteenth before it, and in
scientific form elsewhere; a text always has a point or an exponent.
-/

namespace LineMap

/-- A double, taken apart: a finite one is `significand * 2 ^ exponent`,
with the sign put before it. -/
inductive Binary64
  | nan
  | infinite (negative : Bool)
  | finite (negative : Bool) (significand : Nat) (exponent : Int)
deriving DecidableEq

namespace Binary64

/-- The leading bit of a significand, which a double does not store. -/
def implicitBit : Nat := 1 <<< 52

/-- The parts of a double, read off its bits. -/
def ofFloat (x : Float) : Binary64 :=
  let bits := x.toBits.toNat
  let negative : Bool := decide ((1 : Nat) <<< 63 ≤ bits)
  let field : Nat := bits / implicitBit % 2048
  let fraction : Nat := bits % implicitBit
  if field = 2047 then
    if fraction = 0 then infinite negative else nan
  else if field = 0 then finite negative fraction (-1074)
  else finite negative (implicitBit + fraction) ((field : Int) - 1075)

/-- The least power of ten of a first digit that is written positionally. -/
def leastPositional : Int := -4

/-- The least power of ten above those written positionally. -/
def firstScientific : Int := 16

/-- Digits around a point, at least one on either side of it. -/
def positional (digits : List Char) (point : Int) : List Char :=
  if point ≤ 0 then '0' :: '.' :: List.replicate (-point).toNat '0' ++ digits
  else if digits.length ≤ point then
    digits ++ List.replicate (point.toNat - digits.length) '0' ++ ['.', '0']
  else digits.take point.toNat ++ '.' :: digits.drop point.toNat

/-- One digit before the point, and the power of ten with its sign and at
least two digits. -/
def scientific (digits : List Char) (power : Int) : List Char :=
  let exponent := Nat.toDigits 10 power.natAbs
  digits.take 1 ++ (if digits.length ≤ 1 then [] else '.' :: digits.drop 1) ++
    ['e', if power < 0 then '-' else '+'] ++
    List.replicate (2 - exponent.length) '0' ++ exponent

/-- The text of a magnitude. -/
def magnitudeText (significand : Nat) (exponent : Int) : List Char :=
  if significand = 0 then ['0', '.', '0']
  else
    let dense : Bool := significand = implicitBit && -1074 < exponent
    let e := (Decimal.Rounding.ofBinary significand exponent dense).shortest
    let power := e.point - 1
    if leastPositional ≤ power ∧ power < firstScientific then positional e.digits e.point
    else scientific e.digits power

/-- The text of a double. -/
def text : Binary64 → String
  | nan => "nan"
  | infinite negative => if negative then "-inf" else "inf"
  | finite negative significand exponent =>
    (if negative then "-" else "") ++ String.ofList (magnitudeText significand exponent)

end Binary64

end LineMap
