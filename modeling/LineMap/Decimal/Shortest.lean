/-!
# Shortest decimals

The decimal text of a binary number is the shortest one that reads back:
of all decimals that round to the number, one with the fewest digits, and
of those the nearest to it. The search is exact. It takes the interval of
the decimals that round to the number, and for one digit, two digits and
so on asks whether a neighbour of the number on that decimal grid lies in
the interval; seventeen digits always suffice for fifty-three bits.
-/

namespace LineMap.Decimal

/-- Ten to the power of an exponent, one for a negative exponent. -/
def tenTo (power : Int) : Nat := Nat.pow 10 power.toNat

/-- The decimals that round to one binary number, as numerators over the
one denominator `scale`. The two ends belong to them when `closed`. -/
structure Rounding where
  lower : Nat
  value : Nat
  upper : Nat
  scale : Nat
  closed : Bool

namespace Rounding

/-- The decimals that round to `significand * 2 ^ exponent`: half a unit of
the last place either way, or a quarter below it where the numbers below
lie twice as dense. The ends round to an even significand. -/
def ofBinary (significand : Nat) (exponent : Int) (denseBelow : Bool) : Rounding :=
  let unit : Nat := 1 <<< (exponent - 2).toNat
  { lower := (4 * significand - (if denseBelow then 1 else 2)) * unit
    value := 4 * significand * unit
    upper := (4 * significand + 2) * unit
    scale := 1 <<< (2 - exponent).toNat
    closed := significand % 2 = 0 }

/-- Whether `num / den` rounds to the number. -/
def contains (r : Rounding) (num den : Nat) : Bool :=
  if r.closed then r.lower * den ≤ num * r.scale && num * r.scale ≤ r.upper * den
  else r.lower * den < num * r.scale && num * r.scale < r.upper * den

/-- The grid of the multiples of `10 ^ power`: the greatest multiple not
above the number. -/
def floorOn (r : Rounding) (power : Int) : Nat :=
  r.value * tenTo (-power) / (r.scale * tenTo power)

/-- Whether the multiple `count * 10 ^ power` rounds to the number. -/
def containsMultiple (r : Rounding) (power : Int) (count : Nat) : Bool :=
  r.contains (count * tenTo power) (tenTo (-power))

/-- The neighbour of the number on a grid that rounds to it, the nearer one
if both do, and the even one if both are equally near. -/
def neighbour? (r : Rounding) (power : Int) : Option Nat :=
  let below := r.floorOn power
  match r.containsMultiple power below, r.containsMultiple power (below + 1) with
  | true, false => some below
  | false, true => some (below + 1)
  | false, false => none
  | true, true =>
    let twice := 2 * r.value * tenTo (-power)
    let middle := (2 * below + 1) * r.scale * tenTo power
    if twice < middle then some below
    else if middle < twice then some (below + 1)
    else if below % 2 = 0 then some below
    else some (below + 1)

/-- The power of ten of the number's first digit. -/
def leadingPower (r : Rounding) : Int :=
  if r.scale ≤ r.value then (Nat.toDigits 10 (r.value / r.scale)).length - 1
  else
    let quotient := (r.scale + r.value - 1) / r.value
    Int.negOfNat (Nat.toDigits 10 (quotient - 1)).length

end Rounding

/-- Digits with a point before the first of them, times a power of ten. -/
structure Expansion where
  digits : List Char
  point : Int
deriving DecidableEq

/-- The expansion of `count * 10 ^ power`, without zeros at its end. -/
def Expansion.ofMultiple (count : Nat) (power : Int) : Expansion :=
  let digits := Nat.toDigits 10 count
  ⟨(digits.reverse.dropWhile (· = '0')).reverse, power + digits.length⟩

/-- **The shortest expansion** of a number, given the decimals that round to
it. -/
def Rounding.shortest (r : Rounding) : Expansion :=
  let first := r.leadingPower
  let attempt (count : Nat) : Option Expansion :=
    let power := first + 1 - count
    (r.neighbour? power).map (Expansion.ofMultiple · power)
  ((List.range' 1 17).findSome? attempt).getD
    (Expansion.ofMultiple (r.floorOn (first - 16)) (first - 16))

end LineMap.Decimal
