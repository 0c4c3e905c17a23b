import LineMap.Kind
import LineMap.Number.Binary64
/-!
# Numbers — truth values, integers and doubles

Amounts, offsets and lines arrive as numbers of three kinds. They compare
by exact value, whatever their kinds, with truth values standing for zero
and one, and a double that is not a number compares with nothing. Sums of
integers are exact, and a sum with a double is a double.
-/

namespace LineMap

/-- A number of one of the three kinds. -/
inductive Number
  | bool (value : Bool)
  | int (value : Int)
  | float (value : Float)
deriving DecidableEq

namespace Number

instance : Coe Int Number := ⟨int⟩

/-- The kind of a number. -/
def kind : Number → Kind
  | bool _ => .bool
  | int _ => .int
  | float _ => .float

/-- The integer that a number stands for, unless it is a double. -/
def integer? : Number → Option Int
  | bool value => some (if value then 1 else 0)
  | int value => some value
  | float _ => none

/-- The place of a number on the line, closed at both ends. -/
inductive Place
  | least
  | inner (value : Dyadic)
  | greatest
deriving DecidableEq

/-- The order of the line. -/
def Place.le : Place → Place → Bool
  | least, _ => true
  | _, greatest => true
  | inner x, inner y => decide (x ≤ y)
  | _, _ => false

/-- Where a number stands, if it is one. -/
def place? : Number → Option Place
  | bool value => some (.inner (if value then 1 else 0))
  | int value => some (.inner (value : Dyadic))
  | float value =>
    match Binary64.ofFloat value with
    | .nan => none
    | .infinite negative => some (if negative then .least else .greatest)
    | .finite negative significand exponent =>
      let signed : Int := if negative then -significand else significand
      some (.inner (Dyadic.ofIntWithPrec signed (-exponent)))

/-- Whether one number is at most another. Integers compare as integers,
and any other pair by place. -/
def le (a b : Number) : Bool :=
  match a.integer?, b.integer? with
  | some i, some j => decide (i ≤ j)
  | _, _ =>
    match a.place?, b.place? with
    | some x, some y => x.le y
    | _, _ => false

/-- Whether two numbers are the same in value. -/
def same (a b : Number) : Bool :=
  a.le b && b.le a

/-- Whether one number is below another. -/
def lt (a b : Number) : Bool :=
  a.le b && !b.le a

/-- A number as a double. -/
def toFloat : Number → Float
  | bool value => if value then 1 else 0
  | int value => Float.ofInt value
  | float value => value

/-- The sum, exact unless one of the two is a double. -/
def add (a b : Number) : Number :=
  match a.integer?, b.integer? with
  | some i, some j => int (i + j)
  | _, _ => float (a.toFloat + b.toFloat)

instance : Add Number := ⟨add⟩

/-- How a number is written. -/
def text : Number → String
  | bool value => if value then "True" else "False"
  | int value => toString value
  | float value => (Binary64.ofFloat value).text

/-- Integers are in the order of the integers. -/
@[simp] theorem le_int (i j : Int) : (int i).le (int j) = decide (i ≤ j) := rfl

/-- Below, for integers, is below. -/
@[simp] theorem lt_int (i j : Int) : (int i).lt (int j) = decide (i < j) := by
  rw [Bool.eq_iff_iff]
  simp only [lt, le_int, Bool.and_eq_true, Bool.not_eq_true', decide_eq_true_eq,
    decide_eq_false_iff_not]
  omega

/-- Integers are the same only as integers. -/
@[simp] theorem same_int (i j : Int) : (int i).same (int j) = decide (i = j) := by
  rw [Bool.eq_iff_iff]
  simp only [same, le_int, Bool.and_eq_true, decide_eq_true_eq]
  omega

/-- Integers add as integers. -/
@[simp] theorem int_add_int (i j : Int) : int i + int j = int (i + j) := rfl

end Number

end LineMap
