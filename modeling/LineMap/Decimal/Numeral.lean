import LineMap.Text.Basic
import LineMap.Text.Blank
import LineMap.Text.DecimalDigit
/-!
# Numerals — reading an integer from a text

An integer is written with decimal digits of any script, one sign at most
before them, and single underscores between them; blanks around it do not
count. A numeral of more than `digitLimit` digits, zeros at its front
included, is not read.
-/

namespace LineMap.Decimal

/-- The most digits that a numeral may have. -/
def digitLimit : Nat := 4300

/-- The value of digits with single underscores between them, given the
`value` and the `count` of the digits before; `due` when a digit has to
come next. -/
def digitsFrom? (value count : Nat) (due : Bool) : Text → Option Nat
  | [] => if due || digitLimit < count then none else some value
  | c :: rest =>
    if c = '_' then
      if due then none else digitsFrom? value count true rest
    else
      (Text.digitValue? c).bind fun d => digitsFrom? (10 * value + d) (count + 1) false rest

/-- The value of a numeral without blanks and sign. -/
def unsigned? (text : Text) : Option Nat :=
  digitsFrom? 0 0 true text

/-- The text without the blanks at its two ends. -/
def trim (text : Text) : Text :=
  ((text.dropWhile Text.isBlank).reverse.dropWhile Text.isBlank).reverse

/-- **The integer that a text writes**, if it writes one. -/
def integer? (text : Text) : Option Int :=
  match trim text with
  | '-' :: rest => (unsigned? rest).map fun n => -(n : Int)
  | '+' :: rest => (unsigned? rest).map fun n => (n : Int)
  | rest => (unsigned? rest).map fun n => (n : Int)

end LineMap.Decimal
