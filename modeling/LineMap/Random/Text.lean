import LineMap.Random.Draw
import LineMap.Random.Twister
import LineMap.Text.Basic
/-!
# Random texts — generated texts with varied lines

Texts to try a line table on, made of draws: empty texts, texts of newlines
only, and texts of up to forty lines, with or without a newline at the end
and with blank lines after it. The texts of a seed are always the same, and
a longer list of them starts with the shorter one.
-/

namespace LineMap.Random

/-- The characters that lines are made of. -/
def alphabet : List Char :=
  "abcdefghijklmnopqrstuvwxyzABCDEFGHIJKLMNOPQRSTUVWXYZ0123456789 \t\r_-.;\x7b\x7d()".toList

theorem alphabet_ne_nil : alphabet ≠ [] := by decide

variable {σ : Type} (draws : Draws σ)

/-- A line of up to twenty-four characters. -/
def line : StateM σ Text := do
  let length ← draws.between 0 24 (by decide)
  times length.1 (Subtype.val <$> draws.choose alphabet alphabet_ne_nil)

/-- Lines with a newline between each two. -/
def joinLines : List Text → Text
  | [] => []
  | [last] => last
  | first :: second :: rest => first ++ '\n' :: joinLines (second :: rest)

/-- A text of one to forty lines; half of the time it ends in a newline,
and one time in ten a few more newlines follow. -/
def linedText : StateM σ Text := do
  let count ← draws.between 1 40 (by decide)
  let lines ← times count.1 (line draws)
  let closing := if isOneIn 2 (← draws.fraction) then ['\n'] else []
  let blank ←
    if isOneIn 10 (← draws.fraction) then Subtype.val <$> draws.between 1 3 (by decide)
    else pure 0
  return joinLines lines ++ closing ++ List.replicate blank '\n'

/-- A text of any shape. -/
def text : StateM σ Text := do
  let shape ← draws.fraction
  if isOneIn 20 shape then return []
  else if isOneIn 10 shape then
    return List.replicate (← draws.between 1 8 (by decide)).1 '\n'
  else linedText draws

/-- As many texts as asked for, none for a negative count. -/
def texts (count : Int) : StateM σ (List Text) :=
  times count.toNat (text draws)

/-- **The texts of a seed.** -/
def textsOfSeed (seed count : Int) : List Text :=
  ((texts (.ofWords Twister.next) count).run (Twister.ofSeed seed)).1

end LineMap.Random
