/-!
# Texts — sequences of characters, cut by offset

A text is a list of characters, and an offset counts characters from its
start. The characters are the scalar values of Unicode, so no text has a
surrogate in it. Cutting is total: what lies past the end of a text is not
part of any cut, so a cut never fails and never invents a character.
-/

namespace LineMap

/-- A text, character by character. -/
abbrev Text := List Char

namespace Text

/-- The characters from offset `low` up to, and without, offset `high`. -/
def slice (text : Text) (low high : Nat) : Text :=
  (text.drop low).take (high - low)

/-- The first `count` characters; for a negative `count`, all but the last
`-count`. -/
def leading (text : Text) (count : Int) : Text :=
  if 0 ≤ count then text.take count.toNat else text.take (text.length - (-count).toNat)

/-- A cut that starts and ends at one offset is empty. -/
@[simp] theorem slice_self (text : Text) (offset : Nat) : text.slice offset offset = [] := by
  simp [slice]

/-- The cut from the start to the end is the text. -/
@[simp] theorem slice_all (text : Text) : text.slice 0 text.length = text := by
  simp [slice]

/-- A cut inside the text has as many characters as its ends are apart. -/
theorem length_slice {text : Text} {low high : Nat} (h : high ≤ text.length) :
    (text.slice low high).length = high - low := by
  simp only [slice, List.length_take, List.length_drop]
  omega

end Text

end LineMap
