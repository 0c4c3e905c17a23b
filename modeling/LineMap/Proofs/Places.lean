import LineMap.LinearScan
import Mathlib.Data.List.DropRight
/-!
# Places — the line and the column of an offset

The line of an offset counts the newlines before it, and its column the
characters after the last of them. Both read the text in front of the
offset and nothing else, so they can be followed in two ways:
`lineOf_succ` and `columnOf_succ` say what one more character does, and
`lastLine_append` says what a text in front does. The scan does the
former, character by character; the table never reads a text at all.
-/

namespace LineMap

namespace Text

variable {a b text : Text} {c : Char} {p q : Nat}

/-! ## The last line of a text -/

/-- The characters after the last newline, or all of them if there is no
newline. -/
def lastLine (text : Text) : Text :=
  text.rtakeWhile (· ≠ '\n')

@[simp] theorem lastLine_nil : lastLine [] = [] := rfl

/-- A newline at the end starts a line that has nothing yet. -/
@[simp] theorem lastLine_newline (a : Text) : lastLine (a ++ ['\n']) = [] :=
  List.rtakeWhile_concat_neg _ _ _ (by simp)

/-- Any other character at the end is on the last line. -/
theorem lastLine_concat (a : Text) (h : c ≠ '\n') : lastLine (a ++ [c]) = lastLine a ++ [c] :=
  List.rtakeWhile_concat_pos _ _ _ (by simpa using h)

theorem length_lastLine_le (a : Text) : (lastLine a).length ≤ a.length :=
  (List.rtakeWhile_suffix _ a).length_le

/-- **What stands in front reaches the last line only past no newline.** -/
theorem lastLine_append (a b : Text) :
    lastLine (a ++ b) = if '\n' ∈ b then lastLine b else lastLine a ++ b := by
  induction b using List.reverseRecOn with
  | nil => simp
  | append_singleton b d ih =>
    rw [← List.append_assoc]
    by_cases hd : d = '\n'
    · rw [hd, lastLine_newline, lastLine_newline]
      simp
    · have hmem : '\n' ∈ b ++ [d] ↔ '\n' ∈ b := by simp [Ne.symm hd]
      rw [lastLine_concat _ hd, ih, lastLine_concat _ hd]
      simp only [hmem]
      split <;> simp

/-! ## The place of an offset -/

/-- The number of newlines before an offset. -/
def lineOf (text : Text) (offset : Nat) : Nat :=
  (text.take offset).count '\n'

/-- The number of characters between an offset and the last newline before
it, or the start of the text. -/
def columnOf (text : Text) (offset : Nat) : Nat :=
  (lastLine (text.take offset)).length

@[simp] theorem lineOf_zero (text : Text) : text.lineOf 0 = 0 := by simp [lineOf]

@[simp] theorem columnOf_zero (text : Text) : text.columnOf 0 = 0 := by simp [columnOf]

/-- The line at the end of the text is the last one. -/
theorem lineOf_length (text : Text) : text.lineOf text.length = text.count '\n' := by
  rw [lineOf, List.take_length]

theorem lineOf_mono (text : Text) (h : p ≤ q) : text.lineOf p ≤ text.lineOf q :=
  (List.take_prefix_take_left h).sublist.count_le _

/-- No offset is on a line after the last. -/
theorem lineOf_le (text : Text) (offset : Nat) : text.lineOf offset ≤ text.count '\n' :=
  (List.take_sublist _ _).count_le _

/-- A column never exceeds its offset, so it is an offset itself. -/
theorem columnOf_le (text : Text) (offset : Nat) : text.columnOf offset ≤ offset := by
  have h := length_lastLine_le (text.take offset)
  rw [List.length_take] at h
  exact le_trans h (Nat.min_le_left _ _)

/-- Past a newline a line begins; past any other character it goes on. -/
theorem lineOf_succ (h : p < text.length) :
    text.lineOf (p + 1) = if text[p] = '\n' then text.lineOf p + 1 else text.lineOf p := by
  unfold lineOf
  rw [List.take_succ_eq_append_getElem h, List.count_append, List.count_singleton]
  split <;> simp_all

/-- Past a newline the column starts again; past any other character it
grows by one. -/
theorem columnOf_succ (h : p < text.length) :
    text.columnOf (p + 1) = if text[p] = '\n' then 0 else text.columnOf p + 1 := by
  unfold columnOf
  rw [List.take_succ_eq_append_getElem h]
  split
  next hc => rw [hc, lastLine_newline, List.length_nil]
  next hc => rw [lastLine_concat _ hc, List.length_append, List.length_singleton]

/-! ## Texts in front and behind -/

/-- What stands behind an offset does not move it to another line. -/
theorem lineOf_append_of_le (b : Text) (h : p ≤ a.length) : (a ++ b).lineOf p = a.lineOf p := by
  unfold lineOf
  rw [List.take_append_of_le_length h]

/-- Nor to another column. -/
theorem columnOf_append_of_le (b : Text) (h : p ≤ a.length) :
    (a ++ b).columnOf p = a.columnOf p := by
  unfold columnOf
  rw [List.take_append_of_le_length h]

/-- A text in front adds its newlines to every line. -/
theorem lineOf_append_add (a b : Text) (p : Nat) :
    (a ++ b).lineOf (a.length + p) = a.count '\n' + b.lineOf p := by
  unfold lineOf
  rw [List.take_length_add_append, List.count_append]

/-- It moves only the columns of the first line, by the length of its own
last line. -/
theorem columnOf_append_add (a b : Text) (p : Nat) :
    (a ++ b).columnOf (a.length + p) =
      if '\n' ∈ b.take p then b.columnOf p else (lastLine a).length + (b.take p).length := by
  unfold columnOf
  rw [List.take_length_add_append, lastLine_append]
  split
  · rfl
  · rw [List.length_append]

/-! ## Locations -/

/-- The location of a position, from the text in front of it. -/
def locationOf (text : Text) (p : Position) : Location :=
  ⟨text.lineOf p.offset, ⟨text.columnOf p.offset, (columnOf_le _ _).trans p.offset_le⟩⟩

@[simp] theorem line_locationOf (text : Text) (p : Position) :
    (text.locationOf p).line = text.lineOf p.offset := rfl

@[simp] theorem offset_column_locationOf (text : Text) (p : Position) :
    (text.locationOf p).column.offset = text.columnOf p.offset := rfl

/-- The scan carries the place of the offset that it has reached: its step
is the step of the line and of the column. -/
theorem advance_place (h : p < text.length) :
    advance (text.lineOf p, text.columnOf p) text[p] =
      (text.lineOf (p + 1), text.columnOf (p + 1)) := by
  rw [lineOf_succ h, columnOf_succ h, advance]
  split <;> rfl

/-- **A scan up to an offset ends at the place of the offset.** -/
theorem foldl_advance_take (text : Text) (h : p ≤ text.length) :
    (text.take p).foldl advance (0, 0) = (text.lineOf p, text.columnOf p) := by
  induction p with
  | zero => simp
  | succ p ih =>
    rw [List.take_succ_eq_append_getElem h, List.foldl_append, ih (Nat.le_of_succ_le h)]
    exact advance_place h

end Text

/-- The position at an offset that fits. -/
theorem Position.ofInt_natCast {n : Nat} (h : n ≤ maxOffset) :
    Position.ofInt n = .ok ⟨n, h⟩ := by
  rw [Position.ofInt, dif_pos ⟨Int.natCast_nonneg n, by exact_mod_cast h⟩]
  rfl

/-- **The scan finds the location of every position inside the text**, and
nothing for the others. -/
theorem Text.locateByScan_eq (text : Text) (p : Position) :
    text.locateByScan p.offset =
      .ok (if p.offset < text.length then some (text.locationOf p) else none) := by
  unfold locateByScan
  by_cases h : p.offset < text.length
  · have hcolumn := Position.ofInt_natCast ((columnOf_le text p.offset).trans p.offset_le)
    rw [if_neg (by omega), if_pos h, leading, if_pos (Int.natCast_nonneg _), Int.toNat_natCast,
      foldl_advance_take text h.le]
    dsimp only
    rw [hcolumn]
    rfl
  · rw [if_pos (by omega), if_neg h]

end LineMap
