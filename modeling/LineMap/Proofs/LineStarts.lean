import LineMap.LineTable
import LineMap.Proofs.Places
import Mathlib.Data.List.GetD
/-!
# Line starts — the table against the text it was built from

The builder leaps from newline to newline; `newlineEnds` is what it has
found at the end, character by character. What a look-up needs of the
table is one equivalence, `lineStart_le_iff`: a line starts at an offset
or before it exactly if it is the line of the offset or an earlier one.
So the starts and the lines form a Galois connection, and order,
completeness and the place of every start are read off it.
-/

namespace LineMap

namespace Text

variable {a b text : Text} {i k n offset p x : Nat} {starts : Array Nat}

/-! ## The builder -/

/-- The offsets just past the newlines of a text that starts at `offset`. -/
def newlineEnds (offset : Nat) : Text → List Nat
  | [] => []
  | c :: rest =>
    if c = '\n' then (offset + 1) :: newlineEnds (offset + 1) rest
    else newlineEnds (offset + 1) rest

theorem newlineEnds_newline (offset : Nat) (rest : Text) :
    newlineEnds offset ('\n' :: rest) = (offset + 1) :: newlineEnds (offset + 1) rest := by
  rw [newlineEnds, if_pos rfl]

/-- **The newlines of a text in two parts**, those of the second part
counted from where it starts. -/
theorem newlineEnds_append (offset : Nat) (a b : Text) :
    newlineEnds offset (a ++ b) =
      newlineEnds offset a ++ newlineEnds (offset + a.length) b := by
  induction a generalizing offset with
  | nil => rfl
  | cons c a ih =>
    have hlen : offset + (c :: a).length = offset + 1 + a.length := by
      rw [List.length_cons]; omega
    rw [List.cons_append, newlineEnds, newlineEnds, ih, hlen]
    split <;> rfl

theorem length_newlineEnds (offset : Nat) (text : Text) :
    (newlineEnds offset text).length = text.count '\n' := by
  induction text generalizing offset with
  | nil => rfl
  | cons c rest ih =>
    rw [newlineEnds, List.count_cons]
    split <;> simp_all

theorem newlineEnds_of_not_mem (offset : Nat) (h : '\n' ∉ text) : newlineEnds offset text = [] := by
  rw [← List.length_eq_zero_iff, length_newlineEnds]
  exact List.count_eq_zero.2 h

/-- Every newline ends past the start of the text and not past its end. -/
theorem bounds_of_mem_newlineEnds (h : x ∈ newlineEnds offset text) :
    offset < x ∧ x ≤ offset + text.length := by
  induction text generalizing offset with
  | nil => simp [newlineEnds] at h
  | cons c rest ih =>
    have hrest : x ∈ newlineEnds (offset + 1) rest → _ := ih
    rw [newlineEnds] at h
    rw [List.length_cons]
    split at h
    · rcases List.mem_cons.1 h with rfl | h
      · omega
      · have := hrest h; omega
    · have := hrest h; omega

/-- **The builder adds exactly the ends of the newlines**, in order, to the
starts that it is given. -/
theorem lineStartsFrom_eq (offset : Nat) (rest : Text) (starts : Array Nat) :
    lineStartsFrom offset rest starts = starts ++ (newlineEnds offset rest).toArray := by
  fun_induction lineStartsFrom offset rest starts with
  | case1 offset rest starts h =>
    have hnone : '\n' ∉ rest := fun hmem => by
      simpa using List.findIdx?_eq_none_iff.1 h '\n' hmem
    rw [newlineEnds_of_not_mem offset hnone]
    simp
  | case2 offset rest starts i h ih =>
    -- the search stops at the first newline, so there is none in front of it
    obtain ⟨hi, hc, hbefore⟩ := List.findIdx?_eq_some_iff_getElem.1 h
    have hc : rest[i] = '\n' := by simpa using hc
    have hfront : '\n' ∉ rest.take i := by
      intro hmem
      obtain ⟨j, hj, hjc⟩ := List.mem_take_iff_getElem.1 hmem
      exact absurd hjc (by simpa using hbefore j (by omega))
    have hrest : rest = rest.take i ++ '\n' :: rest.drop (i + 1) := by
      rw [← hc, ← List.drop_eq_getElem_cons hi, List.take_append_drop]
    have hlen : (rest.take i).length = i := by rw [List.length_take]; omega
    conv_rhs => rw [hrest]
    rw [ih, newlineEnds_append, newlineEnds_of_not_mem offset hfront, hlen, newlineEnds_newline]
    simp

/-- The table: the start of the text, and the end of every newline. -/
theorem lineStarts_eq (text : Text) : text.lineStarts = (0 :: newlineEnds 0 text).toArray := by
  rw [lineStarts, lineStartsFrom_eq]
  simp

/-- A text has one line more than it has newlines. -/
@[simp] theorem size_lineStarts (text : Text) : text.lineStarts.size = text.count '\n' + 1 := by
  rw [lineStarts_eq, List.size_toArray, List.length_cons, length_newlineEnds]

/-! ## Starts and lines -/

/-- Where a line starts. The line after the last one would start past the
end of the text and the newline that the text does not have there. -/
def lineStart (text : Text) (line : Nat) : Nat :=
  text.lineStarts.getD line (text.length + 1)

/-- The text of a line, from its start up to the newline in front of the
next start. -/
def lineText (text : Text) (line : Nat) : Text :=
  text.slice (text.lineStart line) (text.lineStart (line + 1) - 1)

theorem getElem_lineStarts (h : k < text.lineStarts.size) :
    text.lineStarts[k] = text.lineStart k :=
  Array.getElem_eq_getD _

theorem lineStart_eq (text : Text) (k : Nat) :
    text.lineStart k = (0 :: newlineEnds 0 text).getD k (text.length + 1) := by
  rw [lineStart, lineStarts_eq, Array.getD_eq_getD_getElem?, List.getElem?_toArray,
    List.getD_eq_getElem?_getD]

@[simp] theorem lineStart_zero (text : Text) : text.lineStart 0 = 0 := lineStart_eq text 0

/-- The starts around an offset: first those of the newlines before it,
then those of the newlines from it on. -/
theorem lineStart_eq_getD_append (k : Nat) (h : p ≤ text.length) :
    text.lineStart k =
      ((0 :: newlineEnds 0 (text.take p)) ++ newlineEnds p (text.drop p)).getD k
        (text.length + 1) := by
  have hmid : 0 + (text.take p).length = p := by rw [List.length_take]; omega
  have hparts := newlineEnds_append 0 (text.take p) (text.drop p)
  rw [List.take_append_drop, hmid] at hparts
  rw [lineStart_eq, hparts, List.cons_append]

/-- **Starts against lines.** A line starts at an offset or before it
exactly if the offset is on that line or on a later one. -/
theorem lineStart_le_iff (h : p ≤ text.length) :
    text.lineStart k ≤ p ↔ k ≤ text.lineOf p := by
  have hfront : (0 :: newlineEnds 0 (text.take p)).length = text.lineOf p + 1 := by
    rw [List.length_cons, length_newlineEnds, lineOf]
  rw [lineStart_eq_getD_append k h]
  constructor
  · -- past the newlines in front, an entry ends a newline from `p` on or is
    -- the start that no line has
    intro hle
    by_contra hk
    rw [List.getD_append_right _ _ _ _ (by omega)] at hle
    rcases Nat.lt_or_ge (k - (0 :: newlineEnds 0 (text.take p)).length)
      (newlineEnds p (text.drop p)).length with hlt | hge
    · rw [List.getD_eq_getElem _ _ hlt] at hle
      have := (bounds_of_mem_newlineEnds (List.getElem_mem hlt)).1
      omega
    · rw [List.getD_eq_default _ _ hge] at hle
      omega
  · intro hk
    -- the entry is the first start, or ends a newline in front of `p`
    rw [List.getD_append _ _ _ _ (by omega), List.getD_eq_getElem _ _ (by omega)]
    rcases List.mem_cons.1 (List.getElem_mem (l := 0 :: newlineEnds 0 (text.take p))
      (n := k) (by omega)) with h0 | hmem
    · omega
    · have := (bounds_of_mem_newlineEnds hmem).2
      rw [List.length_take] at this
      omega

/-- The lines of a text are those that start inside it or at its end. -/
theorem lineStart_le_length_iff : text.lineStart k ≤ text.length ↔ k ≤ text.count '\n' := by
  rw [lineStart_le_iff le_rfl, lineOf_length]

/-- Past the last line there is only the start that no line has. -/
theorem lineStart_of_lt (h : text.count '\n' < k) : text.lineStart k = text.length + 1 := by
  rw [lineStart_eq]
  exact List.getD_eq_default _ _ (by rw [List.length_cons, length_newlineEnds]; omega)

theorem lineStart_le (text : Text) (k : Nat) : text.lineStart k ≤ text.length + 1 := by
  rcases Nat.lt_or_ge (text.count '\n') k with h | h
  · exact (lineStart_of_lt h).le
  · exact (lineStart_le_length_iff.2 h).trans (Nat.le_succ _)

/-- Only the first line starts where the text does. -/
theorem lineStart_succ_pos (text : Text) (k : Nat) : 0 < text.lineStart (k + 1) := by
  by_contra hc
  have := (lineStart_le_iff (k := k + 1) (Nat.zero_le text.length)).1 (by omega)
  rw [lineOf_zero] at this
  omega

/-- An offset comes before the start of the line after its own. -/
theorem lt_lineStart_lineOf_succ (h : p ≤ text.length) :
    p < text.lineStart (text.lineOf p + 1) := by
  by_contra hc
  have := (lineStart_le_iff (k := text.lineOf p + 1) h).1 (by omega)
  omega

/-- **The start of a line and the column on it make up the offset.** By
induction on the offset: past a newline the start is the offset itself,
and past any other character both sides grow by one. -/
theorem lineStart_lineOf_add_columnOf (h : p ≤ text.length) :
    text.lineStart (text.lineOf p) + text.columnOf p = p := by
  induction p with
  | zero => simp
  | succ p ih =>
    have hp : p < text.length := h
    have hprev := ih hp.le
    rw [columnOf_succ hp]
    by_cases hc : text[p] = '\n'
    · have hline : text.lineOf (p + 1) = text.lineOf p + 1 := by rw [lineOf_succ hp, if_pos hc]
      have hle : text.lineStart (text.lineOf p + 1) ≤ p + 1 :=
        (lineStart_le_iff h).2 (by omega)
      have hlt : p < text.lineStart (text.lineOf p + 1) := lt_lineStart_lineOf_succ hp.le
      rw [if_pos hc, hline]
      omega
    · rw [if_neg hc, lineOf_succ hp, if_neg hc]
      omega

/-- **The offsets of a line** are those from its start on, up to the start
of the next line. -/
theorem lineOf_eq (h : p ≤ text.length) (h₁ : text.lineStart k ≤ p)
    (h₂ : p < text.lineStart (k + 1)) : text.lineOf p = k := by
  have hle := (lineStart_le_iff h).1 h₁
  have hlt : ¬ k + 1 ≤ text.lineOf p := fun hc => by
    have := (lineStart_le_iff h).2 hc
    omega
  omega

/-- So the column of an offset counts from the start of its line. -/
theorem columnOf_eq (h : p ≤ text.length) (h₁ : text.lineStart k ≤ p)
    (h₂ : p < text.lineStart (k + 1)) : text.columnOf p = p - text.lineStart k := by
  have hsum := lineStart_lineOf_add_columnOf h
  rw [lineOf_eq h h₁ h₂] at hsum
  omega

/-- Lines start one after the other: the newline between two of them stands
before the second start. -/
theorem lineStart_lt_succ (h : k ≤ text.count '\n') :
    text.lineStart k < text.lineStart (k + 1) := by
  have hle := lineStart_le_length_iff.2 h
  rcases Nat.eq_zero_or_pos (text.lineStart k) with h0 | hpos
  · rw [h0]
    exact lineStart_succ_pos text k
  · -- one step back the line is an earlier one, and one step moves it by one at most
    obtain ⟨p, hp⟩ := Nat.exists_eq_add_one_of_ne_zero hpos.ne'
    have hlt : p < text.length := by omega
    have hprev : ¬ k ≤ text.lineOf p := fun hc => by
      have := (lineStart_le_iff hlt.le).2 hc
      omega
    have hstep := lineOf_succ hlt
    rw [← hp] at hstep
    by_contra hc
    have hnext := (lineStart_le_iff hle).1 (by omega : text.lineStart (k + 1) ≤ text.lineStart k)
    split at hstep <;> omega

/-! ## Starts in two parts of a text -/

/-- Moving a text moves the ends of its newlines along. -/
theorem newlineEnds_add (n offset : Nat) (text : Text) :
    newlineEnds (n + offset) text = (newlineEnds offset text).map (n + ·) := by
  induction text generalizing offset with
  | nil => rfl
  | cons c rest ih =>
    rw [newlineEnds, newlineEnds, Nat.add_assoc, ih]
    split <;> rfl

/-- **Past the first newline the lines are those of the rest**, behind it. -/
theorem lineStart_append_newline (h : '\n' ∉ a) (b : Text) (k : Nat) :
    (a ++ '\n' :: b).lineStart (k + 1) = (a.length + 1) + b.lineStart k := by
  have hends : newlineEnds 0 (a ++ '\n' :: b) =
      (0 :: newlineEnds 0 b).map (a.length + 1 + ·) := by
    rw [newlineEnds_append, newlineEnds_of_not_mem 0 h, newlineEnds_newline, List.map_cons,
      ← newlineEnds_add]
    simp
  have hlen : (a ++ '\n' :: b).length + 1 = (a.length + 1) + (b.length + 1) := by
    rw [List.length_append, List.length_cons]; omega
  rw [lineStart_eq, lineStart_eq, List.getD_cons_succ, hends, hlen, List.getD_map]

end Text

end LineMap
