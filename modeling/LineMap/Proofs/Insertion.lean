import LineMap.Proofs.Lookup
/-!
# Insertion — what new text does to the locations around it

A text put into another leaves every location in front of it alone. Behind
it, all lines move down by the newlines that it brings; the columns move
only up to the next newline, where they follow the last line of the new
text.
-/

namespace LineMap

namespace Text

variable {a b c text : Text} {n : Nat}

/-- The lines behind an insertion move by its newlines. -/
theorem lineOf_insert (a b c : Text) (n : Nat) :
    (a ++ b ++ c).lineOf ((a ++ b).length + n) =
      (a ++ c).lineOf (a.length + n) + b.count '\n' := by
  rw [lineOf_append_add, lineOf_append_add, List.count_append]
  omega

/-- **The columns behind an insertion.** Past the next newline they stay. Up
to it they follow the last line of the new text, or move along it if the
new text has no newline. -/
theorem columnOf_insert (a b : Text) (h : n ≤ c.length) :
    (a ++ b ++ c).columnOf ((a ++ b).length + n) =
      if '\n' ∈ c.take n then (a ++ c).columnOf (a.length + n)
      else if '\n' ∈ b then (lastLine b).length + n
      else (a ++ c).columnOf (a.length + n) + b.length := by
  have hlen : (c.take n).length = n := by rw [List.length_take]; omega
  rw [columnOf_append_add, columnOf_append_add, lastLine_append, hlen]
  split
  · rfl
  · split
    · rfl
    · rw [List.length_append]
      omega

end Text

namespace Source

variable {a b c : Text} {n p : Nat} {s t : Source}

/-- **What texts start with is located alike** in both of them. -/
theorem exists_locateArgument_front (hs : s.text = a ++ b) (ht : t.text = a ++ c)
    (h : p < a.length) :
    ∃ l, s.locateArgument (.int p) = .ok (some l) ∧ t.locateArgument (.int p) = .ok (some l) := by
  have hps : p < s.text.length := by rw [hs, List.length_append]; omega
  have hpt : p < t.text.length := by rw [ht, List.length_append]; omega
  obtain ⟨l, hl, hline, hcolumn⟩ := s.exists_locateArgument hps
  obtain ⟨l', hl', hline', hcolumn'⟩ := t.exists_locateArgument hpt
  rw [hs, Text.lineOf_append_of_le b h.le] at hline
  rw [hs, Text.columnOf_append_of_le b h.le] at hcolumn
  rw [ht, Text.lineOf_append_of_le c h.le] at hline'
  rw [ht, Text.columnOf_append_of_le c h.le] at hcolumn'
  have heq : l' = l := by
    ext
    · rw [hline', hline]
    · rw [hcolumn', hcolumn]
  rw [heq] at hl'
  exact ⟨l, hl, hl'⟩

/-- **Behind what is put in** every line moves by the newlines put in, and
the columns move up to the next newline. -/
theorem exists_locateArgument_behind (hs : s.text = a ++ c) (ht : t.text = a ++ b ++ c)
    (h : n < c.length) :
    ∃ l l', s.locateArgument (.int (a.length + n : Nat)) = .ok (some l) ∧
      t.locateArgument (.int ((a ++ b).length + n : Nat)) = .ok (some l') ∧
      l'.line = l.line + b.count '\n' ∧
      l'.column.offset =
        if '\n' ∈ c.take n then l.column.offset
        else if '\n' ∈ b then (Text.lastLine b).length + n
        else l.column.offset + b.length := by
  have hns : a.length + n < s.text.length := by rw [hs, List.length_append]; omega
  have hnt : (a ++ b).length + n < t.text.length := by
    rw [ht]; simp only [List.length_append]; omega
  obtain ⟨l, hl, hline, hcolumn⟩ := s.exists_locateArgument hns
  obtain ⟨l', hl', hline', hcolumn'⟩ := t.exists_locateArgument hnt
  rw [hs] at hline hcolumn
  refine ⟨l, l', hl, hl', ?_, ?_⟩
  · rw [hline', ht, Text.lineOf_insert, Int.natCast_add, hline]
  · rw [hcolumn', ht, Text.columnOf_insert a b h.le, hcolumn]

/-- **The insertion law.** Text put between two parts of a text keeps the
locations of the first part. In the second part it adds its newlines to
every line; past the next newline it keeps the column, and up to there the
column follows the last line of what was put in. -/
theorem locateArgument_insert (o o' : Origin) (a b c : Text)
    (h : (a ++ b ++ c).length ≤ maxOffset) :
    ∃ s t, ofText o (a ++ c) = .ok s ∧ ofText o' (a ++ b ++ c) = .ok t ∧
      (∀ p : Nat, p < a.length → ∃ l, s.locateArgument (.int p) = .ok (some l) ∧
        t.locateArgument (.int p) = .ok (some l)) ∧
      ∀ p : Nat, a.length ≤ p → p < (a ++ c).length →
        ∃ l l', s.locateArgument (.int p) = .ok (some l) ∧
          t.locateArgument (.int (p + b.length : Nat)) = .ok (some l') ∧
          if '\n' ∈ c.take (p - a.length) then
            l'.line = l.line + b.count '\n' ∧ l'.column = l.column
          else if '\n' ∈ b then
            l'.line = l.line + b.count '\n' ∧
              l'.column.offset = (Text.lastLine b).length + (p - a.length)
          else l'.line = l.line ∧ l'.column.offset = l.column.offset + b.length := by
  have hlen : (a ++ b ++ c).length = a.length + b.length + c.length := by
    rw [List.length_append, List.length_append]
  have hlen' : (a ++ c).length = a.length + c.length := List.length_append
  obtain ⟨s, hs, -, hst⟩ := ofText_of_le o (by omega : (a ++ c).length ≤ maxOffset)
  obtain ⟨t, ht, -, htt⟩ := ofText_of_le o' h
  refine ⟨s, t, hs, ht, ?_, ?_⟩
  · intro p hp
    rw [List.append_assoc] at htt
    exact exists_locateArgument_front hst htt hp
  · intro p hp hpc
    obtain ⟨n, rfl⟩ := Nat.exists_eq_add_of_le hp
    obtain ⟨l, l', hl, hl', hline, hcolumn⟩ :=
      exists_locateArgument_behind hst htt (by omega : n < c.length)
    have hmoved : (a ++ b).length + n = a.length + n + b.length := by
      rw [List.length_append]; omega
    rw [hmoved] at hl'
    refine ⟨l, l', hl, hl', ?_⟩
    rw [Nat.add_sub_cancel_left]
    by_cases hc : '\n' ∈ c.take n
    · rw [if_pos hc] at hcolumn ⊢
      exact ⟨hline, Position.ext hcolumn⟩
    · rw [if_neg hc] at hcolumn ⊢
      by_cases hb : '\n' ∈ b
      · rw [if_pos hb] at hcolumn ⊢
        exact ⟨hline, hcolumn⟩
      · rw [if_neg hb] at hcolumn ⊢
        -- nothing was put in that would move the lines
        have hnone : b.count '\n' = 0 := List.count_eq_zero.2 hb
        rw [hnone] at hline
        exact ⟨by omega, hcolumn⟩

/-- A text with a newline goes in before a newline: what follows on the old
line is now behind the new one, and the line after that keeps its column. -/
theorem locateArgument_insert_newline :
    (['a'] ++ ['b', '\n', 'c'] ++ ['d', '\n', 'e'] : Text).length ≤ maxOffset ∧
      (['a'] : Text).length ≤ 3 ∧ 3 < (['a'] ++ ['d', '\n', 'e'] : Text).length ∧
      ∃ s t, ofText .unknown (['a'] ++ ['d', '\n', 'e']) = .ok s ∧
        ofText .unknown (['a'] ++ ['b', '\n', 'c'] ++ ['d', '\n', 'e']) = .ok t ∧
        (∃ l, s.locateArgument (.int 0) = .ok (some l) ∧
          t.locateArgument (.int 0) = .ok (some l)) ∧
        ∃ l l', s.locateArgument (.int 3) = .ok (some l) ∧
          t.locateArgument (.int 6) = .ok (some l') ∧
          l'.line = l.line + 1 ∧ l'.column = l.column := by
  obtain ⟨s, t, hs, ht, hfront, hbehind⟩ := locateArgument_insert .unknown .unknown
    ['a'] ['b', '\n', 'c'] ['d', '\n', 'e'] (by decide)
  obtain ⟨l, l', hl, hl', hplace⟩ := hbehind 3 (by decide) (by decide)
  exact ⟨by decide, by decide, by decide, s, t, hs, ht, hfront 0 (by decide), l, l', hl, hl',
    hplace⟩

end Source

end LineMap
