import LineMap.Proofs.Lookup
/-!
# Splitting — the lines of a source make up its text

The texts of the lines are the text split at its newlines. They are
followed line by line: the first line ends at the first newline, and past
it the lines are those of the rest (`lineText_append_newline`).
-/

namespace LineMap

namespace Text

variable {a text line : Text} {k low high : Nat}

/-- Every text is a line, or a line and a newline in front of a text. -/
@[elab_as_elim] theorem lineInduction {motive : Text → Prop} (text : Text)
    (line : ∀ a, '\n' ∉ a → motive a)
    (newline : ∀ a b, '\n' ∉ a → motive b → motive (a ++ '\n' :: b)) : motive text := by
  induction hlen : text.length using Nat.strong_induction_on generalizing text with
  | _ n ih =>
    by_cases hmem : '\n' ∈ text
    · obtain ⟨a, b, rfl, ha⟩ := List.eq_append_cons_of_mem hmem
      have hshort : b.length < n := by
        rw [← hlen, List.length_append, List.length_cons]; omega
      exact newline a b ha (ih _ hshort b rfl)
    · exact line text hmem

/-- A cut behind a text in front is a cut of what stands behind it. -/
theorem slice_append_add (a b : Text) (low high : Nat) :
    (a ++ b).slice (a.length + low) (a.length + high) = b.slice low high := by
  unfold slice
  rw [List.drop_length_add_append, Nat.add_sub_add_left]

theorem slice_append_length (a b : Text) : (a ++ b).slice 0 a.length = a := by
  unfold slice
  rw [List.drop_zero, Nat.sub_zero, List.take_left]

/-- The first line ends at the first newline. -/
theorem lineText_append_newline_zero (h : '\n' ∉ a) (b : Text) :
    (a ++ '\n' :: b).lineText 0 = a := by
  rw [lineText, lineStart_append_newline h, lineStart_zero, lineStart_zero,
    Nat.add_zero, Nat.add_sub_cancel, slice_append_length]

/-- **Past the first newline the lines are those of the rest.** -/
theorem lineText_append_newline_succ (h : '\n' ∉ a) (b : Text) (k : Nat) :
    (a ++ '\n' :: b).lineText (k + 1) = b.lineText k := by
  -- no line but the first starts at zero, so what is cut off there is the
  -- newline of the rest
  have hpos := b.lineStart_succ_pos k
  have hfront : (a ++ ['\n']).length = a.length + 1 := by
    rw [List.length_append, List.length_singleton]
  have hstop : a.length + 1 + b.lineStart (k + 1) - 1 =
      (a ++ ['\n']).length + (b.lineStart (k + 1) - 1) := by omega
  rw [lineText, lineStart_append_newline h, lineStart_append_newline h, hstop, ← hfront,
    List.append_cons, slice_append_add, lineText]

/-- A text without a newline is its only line. -/
theorem lineText_of_not_mem (h : '\n' ∉ text) : text.lineText 0 = text := by
  have hcount : text.count '\n' < 1 := by rw [List.count_eq_zero.2 h]; omega
  rw [lineText, lineStart_zero, lineStart_of_lt hcount, Nat.add_sub_cancel, slice_all]

/-- **The lines of a text are the text split at its newlines.** -/
theorem map_lineText_range (text : Text) :
    (List.range (text.count '\n' + 1)).map text.lineText = text.splitOn '\n' := by
  induction text using lineInduction with
  | line a h =>
    rw [List.count_eq_zero.2 h, List.splitOn_eq_singleton h]
    simp [lineText_of_not_mem h]
  | newline a b h ih =>
    have hcount : (a ++ '\n' :: b).count '\n' = b.count '\n' + 1 := by
      rw [List.count_append, List.count_eq_zero.2 h, List.count_cons_self, Nat.zero_add]
    have hrest : (a ++ '\n' :: b).lineText ∘ Nat.succ = b.lineText :=
      funext fun k => lineText_append_newline_succ h b k
    rw [hcount, List.range_succ_eq_map, List.map_cons, List.map_map, hrest, ih,
      lineText_append_newline_zero h, List.splitOn_append_cons_self_of_not_mem h]

/-- No line has a newline. -/
theorem not_mem_of_mem_splitOn (h : line ∈ text.splitOn '\n') : '\n' ∉ line := by
  induction text using lineInduction with
  | line a ha =>
    rw [List.splitOn_eq_singleton ha, List.mem_singleton] at h
    exact h ▸ ha
  | newline a b ha ih =>
    rw [List.splitOn_append_cons_self_of_not_mem ha, List.mem_cons] at h
    rcases h with rfl | h
    · exact ha
    · exact ih h

end Text

namespace Source

variable {s : Source} {i : Int}

/-- A number has a line exactly if it is in the range of the lines. -/
theorem textOfLine_eq_none_iff : s.textOfLine i = .ok none ↔ i < 0 ∨ s.lineCount ≤ i := by
  constructor
  · intro h
    by_contra hc
    obtain ⟨k, rfl⟩ := Int.eq_ofNat_of_zero_le (by omega : 0 ≤ i)
    rw [textOfLine_natCast s (by omega)] at h
    cases h
  · exact textOfLine_eq_none

theorem spanOfLine_eq_none_iff : s.spanOfLine i = .ok none ↔ i < 0 ∨ s.lineCount ≤ i := by
  constructor
  · intro h
    by_contra hc
    obtain ⟨k, rfl⟩ := Int.eq_ofNat_of_zero_le (by omega : 0 ≤ i)
    obtain ⟨t, ht, -⟩ := s.spanOfLine_natCast (by omega : k < s.lineCount)
    rw [ht] at h
    cases h
  · exact spanOfLine_eq_none

/-- **The lines of a source are its text, split at every newline.** There is
one line more than there are newlines, none of them has a newline in it,
and with newlines between them they are the text again. No other number
has a line. -/
theorem mapM_textOfLine_eq_splitOn (s : Source) :
    s.lineCount = s.text.count '\n' + 1 ∧
      (List.range s.lineCount).mapM (fun k : Nat => s.textOfLine k) =
        .ok ((s.text.splitOn '\n').map some) ∧
      (∀ line ∈ s.text.splitOn '\n', '\n' ∉ line) ∧
      ['\n'].intercalate (s.text.splitOn '\n') = s.text ∧
      ∀ i : Int, (s.textOfLine i = .ok none ↔ i < 0 ∨ s.lineCount ≤ i) ∧
        (s.spanOfLine i = .ok none ↔ i < 0 ∨ s.lineCount ≤ i) := by
  have hlines : (List.range s.lineCount).mapM (fun k : Nat => s.textOfLine k) =
      .ok ((List.range s.lineCount).map fun k => some (s.text.lineText k)) := by
    refine mapM_eq_ok ?_
    intro k hk
    exact s.textOfLine_natCast (List.mem_range.1 hk)
  refine ⟨s.lineCount_eq, ?_, ?_, List.intercalate_splitOn '\n', ?_⟩
  · rw [hlines, ← Text.map_lineText_range, List.map_map, lineCount_eq]
    rfl
  · intro line hline
    exact Text.not_mem_of_mem_splitOn hline
  · intro i
    exact ⟨textOfLine_eq_none_iff, spanOfLine_eq_none_iff⟩

/-- A line between two newlines in a row is empty, and so is the line after
a newline at the end. -/
theorem mapM_textOfLine_of_empty_lines :
    ∃ s, ofText .unknown ['a', '\n', '\n', 'b', '\n'] = .ok s ∧
      (List.range s.lineCount).mapM (fun k : Nat => s.textOfLine k) =
        .ok [some ['a'], some [], some ['b'], some []] ∧
      ['b'] ∈ s.text.splitOn '\n' ∧ '\n' ∉ ['b'] ∧ s.textOfLine 4 = .ok none := by
  obtain ⟨s, hs, -, htext⟩ := ofText_of_le .unknown
    (by decide : (['a', '\n', '\n', 'b', '\n'] : Text).length ≤ maxOffset)
  obtain ⟨hcount, hlines, hline, -, hother⟩ := mapM_textOfLine_eq_splitOn s
  rw [htext] at hcount hlines hline
  have hmem : ['b'] ∈ s.text.splitOn '\n' := by rw [htext]; decide
  refine ⟨s, hs, hlines.trans ?_, hmem, hline _ (htext ▸ hmem), (hother 4).1.2 ?_⟩
  · decide
  · rw [hcount]; decide

end Source

end LineMap
