import LineMap.Proofs.LocationOrder
import LineMap.Proofs.SpanViews
/-!
# Span ends — the locations of a span against the text that it covers

The ends of a span are located one by one, and the text of the span is cut
out without a look at the table. Both read one text: what stands before
the high end is what stands before the low end, followed by the excerpt.
So the lines of the ends are as far apart as the excerpt has newlines, and
the excerpt gives the column of the high end.
-/

namespace LineMap

namespace Text

variable {text : Text} {low high : Nat}

/-- A cut carries on where the text in front of it stops. -/
theorem take_append_slice (text : Text) (h : low ≤ high) :
    text.take low ++ text.slice low high = text.take high := by
  rw [slice, ← List.take_add, Nat.add_sub_cancel' h]

/-- **Lines move by the newlines in between.** -/
theorem lineOf_add_count_slice (text : Text) (h : low ≤ high) :
    text.lineOf low + (text.slice low high).count '\n' = text.lineOf high := by
  rw [lineOf, lineOf, ← take_append_slice text h, List.count_append]

/-- **A column is counted from the last newline in between**, and goes on
from the column before if there is none. -/
theorem columnOf_eq_of_slice (h : low ≤ high) (hhigh : high ≤ text.length) :
    text.columnOf high =
      if '\n' ∈ text.slice low high then (lastLine (text.slice low high)).length
      else text.columnOf low + (high - low) := by
  rw [columnOf, columnOf, ← take_append_slice text h, lastLine_append]
  split
  · rfl
  · rw [List.length_append, length_slice hhigh]

end Text

namespace Source

variable {s : Source} {t : Span}

/-- A span that does not go past the end has its text as excerpt. -/
theorem excerpt_of_le (h : t.high.offset ≤ s.text.length) :
    s.excerpt t = .ok (s.text.slice t.low.offset t.high.offset) := by
  rw [excerpt, length_eq, if_neg (Nat.not_lt.2 h), Span.textOf]

/-- **The ends of a span and its excerpt tell one story.** If the low end is
past the text, so is the high end. Two ends that are in the text come in
order, and they are one location exactly if the span is empty. They are as
many lines apart as the excerpt has newlines; the column of the high end is
that of the low end and the width of the span, or counts the characters
after the last newline of the excerpt. -/
theorem locateSpan_excerpt (s : Source) (t : Span) :
    ∃ a b, s.locateSpan t = .ok (a, b) ∧ (a = none → b = none) ∧
      (∀ l m, a = some l → b = some m → l ≤ m ∧ (l = m ↔ t.isEmpty = true)) ∧
      (t.high.offset < s.text.length →
        ∃ l m e, a = some l ∧ b = some m ∧ s.excerpt t = .ok e ∧
          m.line - l.line = e.count '\n' ∧
          m.column.offset =
            if '\n' ∈ e then (Text.lastLine e).length else l.column.offset + t.width) := by
  have hle : t.low.offset ≤ t.high.offset := t.low_le_high
  refine ⟨_, _, s.locateSpan_eq t, ?_, ?_, ?_⟩
  · intro hlow
    rw [ite_eq_right_iff] at hlow
    exact if_neg fun hhigh => absurd (hlow (by omega)) (Option.some_ne_none _)
  · intro l m hl hm
    obtain ⟨hlow, hl⟩ := Option.ite_none_right_eq_some.1 hl
    obtain ⟨hhigh, hm⟩ := Option.ite_none_right_eq_some.1 hm
    rw [← Option.some.inj hl, ← Option.some.inj hm, Text.locationOf_le_iff hlow.le hhigh.le,
      Text.locationOf_inj hlow.le hhigh.le, Span.isEmpty_iff]
    exact ⟨t.low_le_high, Iff.rfl⟩
  · intro hhigh
    have hlow : t.low.offset < s.text.length := by omega
    have hline := s.text.lineOf_add_count_slice hle
    have hcolumn := Text.columnOf_eq_of_slice hle hhigh.le
    refine ⟨_, _, _, if_pos hlow, if_pos hhigh, excerpt_of_le hhigh.le, ?_, ?_⟩
    · rw [Text.line_locationOf, Text.line_locationOf]
      omega
    · rw [Text.offset_column_locationOf, Text.offset_column_locationOf, hcolumn, Span.width]

/-- An excerpt of two lines that ends in a newline puts the high end at the
start of the third line. -/
theorem locateSpan_excerpt_through_newline :
    ∃ s l m, ofText .unknown ['a', 'b', '\n', 'c', 'd', '\n', 'e'] = .ok s ∧
      s.locateSpan (.between ⟨1, by decide⟩ ⟨6, by decide⟩) = .ok (some l, some m) ∧
      6 < s.text.length ∧ l ≤ m ∧ l ≠ m ∧ m.line - l.line = 2 ∧ m.column = .start := by
  obtain ⟨s, hs, -, htext⟩ := ofText_of_le .unknown
    (by decide : (['a', 'b', '\n', 'c', 'd', '\n', 'e'] : Text).length ≤ maxOffset)
  obtain ⟨a, b, hab, -, horder, hinside⟩ :=
    locateSpan_excerpt s (.between ⟨1, by decide⟩ ⟨6, by decide⟩)
  have hend : 6 < s.text.length := by rw [htext]; decide
  obtain ⟨l, m, e, rfl, rfl, he, hline, hcolumn⟩ := hinside hend
  obtain ⟨hle, heq⟩ := horder l m rfl rfl
  have hexcerpt : e = ['b', '\n', 'c', 'd', '\n'] := by
    rw [excerpt_of_le hend.le, htext] at he
    exact (Except.ok.inj he).symm
  rw [hexcerpt] at hline hcolumn
  exact ⟨s, l, m, hs, hab, hend, hle, fun h => absurd (heq.1 h) (by decide), hline,
    Position.ext hcolumn⟩

end Source

end LineMap
