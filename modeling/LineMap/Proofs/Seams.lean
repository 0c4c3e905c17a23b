import LineMap.Proofs.LineStarts
/-!
# Seams — the table of a text in two parts

The search that builds a table runs across every seam of a text. What it
finds behind a seam is what it would find in the second part alone, moved
by the length of the first; only the start of the second part is not the
start of a line of the whole, unless a newline stands in front of it, and
that newline has been found already. So the tables of the parts make up
the table of the text, and there is no other way to list starts that does:
down to single characters, the seams leave no choice.
-/

namespace LineMap

namespace Text

variable {starts other : Text → Array Nat}

/-- A way to list the starts of lines **goes by parts** if it is right about
single characters and may cut any text anywhere. -/
structure GoesByParts (starts : Text → Array Nat) : Prop where
  /-- A newline starts one more line behind it, another character none. -/
  singleton : ∀ c, starts [c] = if c = '\n' then #[0, 1] else #[0]
  /-- The starts of the second part, but for its own, follow those of the
  first, moved behind it. -/
  append : ∀ a b, starts (a ++ b) = starts a ++ ((starts b).extract 1).map (a.length + ·)

namespace GoesByParts

/-- A cut in front of a character shows what the empty text has, its own
start. -/
theorem nil (h : GoesByParts starts) : starts [] = #[0] := by
  have hseam := h.append [] ['a']
  rw [List.nil_append, h.singleton, if_neg (by decide)] at hseam
  simpa using hseam.symm

/-- **The seams leave no choice.** By induction on the text, which is cut
behind its first character. -/
theorem unique (h : GoesByParts starts) (h' : GoesByParts other) : starts = other := by
  funext text
  induction text with
  | nil => rw [h.nil, h'.nil]
  | cons c rest ih =>
    rw [← List.singleton_append, h.append, h'.append, h.singleton, h'.singleton, ih]

end GoesByParts

/-- Behind the start of the text, the table holds the ends of the newlines. -/
theorem extract_lineStarts (text : Text) :
    text.lineStarts.extract 1 = (newlineEnds 0 text).toArray := by
  rw [lineStarts_eq]
  simp

theorem goesByParts_lineStarts : GoesByParts lineStarts where
  singleton c := by
    rw [lineStarts_eq, newlineEnds]
    split <;> rfl
  append a b := by
    -- what is found behind the seam is counted from there, not from the start
    have hbehind : newlineEnds (0 + a.length) b = (newlineEnds 0 b).map (a.length + ·) := by
      rw [Nat.zero_add]
      exact newlineEnds_add a.length 0 b
    rw [extract_lineStarts, lineStarts_eq, lineStarts_eq, newlineEnds_append, hbehind]
    simp

/-- **The table by parts.** The starts of the lines of a text in two parts are
those of the first part and then, in order, those of the second but for its
first, moved by the length of the first part. No other way to list starts
goes by parts. -/
theorem lineStarts_append :
    (∀ a b : Text,
      (a ++ b).lineStarts = a.lineStarts ++ (b.lineStarts.extract 1).map (a.length + ·)) ∧
    ∀ starts, GoesByParts starts ↔ starts = lineStarts := by
  refine ⟨goesByParts_lineStarts.append, fun starts => ?_⟩
  constructor
  · intro h
    exact h.unique goesByParts_lineStarts
  · rintro rfl
    exact goesByParts_lineStarts

example : lineStarts ("a\n".toList ++ "\nb".toList) = #[0, 2, 3] := by cbv

end Text

end LineMap
