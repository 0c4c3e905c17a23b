import LineMap.Proofs.NewlinePlaces
/-!
# Newline search — the leaps that build the table

The table is built by a search that leaps from newline to newline. `Search`
tells such a search leap by leap, with what it has found at its end, so that
a text has at most one, and none if the leaps never ended. The builder shows
that there is one (`exists_search`), and the table is the start of the text
and what that search has found.
-/

namespace LineMap

namespace Text

variable {text : Text} {offset i : Nat} {found other : List Nat}

/-- The first newline of a text from an offset on. -/
structure FirstNewline (text : Text) (offset i : Nat) : Prop where
  le : offset ≤ i
  newline : text[i]? = some '\n'
  first : ∀ j, offset ≤ j → j < i → text[j]? ≠ some '\n'

/-- **A search for newlines** from an offset on, with the starts of lines that
it finds. -/
inductive Search (text : Text) : Nat → List Nat → Prop
  /-- It stops where no newline is left, at the end of the text at the latest. -/
  | stop {offset : Nat} (h : ∀ i, offset ≤ i → text[i]? ≠ some '\n') : Search text offset []
  /-- Otherwise it leaps over the first newline and goes on behind it. -/
  | leap {offset i : Nat} {found : List Nat} (h : FirstNewline text offset i)
      (rest : Search text (i + 1) found) : Search text offset ((i + 1) :: found)

/-- There is one first newline. -/
theorem FirstNewline.unique {j : Nat} (hi : FirstNewline text offset i)
    (hj : FirstNewline text offset j) : i = j := by
  rcases Nat.lt_trichotomy i j with h | h | h
  · exact absurd hi.newline (hj.first i hi.le h)
  · exact h
  · exact absurd hj.newline (hi.first j hj.le h)

/-- **A search has one outcome.** -/
theorem Search.unique (h : Search text offset found) (h' : Search text offset other) :
    other = found := by
  induction h generalizing other with
  | stop hnone =>
    cases h' with
    | stop => rfl
    | leap hfirst => exact absurd hfirst.newline (hnone _ hfirst.le)
  | leap hfirst _ ih =>
    cases h' with
    | stop hnone => exact absurd hfirst.newline (hnone _ hfirst.le)
    | leap hfirst' rest =>
      obtain rfl := hfirst.unique hfirst'
      rw [ih rest]

/-- **The builder searches to the end.** What it adds to the starts known so far
is what a search finds from its offset on. By the recursion of the builder,
each step of which is a leap; what is left of the text is always what is left
of it from the offset on. -/
theorem exists_search (text : Text) (offset : Nat) (starts : Array Nat) :
    ∃ found, Search text offset found ∧
      lineStartsFrom offset (text.drop offset) starts = starts ++ found.toArray := by
  generalize hrest : text.drop offset = rest
  fun_induction lineStartsFrom offset rest starts with
  | case1 offset rest starts h =>
    refine ⟨[], .stop ?_, by simp⟩
    intro i hi hnewline
    obtain ⟨k, rfl⟩ := Nat.exists_eq_add_of_le hi
    rw [← List.getElem?_drop, hrest] at hnewline
    simpa using List.findIdx?_eq_none_iff.1 h '\n' (List.mem_of_getElem? hnewline)
  | case2 offset rest starts i h ih =>
    obtain ⟨hi, hc, hbefore⟩ := List.findIdx?_eq_some_iff_getElem.1 h
    have hleft : text.drop (offset + i + 1) = rest.drop (i + 1) := by
      rw [← hrest, List.drop_drop, Nat.add_assoc]
    obtain ⟨found, hsearch, hstarts⟩ := ih hleft
    have hfirst : FirstNewline text offset (offset + i) := by
      refine ⟨Nat.le_add_right _ _, ?_, ?_⟩
      · rw [← List.getElem?_drop, hrest, List.getElem?_eq_getElem hi]
        exact congrArg some (by simpa using hc)
      · intro j hle hlt hnewline
        obtain ⟨k, rfl⟩ := Nat.exists_eq_add_of_le hle
        rw [← List.getElem?_drop, hrest] at hnewline
        obtain ⟨hk, hnewline⟩ := List.getElem?_eq_some_iff.1 hnewline
        exact absurd hnewline (by simpa using hbefore k (by omega))
    refine ⟨(offset + i + 1) :: found, .leap hfirst hsearch, ?_⟩
    rw [hstarts]
    simp

/-! ## The table -/

/-- The last line of a text starts at its end exactly if the text is empty or
ends in a newline: one character before the end is the line of the front. -/
theorem lineStart_count_eq_length_iff :
    text.lineStart (text.count '\n') = text.length ↔ text = [] ∨ text.getLast? = some '\n' := by
  rcases List.eq_nil_or_concat' text with rfl | ⟨front, c, rfl⟩
  · simp
  · have hlen : (front ++ [c]).length = front.length + 1 := List.length_append
    have hfront : lineOf (front ++ [c]) front.length = front.count '\n' := by
      unfold lineOf
      rw [List.take_left]
    have hle := lineStart_le_length_iff.2 (le_refl ((front ++ [c]).count '\n'))
    have hbefore : lineStart (front ++ [c]) ((front ++ [c]).count '\n') ≤ front.length ↔
        (front ++ [c]).count '\n' ≤ front.count '\n' := by
      rw [← hfront]
      exact lineStart_le_iff (by omega)
    have hends : front ++ [c] = [] ∨ (front ++ [c]).getLast? = some '\n' ↔ c = '\n' := by
      rw [List.getLast?_concat, Option.some.injEq]
      exact or_iff_right (List.append_ne_nil_of_right_ne_nil _ (List.cons_ne_nil _ _))
    rw [hends]
    by_cases hc : c = '\n'
    · have hcount : (front ++ [c]).count '\n' = front.count '\n' + 1 := by
        rw [hc, List.count_append, List.count_singleton_self]
      exact iff_of_true (by omega) hc
    · have hcount : (front ++ [c]).count '\n' = front.count '\n' := by
        rw [List.count_append, List.count_singleton, if_neg (by simpa using hc), Nat.add_zero]
      exact iff_of_false (by omega) hc

/-- **The table of a text.** The search from its start ends, and it has one
outcome. Behind the start of the text, the table is that outcome: it ascends,
it has the offset behind each newline and no other, so it has one entry more
than there are newlines, and its last entry is not past the end of the text.
It is the end exactly if the text is empty or ends in a newline. -/
theorem search_lineStarts (text : Text) :
    ∃ found, (∀ other, Search text 0 other ↔ other = found) ∧
      text.lineStarts.toList = 0 :: found ∧
      (0 :: found).Pairwise (· < ·) ∧
      (∀ x, x ∈ found ↔ ∃ i, text[i]? = some '\n' ∧ x = i + 1) ∧
      text.lineStarts.size = text.count '\n' + 1 ∧
      ∃ last, text.lineStarts.back? = some last ∧ last ≤ text.length ∧
        (last = text.length ↔ text = [] ∨ text.getLast? = some '\n') := by
  obtain ⟨found, hsearch, hstarts⟩ := exists_search text 0 #[0]
  have htable : text.lineStarts.toList = 0 :: found := by
    rw [lineStarts, ← List.drop_zero (l := text), hstarts]
    simp
  obtain rfl : newlineEnds 0 text = found := by
    rw [lineStarts_eq] at htable
    exact (List.cons.inj htable).2
  refine ⟨newlineEnds 0 text, ?_, htable, ?_, ?_, size_lineStarts text,
    text.lineStart (text.count '\n'), ?_, lineStart_le_length_iff.2 le_rfl,
    lineStart_count_eq_length_iff⟩
  · intro other
    constructor
    · exact hsearch.unique
    · rintro rfl
      exact hsearch
  · refine List.Pairwise.cons ?_ (pairwise_newlineEnds 0 text)
    intro x hx
    exact (bounds_of_mem_newlineEnds hx).1
  · intro x
    rw [mem_newlineEnds]
    simp only [Nat.zero_add]
  · have hlast : text.lineStarts.size - 1 < text.lineStarts.size := by
      rw [size_lineStarts]
      omega
    rw [Array.back?_eq_getElem?, Array.getElem?_eq_getElem hlast, getElem_lineStarts,
      size_lineStarts, Nat.add_sub_cancel]

example : lineStarts "Hello\nWorld\n".toList = #[0, 6, 12] := by cbv

end Text

end LineMap
