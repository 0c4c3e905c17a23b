import LineMap.Proofs.Lookup
import Mathlib.Data.List.Sort
/-!
# Newline places — what the table knows of a text

Behind the start of the text, the table lists the offsets just past the
newlines, in ascending order. So it knows the places of the newlines and
nothing else of the text: texts with newlines in the same places have one
table, and one table comes from no other places (`lineStarts_eq_iff`).
A look-up reads the table and the length, so it cannot tell such texts
apart, whatever their other characters are.
-/

namespace LineMap

namespace Text

variable {a b text : Text} {i offset x : Nat}

/-- **The builder finds every newline**, and nothing else. -/
theorem mem_newlineEnds :
    x ∈ newlineEnds offset text ↔ ∃ i, text[i]? = some '\n' ∧ x = offset + i + 1 := by
  induction text generalizing offset with
  | nil => simp [newlineEnds]
  | cons c rest ih =>
    rw [newlineEnds]
    constructor
    · intro h
      have hrest : x ∈ newlineEnds (offset + 1) rest →
          ∃ i, (c :: rest)[i]? = some '\n' ∧ x = offset + i + 1 := by
        intro h
        obtain ⟨i, hi, rfl⟩ := ih.1 h
        exact ⟨i + 1, hi, by omega⟩
      split at h
      next hc =>
        rcases List.mem_cons.1 h with rfl | h
        · exact ⟨0, congrArg some hc, rfl⟩
        · exact hrest h
      next => exact hrest h
    · rintro ⟨i, hi, rfl⟩
      cases i with
      | zero =>
        rw [if_pos (Option.some.inj hi)]
        exact List.mem_cons_self
      | succ i =>
        have hmem : offset + (i + 1) + 1 ∈ newlineEnds (offset + 1) rest :=
          ih.2 ⟨i, hi, by omega⟩
        split
        · exact List.mem_cons_of_mem _ hmem
        · exact hmem

/-- It finds them in ascending order. -/
theorem pairwise_newlineEnds (offset : Nat) (text : Text) :
    (newlineEnds offset text).Pairwise (· < ·) := by
  induction text generalizing offset with
  | nil => exact List.Pairwise.nil
  | cons c rest ih =>
    rw [newlineEnds]
    split
    · refine List.Pairwise.cons ?_ (ih _)
      intro x hx
      exact (bounds_of_mem_newlineEnds hx).1
    · exact ih _

/-- Two texts have newlines in the same places. -/
def SameNewlines (a b : Text) : Prop :=
  ∀ i : Nat, a[i]? = some '\n' ↔ b[i]? = some '\n'

/-- **The starts of the lines are one with the places of the newlines.** -/
theorem lineStarts_eq_iff : a.lineStarts = b.lineStarts ↔ a.SameNewlines b := by
  rw [← Array.toList_inj, lineStarts_eq, lineStarts_eq, List.cons_inj_right]
  constructor
  · intro h i
    have hplace : ∀ text : Text, 0 + i + 1 ∈ newlineEnds 0 text ↔ text[i]? = some '\n' := by
      intro text
      rw [mem_newlineEnds]
      constructor
      · rintro ⟨j, hj, hij⟩
        obtain rfl : i = j := by omega
        exact hj
      · intro hi
        exact ⟨i, hi, rfl⟩
    rw [← hplace a, ← hplace b, h]
  · intro h
    refine (pairwise_newlineEnds 0 a).eq_of_mem_iff (pairwise_newlineEnds 0 b) fun x => ?_
    rw [mem_newlineEnds, mem_newlineEnds]
    exact exists_congr fun i => and_congr_left' (h i)

end Text

namespace Source

variable {s t : Source}

/-- Sources of one length with newlines in the same places have one table. -/
theorem table_eq_of_sameNewlines (hlen : s.text.length = t.text.length)
    (h : s.text.SameNewlines t.text) : s.table = t.table := by
  rw [s.table_eq, t.table_eq, LineTable.ofText, LineTable.ofText, hlen,
    Text.lineStarts_eq_iff.2 h]

/-- **Only newlines matter.** Of two texts of one length, the lines start at
the same offsets exactly if the newlines are in the same places. Then the
two sources have as many lines, every line has one span in both, every
position one location, every span one pair of locations, and, if they come
from one origin, every position has one citation. -/
theorem starts_eq_iff_sameNewlines (s t : Source) (hlen : s.text.length = t.text.length) :
    (s.table.starts = t.table.starts ↔ s.text.SameNewlines t.text) ∧
    (s.text.SameNewlines t.text →
      s.lineCount = t.lineCount ∧
      (∀ line, s.spanOfLine line = t.spanOfLine line) ∧
      (∀ p, s.locate p = t.locate p) ∧
      (∀ u, s.locateSpan u = t.locateSpan u) ∧
      (s.origin = t.origin → ∀ p, s.cite p = t.cite p)) := by
  constructor
  · rw [s.table_eq, t.table_eq]
    exact Text.lineStarts_eq_iff
  · intro h
    have htable : s.table = t.table := table_eq_of_sameNewlines hlen h
    have hlocate : ∀ p, s.locate p = t.locate p := by
      intro p
      rw [locate, locate, htable]
    refine ⟨?_, ?_, hlocate, ?_, ?_⟩
    · rw [lineCount, lineCount, htable]
    · intro line
      rw [spanOfLine, spanOfLine, htable]
    · intro u
      rw [locateSpan, locateSpan, htable]
    · intro horigin p
      rw [cite, cite, horigin, hlocate]

/-- A carriage return, a tab, the other marks that end a line or a paragraph
elsewhere, and a character above the sixteen-bit ones: none of them moves
the place of the last letter. -/
theorem starts_eq_iff_sameNewlines_of_other_breaks :
    ∃ s t, ofText .unknown ['a', '\r', '\n', '\u2028', 'b'] = .ok s ∧
      ofText .unknown ['😀', '\t', '\n', '\u0085', 'c'] = .ok t ∧
      s.text.length = t.text.length ∧ s.table.starts = t.table.starts ∧
      s.lineCount = t.lineCount ∧ s.spanOfLine 1 = t.spanOfLine 1 ∧
      s.cite ⟨4, by decide⟩ = t.cite ⟨4, by decide⟩ := by
  obtain ⟨s, hs, horigin, htext⟩ := ofText_of_le .unknown
    (by decide : (['a', '\r', '\n', '\u2028', 'b'] : Text).length ≤ maxOffset)
  obtain ⟨t, ht, horigin', htext'⟩ := ofText_of_le .unknown
    (by decide : (['😀', '\t', '\n', '\u0085', 'c'] : Text).length ≤ maxOffset)
  have hlen : s.text.length = t.text.length := by rw [htext, htext']; rfl
  have hsame : s.text.SameNewlines t.text := by
    rw [htext, htext']
    rintro (_ | _ | _ | _ | _ | i) <;> simp
  obtain ⟨hstarts, hlookups⟩ := starts_eq_iff_sameNewlines s t hlen
  obtain ⟨hcount, hspan, -, -, hcite⟩ := hlookups hsame
  exact ⟨s, t, hs, ht, hlen, hstarts.2 hsame, hcount, hspan 1,
    hcite (horigin.trans horigin'.symm) _⟩

end Source

end LineMap
