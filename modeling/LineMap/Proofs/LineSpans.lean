import LineMap.Proofs.Lookup
import LineMap.Proofs.SpanViews
/-!
# Line spans — every character is on one line or ends one

Between the spans of two lines in a row there is one character, the newline
that ends the first of them. Whether an offset lies in a span is asked of the
two ends of the span, and which line it is on is asked of the search in the
table. The two agree on every character but the newlines: the search counts a
newline to the line that it ends, and the span of that line stops in front of
it.
-/

namespace LineMap

namespace Text

variable {text : Text} {k m p : Nat}

/-- **The next line starts right behind a newline**, and behind no other
character. -/
theorem getElem?_eq_newline_iff (h : p < text.length) :
    text[p]? = some '\n' ↔ text.lineStart (text.lineOf p + 1) = p + 1 := by
  have hlt := lt_lineStart_lineOf_succ h.le
  have hstep := lineOf_succ h
  have hpast : p + 1 ≤ text.length := h
  rw [List.getElem?_eq_getElem h, Option.some.injEq]
  constructor
  · intro hc
    rw [if_pos hc] at hstep
    have hle : text.lineStart (text.lineOf p + 1) ≤ p + 1 :=
      (lineStart_le_iff hpast).2 (by omega)
    omega
  · intro hstart
    by_contra hc
    rw [if_neg hc] at hstep
    have hnext := lt_lineStart_lineOf_succ hpast
    rw [hstep] at hnext
    omega

/-- **The offsets between the ends of a line** are those on the line, but for
its newline. -/
theorem lineStart_le_and_lt_iff (h : p < text.length) :
    text.lineStart k ≤ p ∧ p < text.lineStart (k + 1) - 1 ↔
      text.lineOf p = k ∧ text[p]? ≠ some '\n' := by
  constructor
  · rintro ⟨hlow, hhigh⟩
    have hline : text.lineOf p = k := lineOf_eq h.le hlow (by omega)
    refine ⟨hline, fun hc => ?_⟩
    have hnext := (getElem?_eq_newline_iff h).1 hc
    rw [hline] at hnext
    omega
  · rintro ⟨rfl, hc⟩
    have hlow : text.lineStart (text.lineOf p) ≤ p := (lineStart_le_iff h.le).2 (Nat.le_refl _)
    have hlt := lt_lineStart_lineOf_succ h.le
    have hne : text.lineStart (text.lineOf p + 1) ≠ p + 1 :=
      mt (getElem?_eq_newline_iff h).2 hc
    omega

theorem lineStart_mono (h : k ≤ m) (hm : m ≤ text.count '\n') :
    text.lineStart k ≤ text.lineStart m := by
  have hle := lineStart_le_length_iff.2 hm
  have hline : m ≤ text.lineOf (text.lineStart m) := (lineStart_le_iff hle).1 (Nat.le_refl _)
  exact (lineStart_le_iff hle).2 (h.trans hline)

end Text

namespace Source

variable {s : Source} {t u : Span} {l m x : Int} {p : Nat}

/-- A number with a span is a line of the text, and the span runs from its
start up to the newline in front of the next start. -/
theorem ends_of_spanOfLine (h : s.spanOfLine l = .ok (some t)) :
    ∃ k : Nat, l = k ∧ k ≤ s.text.count '\n' ∧ t.low.offset = s.text.lineStart k ∧
      t.high.offset = s.text.lineStart (k + 1) - 1 := by
  by_cases hout : l < 0 ∨ s.lineCount ≤ l
  · rw [spanOfLine_eq_none hout] at h
    cases h
  · obtain ⟨k, rfl⟩ := Int.eq_ofNat_of_zero_le (by omega : 0 ≤ l)
    have hk : k < s.lineCount := by omega
    obtain ⟨t', ht', hlow, hhigh⟩ := s.spanOfLine_natCast hk
    obtain rfl : t' = t := Option.some.inj (Except.ok.inj (ht'.symm.trans h))
    rw [lineCount_eq] at hk
    exact ⟨k, rfl, by omega, hlow, hhigh⟩

/-- A number is a line that holds an offset in its span. -/
def LineHolds (s : Source) (l x : Int) : Prop :=
  ∃ t, s.spanOfLine l = .ok (some t) ∧ t.contains (.int x) = true

/-- **Spans against lines.** Inside the text, a line holds an offset exactly
if it is the line of the offset and no newline is there. -/
theorem lineHolds_iff (h : p < s.text.length) :
    s.LineHolds l p ↔ (s.text.lineOf p : Int) = l ∧ s.text[p]? ≠ some '\n' := by
  constructor
  · rintro ⟨t, ht, hp⟩
    obtain ⟨k, rfl, -, hlow, hhigh⟩ := ends_of_spanOfLine ht
    obtain ⟨hle, hlt⟩ := Span.contains_int_iff.1 hp
    obtain ⟨hline, hc⟩ := (Text.lineStart_le_and_lt_iff (k := k) h).1 ⟨by omega, by omega⟩
    exact ⟨congrArg _ hline, hc⟩
  · rintro ⟨rfl, hc⟩
    have hline := s.text.lineOf_le p
    obtain ⟨hle, hlt⟩ := (Text.lineStart_le_and_lt_iff h).2 ⟨rfl, hc⟩
    obtain ⟨t, ht, hlow, hhigh⟩ := s.spanOfLine_natCast (k := s.text.lineOf p)
      (by rw [lineCount_eq]; omega)
    exact ⟨t, ht, Span.contains_int_iff.2 ⟨by omega, by omega⟩⟩

/-- **Lines ascend**: one ends before a later one starts. -/
theorem high_lt_low_of_lt (hlt : l < m) (ht : s.spanOfLine l = .ok (some t))
    (hu : s.spanOfLine m = .ok (some u)) : t.high.offset < u.low.offset := by
  obtain ⟨k, rfl, -, -, hhigh⟩ := ends_of_spanOfLine ht
  obtain ⟨n, rfl, hn, hlow, -⟩ := ends_of_spanOfLine hu
  have hstart : s.text.lineStart (k + 1) ≤ s.text.lineStart n :=
    Text.lineStart_mono (by omega) hn
  have hpos := s.text.lineStart_succ_pos k
  omega

/-- So no two lines hold one number. -/
theorem eq_of_lineHolds (hl : s.LineHolds l x) (hm : s.LineHolds m x) : l = m := by
  obtain ⟨t, ht, hxt⟩ := hl
  obtain ⟨u, hu, hxu⟩ := hm
  rw [Span.contains_int_iff] at hxt hxu
  rcases Int.lt_trichotomy l m with h | h | h
  · have := high_lt_low_of_lt h ht hu
    omega
  · exact h
  · have := high_lt_low_of_lt h hu ht
    omega

/-- **A newline is the end of its line**, and of no other line. -/
theorem high_eq_iff (hc : s.text[p]? = some '\n') (ht : s.spanOfLine l = .ok (some t)) :
    t.high.offset = p ↔ l = s.text.lineOf p := by
  have h : p < s.text.length := (List.getElem?_eq_some_iff.1 hc).1
  obtain ⟨k, rfl, hk, -, hhigh⟩ := ends_of_spanOfLine ht
  have hpos := s.text.lineStart_succ_pos k
  constructor
  · intro hp
    have hstart := Text.lineStart_lt_succ hk
    have hline : s.text.lineOf p = k := Text.lineOf_eq h.le (by omega) (by omega)
    omega
  · intro hline
    obtain rfl : k = s.text.lineOf p := by omega
    have hnext := (Text.getElem?_eq_newline_iff h).1 hc
    omega

/-- **Lines share out the text.** Every line has a span. An offset inside the
text lies in the span of a line exactly if the offset is located on that line
and no newline is there; and a newline is the excluded end of the span of the
line that it is located on. So the spans ascend, no two of them hold one
number, together they hold every offset but those of the newlines, and each
newline is the end of exactly one of them. -/
theorem lines_share_text (s : Source) :
    (∀ l : Int, 0 ≤ l → l < s.lineCount → ∃ t, s.spanOfLine l = .ok (some t)) ∧
    (∀ (l : Int) (p : Nat), p < s.text.length →
      ∃ place, s.locateArgument (.int p) = .ok (some place) ∧
        (s.LineHolds l p ↔ place.line = l ∧ s.text[p]? ≠ some '\n')) ∧
    (∀ p : Nat, s.text[p]? = some '\n' →
      ∃ place t, s.locateArgument (.int p) = .ok (some place) ∧
        s.spanOfLine place.line = .ok (some t) ∧ t.high.offset = p) ∧
    (∀ (l m : Int) (t u : Span), l < m → s.spanOfLine l = .ok (some t) →
      s.spanOfLine m = .ok (some u) → t.high.offset < u.low.offset) ∧
    (∀ l m x : Int, s.LineHolds l x → s.LineHolds m x → l = m) ∧
    (∀ p : Nat, p < s.text.length → ((∃ l, s.LineHolds l p) ↔ s.text[p]? ≠ some '\n')) ∧
    ∀ p : Nat, s.text[p]? = some '\n' →
      ∃! l : Int, ∃ t, s.spanOfLine l = .ok (some t) ∧ t.high.offset = p := by
  have hends : ∀ p : Nat, s.text[p]? = some '\n' →
      ∃ t, s.spanOfLine (s.text.lineOf p) = .ok (some t) ∧ t.high.offset = p := by
    intro p hc
    have hline := s.text.lineOf_le p
    obtain ⟨t, ht, -⟩ := s.spanOfLine_natCast (k := s.text.lineOf p)
      (by rw [lineCount_eq]; omega)
    exact ⟨t, ht, (high_eq_iff hc ht).2 rfl⟩
  refine ⟨?_, ?_, ?_, fun l m t u => high_lt_low_of_lt, fun l m x => eq_of_lineHolds, ?_, ?_⟩
  · intro l hl hlt
    obtain ⟨k, rfl⟩ := Int.eq_ofNat_of_zero_le hl
    obtain ⟨t, ht, -⟩ := s.spanOfLine_natCast (by omega : k < s.lineCount)
    exact ⟨t, ht⟩
  · intro l p hp
    obtain ⟨place, hplace, hline, -⟩ := s.exists_locateArgument hp
    exact ⟨place, hplace, by rw [hline]; exact lineHolds_iff hp⟩
  · intro p hc
    obtain ⟨t, ht, hhigh⟩ := hends p hc
    obtain ⟨place, hplace, hline, -⟩ :=
      s.exists_locateArgument (List.getElem?_eq_some_iff.1 hc).1
    exact ⟨place, t, hplace, by rw [hline, ht], hhigh⟩
  · intro p hp
    constructor
    · rintro ⟨l, hl⟩
      exact ((lineHolds_iff hp).1 hl).2
    · intro hc
      exact ⟨_, (lineHolds_iff hp).2 ⟨rfl, hc⟩⟩
  · intro p hc
    refine ⟨s.text.lineOf p, hends p hc, ?_⟩
    rintro l ⟨t, ht, hhigh⟩
    exact (high_eq_iff hc ht).1 hhigh

/-- Two newlines in a row: the line between them is empty, holds nothing, and
ends at the second; and the last line holds the last character. -/
theorem lines_share_text_of_empty_line :
    ∃ s, ofText .unknown ['a', '\n', '\n', 'b'] = .ok s ∧
      (∃ place t, s.locateArgument (.int 2) = .ok (some place) ∧
        s.spanOfLine place.line = .ok (some t) ∧ t.high.offset = 2) ∧
      ¬ s.LineHolds 1 2 ∧ s.LineHolds 2 3 ∧ ¬ s.LineHolds 1 3 ∧
      ∃! l : Int, ∃ t, s.spanOfLine l = .ok (some t) ∧ t.high.offset = 2 := by
  obtain ⟨s, hs, -, htext⟩ := ofText_of_le .unknown
    (by decide : (['a', '\n', '\n', 'b'] : Text).length ≤ maxOffset)
  have hc : s.text[2]? = some '\n' := by rw [htext]; rfl
  have hb : s.text[3]? ≠ some '\n' := by rw [htext]; decide
  have hend : 3 < s.text.length := by rw [htext]; decide
  obtain ⟨-, hholds, hnewline, -, hone, hall, hunique⟩ := lines_share_text s
  obtain ⟨place, hplace, hiff⟩ := hholds 2 3 hend
  have hline : place.line = 2 := by
    obtain ⟨place', hplace', hline, -⟩ := s.exists_locateArgument hend
    obtain rfl : place' = place := Option.some.inj (Except.ok.inj (hplace'.symm.trans hplace))
    rw [hline, htext]
    rfl
  have hlast : s.LineHolds 2 3 := hiff.2 ⟨hline, hb⟩
  refine ⟨s, hs, hnewline 2 hc, ?_, hlast, ?_, hunique 2 hc⟩
  · intro h
    exact (hall 2 (by omega)).1 ⟨1, h⟩ hc
  · intro h
    exact absurd (hone 1 2 3 h hlast) (by decide)

end Source

end LineMap
