import LineMap.Proofs.Lookup
import Mathlib.Order.Hom.Basic
/-!
# Location order — offsets and locations, one to one

The offsets inside a text and the locations that the text has are the
same order. An offset goes to its line and column, and a location comes
back as the start of its line and the column after it. A line but the
last has one column more than its span is wide, for its newline; the last
line has no newline, and so no such column.
-/

namespace LineMap

namespace Location

/-- The order of locations is total. -/
theorem lt_iff_not_le {a b : Location} : a < b ↔ ¬ b ≤ a := by
  rw [lt_iff, le_iff, Position.lt_iff, Position.le_iff]
  omega

theorem le_refl (a : Location) : a ≤ a := le_iff.2 (.inr ⟨rfl, Nat.le_refl _⟩)

end Location

namespace Text

variable {text : Text} {p q : Position}

/-- **Locations come in the order of their positions.** On one line the
columns decide, and a later line is never found at an earlier offset. -/
theorem locationOf_le_iff (hp : p.offset ≤ text.length) (hq : q.offset ≤ text.length) :
    text.locationOf p ≤ text.locationOf q ↔ p ≤ q := by
  have hpsum := lineStart_lineOf_add_columnOf hp
  have hqsum := lineStart_lineOf_add_columnOf hq
  simp only [Location.le_iff, Position.le_iff, line_locationOf, offset_column_locationOf]
  constructor
  · rintro (hline | ⟨hline, hcolumn⟩)
    · by_contra hc
      have := text.lineOf_mono (p := q.offset) (q := p.offset) (by omega)
      omega
    · rw [Int.natCast_inj] at hline
      rw [hline] at hpsum
      omega
  · intro hle
    rcases Nat.eq_or_lt_of_le (text.lineOf_mono hle) with hline | hline
    · rw [hline] at hpsum
      exact .inr ⟨by omega, by omega⟩
    · exact .inl (by omega)

theorem locationOf_lt_iff (hp : p.offset ≤ text.length) (hq : q.offset ≤ text.length) :
    text.locationOf p < text.locationOf q ↔ p < q := by
  rw [Location.lt_iff_not_le, locationOf_le_iff hq hp, Position.le_iff, Position.lt_iff]
  omega

/-- Two positions share no location. -/
theorem locationOf_inj (hp : p.offset ≤ text.length) (hq : q.offset ≤ text.length) :
    text.locationOf p = text.locationOf q ↔ p = q := by
  constructor
  · intro h
    have hle : p ≤ q := (locationOf_le_iff hp hq).1 (h ▸ Location.le_refl _)
    have hge : q ≤ p := (locationOf_le_iff hq hp).1 (h ▸ Location.le_refl _)
    exact Position.ext (Nat.le_antisymm hle hge)
  · rintro rfl
    rfl

end Text

namespace Source

variable {s : Source} {l : Location} {p : Position}

/-- **The locations of a source**: those on one of its lines, in the span of
the line or, on every line but the last, at its newline. -/
def HasLocation (s : Source) (l : Location) : Prop :=
  0 ≤ l.line ∧ l.line < s.lineCount ∧
    ∃ t, s.spanOfLine l.line = .ok (some t) ∧
      (l.line < s.lineCount - 1 ∧ l.column.offset ≤ t.width ∨
        l.line = s.lineCount - 1 ∧ l.column.offset < t.width)

/-- The offset that a location would have: its column, from the start of its
line on. -/
def offsetAt (s : Source) (l : Location) : Nat :=
  s.text.lineStart l.line.toNat + l.column.offset

/-- A source has a location if its offset comes before the next line and
before the end of the text. -/
theorem hasLocation_iff :
    s.HasLocation l ↔ 0 ≤ l.line ∧ l.line < s.lineCount ∧
      s.offsetAt l < s.text.lineStart (l.line.toNat + 1) ∧ s.offsetAt l < s.text.length := by
  unfold HasLocation offsetAt
  refine and_congr_right fun h0 => and_congr_right fun hlt => ?_
  obtain ⟨k, hk⟩ := Int.eq_ofNat_of_zero_le h0
  rw [hk] at hlt ⊢
  obtain ⟨t, ht, hlow, hhigh⟩ := s.spanOfLine_natCast (by omega : k < s.lineCount)
  have hlast : s.lineCount = s.text.count '\n' + 1 := s.lineCount_eq
  have hstep : s.text.lineStart k < s.text.lineStart (k + 1) := Text.lineStart_lt_succ (by omega)
  simp only [ht, Int.toNat_natCast, Except.ok.injEq, Option.some.injEq, exists_eq_left',
    Span.width, hlow, hhigh]
  -- the width of a line does not count its newline, and the last line has none
  rcases Nat.lt_or_ge k (s.text.count '\n') with hk | hk
  · have hnext : s.text.lineStart (k + 1) ≤ s.text.length := Text.lineStart_le_length_iff.2 hk
    omega
  · have hnext : s.text.lineStart (k + 1) = s.text.length + 1 := Text.lineStart_of_lt (by omega)
    omega

theorem offsetAt_locationOf (h : p.offset < s.text.length) :
    s.offsetAt (s.text.locationOf p) = p.offset :=
  Text.lineStart_lineOf_add_columnOf h.le

/-- Every position inside the text has a location of the source. -/
theorem hasLocation_locationOf (h : p.offset < s.text.length) :
    s.HasLocation (s.text.locationOf p) := by
  have hle := s.text.lineOf_le p.offset
  have hlt := Text.lt_lineStart_lineOf_succ h.le
  rw [hasLocation_iff, offsetAt_locationOf h, Text.line_locationOf, lineCount_eq]
  exact ⟨by omega, by omega, hlt, h⟩

/-- **The offset of a location has that location.** -/
theorem locationOf_offsetAt (h : s.HasLocation l) (hfit : s.offsetAt l ≤ maxOffset) :
    s.text.locationOf ⟨s.offsetAt l, hfit⟩ = l := by
  obtain ⟨h0, -, hnext, hend⟩ := hasLocation_iff.1 h
  have hstart : s.text.lineStart l.line.toNat ≤ s.offsetAt l := Nat.le_add_right _ _
  ext
  · rw [Text.line_locationOf, Text.lineOf_eq hend.le hstart hnext]
    omega
  · rw [Text.offset_column_locationOf, Text.columnOf_eq hend.le hstart hnext, offsetAt]
    omega

theorem offsetAt_lt (h : s.HasLocation l) : s.offsetAt l < s.text.length :=
  (hasLocation_iff.1 h).2.2.2

/-- **The offsets inside a text, as its locations.** -/
def locationIso (s : Source) :
    {p : Position // p.offset < s.text.length} ≃o {l : Location // s.HasLocation l} where
  toFun p := ⟨s.text.locationOf p.1, hasLocation_locationOf p.2⟩
  invFun l := ⟨⟨s.offsetAt l.1, (offsetAt_lt l.2).le.trans s.length_text_le⟩, offsetAt_lt l.2⟩
  left_inv p := Subtype.ext (Position.ext (offsetAt_locationOf p.2))
  right_inv l := Subtype.ext (locationOf_offsetAt l.2 _)
  map_rel_iff' := by
    intro p q
    exact Text.locationOf_le_iff p.2.le q.2.le

/-- **Locating is an order isomorphism** from the offsets inside a text onto
the locations of its source: it is strictly increasing, nothing else has a
location, and a location comes back as the low end of its line's span and
the column after it. -/
theorem exists_orderIso_locate (s : Source) :
    ∃ e : {p : Position // p.offset < s.text.length} ≃o {l : Location // s.HasLocation l},
      (∀ p, s.locateArgument (.int p.1.offset) = .ok (some (e p).1)) ∧
      (∀ p q, p.1 < q.1 ↔ (e p).1 < (e q).1) ∧
      ∀ l, ∃ t, s.spanOfLine l.1.line = .ok (some t) ∧
        (e.symm l).1.offset = t.low.offset + l.1.column.offset := by
  refine ⟨s.locationIso, ?_, ?_, ?_⟩
  · intro p
    rw [locateArgument_natCast s p.1.offset_le, locate_eq, if_pos p.2]
    rfl
  · intro p q
    exact (Text.locationOf_lt_iff p.2.le q.2.le).symm
  · intro l
    obtain ⟨h0, hlt, -⟩ := hasLocation_iff.1 l.2
    obtain ⟨k, hk⟩ := Int.eq_ofNat_of_zero_le h0
    obtain ⟨t, ht, hlow, -⟩ := s.spanOfLine_natCast (by omega : k < s.lineCount)
    refine ⟨t, by rw [hk, ht], ?_⟩
    rw [hlow]
    show s.text.lineStart l.1.line.toNat + l.1.column.offset = _
    rw [hk, Int.toNat_natCast]

end Source

end LineMap
