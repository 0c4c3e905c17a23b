import LineMap.Proofs.ShiftChains
/-!
# End shifts — the two ends moved one after the other

A span can be moved one end at a time, too. What the first of the two moves
gives is a span again, so its ends are in order: if the moved end has passed
the other one, the two have changed names, and the second move takes the end
that has been moved already. As long as no end passes the other, the two
moves together are a whole shift. The end that goes ahead never does, and the
end behind does so exactly if the amount is greater than the width.
-/

namespace LineMap

namespace Span

variable {s t : Span} {d i j : Int}

/-- A second move by the same amount is asked of the two integers that the
first one left, in order; they have to be offsets for that. -/
theorem exists_moved_iff {P : Int → Int → Prop} :
    (∃ u : Span, (FitsShift d ∧ u.LiesBetween i j) ∧
        FitsShift d ∧ P u.low.offset u.high.offset) ↔
      FitsShift d ∧ AreOffsets i j ∧ P (min i j) (max i j) := by
  rw [← exists_liesBetween_and_iff, ← exists_and_left]
  refine exists_congr fun u => ?_
  constructor
  · rintro ⟨⟨hd, hu⟩, -, h⟩
    exact ⟨hd, hu, h⟩
  · rintro ⟨hd, hu, h⟩
    exact ⟨⟨hd, hu⟩, hd, h⟩

/-! ## One end after the other -/

theorem shiftLow_int_eq_ok_iff :
    s.shiftLow (.int d) = .ok t ↔
      FitsShift d ∧ t.LiesBetween (s.low.offset + d) s.high.offset := by
  rw [shiftLow_eq_ok_iff]
  simp only [Number.integer?, Option.some.injEq, exists_eq_left', FitsShift, and_assoc]

theorem shiftHigh_int_eq_ok_iff :
    s.shiftHigh (.int d) = .ok t ↔
      FitsShift d ∧ t.LiesBetween s.low.offset (s.high.offset + d) := by
  rw [shiftHigh_eq_ok_iff]
  simp only [Number.integer?, Option.some.injEq, exists_eq_left', FitsShift, and_assoc]

/-- The low end moved, and then the end that is the high one by that time. -/
def shiftLowThenHigh (s : Span) (d : Int) : Except Fault Span := do
  (← s.shiftLow (.int d)).shiftHigh (.int d)

/-- The high end moved, and then the end that is the low one by that time. -/
def shiftHighThenLow (s : Span) (d : Int) : Except Fault Span := do
  (← s.shiftHigh (.int d)).shiftLow (.int d)

/-- The second move takes the greater of what the first one left. -/
theorem shiftLowThenHigh_eq_ok_iff :
    s.shiftLowThenHigh d = .ok t ↔
      FitsShift d ∧ AreOffsets (s.low.offset + d) s.high.offset ∧
        t.LiesBetween (min (s.low.offset + d) s.high.offset)
          (max (s.low.offset + d) s.high.offset + d) := by
  rw [shiftLowThenHigh, bind_eq_ok_iff]
  simp only [shiftLow_int_eq_ok_iff, shiftHigh_int_eq_ok_iff]
  exact exists_moved_iff (P := fun low high => t.LiesBetween low (high + d))

/-- Here it takes the smaller one. -/
theorem shiftHighThenLow_eq_ok_iff :
    s.shiftHighThenLow d = .ok t ↔
      FitsShift d ∧ AreOffsets s.low.offset (s.high.offset + d) ∧
        t.LiesBetween (min (s.low.offset : Int) (s.high.offset + d) + d)
          (max (s.low.offset : Int) (s.high.offset + d)) := by
  rw [shiftHighThenLow, bind_eq_ok_iff]
  simp only [shiftLow_int_eq_ok_iff, shiftHigh_int_eq_ok_iff]
  exact exists_moved_iff (P := fun low high => t.LiesBetween (low + d) high)

/-! ## Ends that do not pass each other -/

/-- **A low end that does not pass the high end** is the low end of a whole
shift. -/
theorem shiftLowThenHigh_eq_ok_iff_of_le (h : d ≤ s.width) :
    s.shiftLowThenHigh d = .ok t ↔ s.shift (.int d) = .ok t := by
  have hle : s.low.offset ≤ s.high.offset := s.low_le_high
  have hs := s.high.offset_le
  have ht := t.high.offset_le
  rw [shiftLowThenHigh_eq_ok_iff, shift_int_eq_ok_iff]
  refine and_congr_right fun hd => ?_
  unfold width at h
  unfold AreOffsets LiesBetween
  omega

/-- **A high end that does not pass the low end** is the high end of a whole
shift. -/
theorem shiftHighThenLow_eq_ok_iff_of_le (h : -d ≤ s.width) :
    s.shiftHighThenLow d = .ok t ↔ s.shift (.int d) = .ok t := by
  have hle : s.low.offset ≤ s.high.offset := s.low_le_high
  have hs := s.high.offset_le
  have ht := t.high.offset_le
  rw [shiftHighThenLow_eq_ok_iff, shift_int_eq_ok_iff]
  refine and_congr_right fun hd => ?_
  unfold width at h
  unfold AreOffsets LiesBetween
  omega

/-! ## Ends that pass each other -/

/-- **A low end that passes the high end** takes both moves, and the high end
becomes the low end where it is. -/
theorem ends_of_shiftLowThenHigh (h : s.width < d) (ht : s.shiftLowThenHigh d = .ok t) :
    t.low.offset = s.high.offset ∧ (t.high.offset : Int) = s.low.offset + 2 * d := by
  have hle : s.low.offset ≤ s.high.offset := s.low_le_high
  obtain ⟨-, -, hlow, hhigh⟩ := shiftLowThenHigh_eq_ok_iff.1 ht
  unfold width at h
  omega

/-- **A high end that passes the low end** takes both moves likewise. -/
theorem ends_of_shiftHighThenLow (h : s.width < -d) (ht : s.shiftHighThenLow d = .ok t) :
    (t.low.offset : Int) = s.high.offset + 2 * d ∧ t.high.offset = s.low.offset := by
  have hle : s.low.offset ≤ s.high.offset := s.low_le_high
  obtain ⟨-, -, hlow, hhigh⟩ := shiftHighThenLow_eq_ok_iff.1 ht
  unfold width at h
  omega

/-! ## The end that goes ahead -/

/-- **The end that goes ahead is moved first**: upwards that is the high end,
downwards the low end, and by zero either of them. -/
inductive LeadingFirst (s : Span) (d : Int) : Except Fault Span → Prop
  /-- Upwards. -/
  | up (h : 0 ≤ d) : LeadingFirst s d (s.shiftHighThenLow d)
  /-- Downwards. -/
  | down (h : d ≤ 0) : LeadingFirst s d (s.shiftLowThenHigh d)

/-- **The end behind is moved first**: upwards that is the low end, downwards
the high end, and by zero either of them. -/
inductive TrailingFirst (s : Span) (d : Int) : Except Fault Span → Prop
  /-- Upwards. -/
  | up (h : 0 ≤ d) : TrailingFirst s d (s.shiftLowThenHigh d)
  /-- Downwards. -/
  | down (h : d ≤ 0) : TrailingFirst s d (s.shiftHighThenLow d)

/-- **One end at a time.** With the end that goes ahead moved first, the two
moves go through exactly if a whole shift does, and give the same span. With
the end behind moved first this is so for amounts up to the width; a greater
amount, if it goes through, puts neither end where a whole shift would. -/
theorem shift_ends_in_turn (s : Span) (d : Int) :
    (∀ moved, s.LeadingFirst d moved → ∀ t, moved = .ok t ↔ s.shift (.int d) = .ok t) ∧
    (∀ moved, s.TrailingFirst d moved →
      (d.natAbs ≤ s.width → ∀ t, moved = .ok t ↔ s.shift (.int d) = .ok t) ∧
      (s.width < d.natAbs → ∀ t, moved = .ok t →
        (t.low.offset : Int) ≠ s.low.offset + d ∧ (t.high.offset : Int) ≠ s.high.offset + d)) := by
  have hle : s.low.offset ≤ s.high.offset := s.low_le_high
  have hwidth : s.width = s.high.offset - s.low.offset := rfl
  refine ⟨?_, ?_⟩
  · intro moved hmoved t
    cases hmoved with
    | up hd => exact shiftHighThenLow_eq_ok_iff_of_le (by omega)
    | down hd => exact shiftLowThenHigh_eq_ok_iff_of_le (by omega)
  · intro moved hmoved
    cases hmoved with
    | up hd =>
      refine ⟨fun h t => shiftLowThenHigh_eq_ok_iff_of_le (by omega), fun h t ht => ?_⟩
      obtain ⟨hlow, hhigh⟩ := ends_of_shiftLowThenHigh (by omega) ht
      omega
    | down hd =>
      refine ⟨fun h t => shiftHighThenLow_eq_ok_iff_of_le (by omega), fun h t ht => ?_⟩
      obtain ⟨hlow, hhigh⟩ := ends_of_shiftHighThenLow (by omega) ht
      omega

/-- A span of width five, moved up by seven and down by three. -/
theorem shift_ends_in_turn_of_seven :
    let s : Span := between ⟨5, by decide⟩ ⟨10, by decide⟩
    let up : Span := between ⟨12, by decide⟩ ⟨17, by decide⟩
    let crossed : Span := between ⟨10, by decide⟩ ⟨19, by decide⟩
    let down : Span := between ⟨2, by decide⟩ ⟨7, by decide⟩
    s.shift (.int 7) = .ok up ∧ s.shiftHighThenLow 7 = .ok up ∧
      s.shiftLowThenHigh 7 = .ok crossed ∧ crossed.low.offset ≠ 12 ∧ crossed.high.offset ≠ 17 ∧
      s.shift (.int (-3)) = .ok down ∧ s.shiftLowThenHigh (-3) = .ok down ∧
      s.shiftHighThenLow (-3) = .ok down := by
  intro s up crossed down
  have hup : s.shift (.int 7) = .ok up :=
    shift_int_eq_ok_iff.2 ⟨⟨by decide, by decide⟩, by decide, by decide⟩
  have hdown : s.shift (.int (-3)) = .ok down :=
    shift_int_eq_ok_iff.2 ⟨⟨by decide, by decide⟩, by decide, by decide⟩
  have hcrossed : s.shiftLowThenHigh 7 = .ok crossed :=
    shiftLowThenHigh_eq_ok_iff.2
      ⟨⟨by decide, by decide⟩, ⟨by decide, by decide⟩, by decide, by decide⟩
  obtain ⟨hlead, htrail⟩ := shift_ends_in_turn s 7
  obtain ⟨hlead', htrail'⟩ := shift_ends_in_turn s (-3)
  obtain ⟨-, hwide⟩ := htrail _ (.up (by decide))
  obtain ⟨hnarrow, -⟩ := htrail' _ (.down (by decide))
  obtain ⟨hl, hh⟩ := hwide (by decide) crossed hcrossed
  refine ⟨hup, (hlead _ (.up (by decide)) up).2 hup, hcrossed, ?_, ?_, hdown,
    (hlead' _ (.down (by decide)) down).2 hdown, (hnarrow (by decide) down).2 hdown⟩
  · exact fun h => hl (congrArg Nat.cast h)
  · exact fun h => hh (congrArg Nat.cast h)

end Span

end LineMap
