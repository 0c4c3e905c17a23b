import LineMap.Proofs.EditRuns
/-!
# End replacements — both ends replaced, one after the other

What a replacement gives is a span again, so its ends are put in order. If the
new end has passed the end that stays, the two have changed names, and the
next replacement takes away the end that has just been put in. So two
replacements give the span between the two new ends exactly if the first of
them does not pass the end that stays. A low end that passes the high end and
a high end that passes the low end leave no room between them, so for new ends
in order one of the two ways is always safe.
-/

namespace LineMap

namespace Span

variable {s t u : Span} {i j k x y : Int} {low high : Argument}

/-- Spans with one end in common are one span exactly if they have the other
in common, too. -/
theorem LiesBetween.eq_iff_left (ht : t.LiesBetween i j) (hu : u.LiesBetween k j) :
    t = u ↔ i = k := by
  rw [Span.ext_iff, Position.ext_iff, Position.ext_iff]
  unfold LiesBetween at ht hu
  omega

theorem LiesBetween.eq_iff_right (ht : t.LiesBetween i j) (hu : u.LiesBetween i k) :
    t = u ↔ j = k := by
  rw [Span.ext_iff, Position.ext_iff, Position.ext_iff]
  unfold LiesBetween at ht hu
  omega

/-! ## One end -/

/-- A new low end asks for itself and the high end. -/
theorem edit_replaceLow_eq_ok_iff (hl : low.offset? = some x) :
    s.edit (.replaceLow low) = .ok t ↔ t.LiesBetween x s.high.offset := by
  constructor
  · intro h
    obtain ⟨i, j, hasks, ht⟩ := asks_of_edit h
    cases hasks with
    | replaceLow hl' => rwa [Option.some.inj (hl'.symm.trans hl)] at ht
  · intro h
    exact edit_of_asks (.replaceLow hl) h

/-- A new high end asks for the low end and itself. -/
theorem edit_replaceHigh_eq_ok_iff (hh : high.offset? = some y) :
    s.edit (.replaceHigh high) = .ok t ↔ t.LiesBetween s.low.offset y := by
  constructor
  · intro h
    obtain ⟨i, j, hasks, ht⟩ := asks_of_edit h
    cases hasks with
    | replaceHigh hh' => rwa [Option.some.inj (hh'.symm.trans hh)] at ht
  · intro h
    exact edit_of_asks (.replaceHigh hh) h

/-! ## Both ends -/

/-- The low end replaced, and then the end that is the high one by that time. -/
def replaceLowThenHigh (s : Span) (low high : Argument) : Except Fault Span := do
  (← s.edit (.replaceLow low)).edit (.replaceHigh high)

/-- The high end replaced, and then the end that is the low one by that time. -/
def replaceHighThenLow (s : Span) (low high : Argument) : Except Fault Span := do
  (← s.edit (.replaceHigh high)).edit (.replaceLow low)

/-- The second replacement keeps the smaller of what the first one left. -/
theorem replaceLowThenHigh_eq_ok_iff (hl : low.offset? = some x) (hh : high.offset? = some y) :
    s.replaceLowThenHigh low high = .ok u ↔
      AreOffsets x s.high.offset ∧ u.LiesBetween (min x s.high.offset) y := by
  rw [replaceLowThenHigh, bind_eq_ok_iff]
  simp only [edit_replaceLow_eq_ok_iff hl, edit_replaceHigh_eq_ok_iff hh]
  exact exists_liesBetween_and_iff (P := fun low _ => u.LiesBetween low y)

/-- Here it keeps the greater one. -/
theorem replaceHighThenLow_eq_ok_iff (hl : low.offset? = some x) (hh : high.offset? = some y) :
    s.replaceHighThenLow low high = .ok u ↔
      AreOffsets s.low.offset y ∧ u.LiesBetween x (max (s.low.offset : Int) y) := by
  rw [replaceHighThenLow, bind_eq_ok_iff]
  simp only [edit_replaceLow_eq_ok_iff hl, edit_replaceHigh_eq_ok_iff hh]
  exact exists_liesBetween_and_iff (P := fun _ high => u.LiesBetween x high)

/-- **Both ends replaced.** Two offsets, given as integers or as positions,
make a span, and replacing the ends by them goes through in either order. With
the low end first it gives that span exactly if the new low end is at most the
old high end, and with the high end first exactly if the new high end is at
least the old low end. So if the two offsets are in order, the span runs from
the one to the other, and one of the two orders gives it. -/
theorem replace_ends_in_turn (s : Span) (hl : low.offset? = some x) (hh : high.offset? = some y)
    (hx : 0 ≤ x ∧ x ≤ maxOffset) (hy : 0 ≤ y ∧ y ≤ maxOffset) :
    ∃ t u v, ofArguments low high = .ok t ∧ s.replaceLowThenHigh low high = .ok u ∧
      s.replaceHighThenLow low high = .ok v ∧
      (u = t ↔ x ≤ s.high.offset) ∧ (v = t ↔ s.low.offset ≤ y) ∧
      (x ≤ y → t.low.offset = x ∧ t.high.offset = y ∧ (u = t ∨ v = t)) := by
  have hle : s.low.offset ≤ s.high.offset := s.low_le_high
  have hs := s.high.offset_le
  have htfit : AreOffsets x y := ⟨by omega, by omega⟩
  have hufit : AreOffsets (min x s.high.offset) y := ⟨by omega, by omega⟩
  have hvfit : AreOffsets x (max (s.low.offset : Int) y) := ⟨by omega, by omega⟩
  obtain ⟨t, ht⟩ := htfit.exists_liesBetween
  obtain ⟨u, hu⟩ := hufit.exists_liesBetween
  obtain ⟨v, hv⟩ := hvfit.exists_liesBetween
  have hlow : u = t ↔ x ≤ s.high.offset := (hu.eq_iff_left ht).trans (by omega)
  have hhigh : v = t ↔ s.low.offset ≤ y := (hv.eq_iff_right ht).trans (by omega)
  refine ⟨t, u, v, ofArguments_eq_ok_iff.2 ⟨x, y, hl, hh, ht⟩,
    (replaceLowThenHigh_eq_ok_iff hl hh).2 ⟨⟨by omega, by omega⟩, hu⟩,
    (replaceHighThenLow_eq_ok_iff hl hh).2 ⟨⟨by omega, by omega⟩, hv⟩, hlow, hhigh, ?_⟩
  -- A low end past the high end takes an ordered high end past the low end.
  intro hxy
  obtain ⟨htlow, hthigh⟩ := ht
  rw [hlow, hhigh]
  omega

/-- A low end that passes the high end: with the low end first the old high end
stays, as the low one, and with the high end first both new ends are put in. -/
theorem replace_ends_in_turn_of_crossing :
    let s : Span := between ⟨5, by decide⟩ ⟨10, by decide⟩
    let high : Argument := .position ⟨20, by decide⟩
    ∃ t u, ofArguments (.int 12) high = .ok t ∧ t.low.offset = 12 ∧ t.high.offset = 20 ∧
      s.replaceLowThenHigh (.int 12) high = .ok u ∧ u ≠ t ∧
      s.replaceHighThenLow (.int 12) high = .ok t := by
  intro s high
  have hh : high.offset? = some 20 := rfl
  obtain ⟨t, u, v, ht, hu, hv, hlow, hhigh, hends⟩ := replace_ends_in_turn s
    (Argument.offset?_int 12) hh ⟨by decide, by decide⟩ ⟨by decide, by decide⟩
  obtain ⟨htlow, hthigh, -⟩ := hends (by decide)
  obtain rfl : v = t := hhigh.2 (by decide)
  exact ⟨v, u, ht, by omega, by omega, hu, fun h => absurd (hlow.1 h) (by decide), hv⟩

end Span

end LineMap
