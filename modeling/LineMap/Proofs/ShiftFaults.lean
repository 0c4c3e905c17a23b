import LineMap.Proofs.MadeSpans
/-!
# Shift faults — which refusal a shift gives

A shift by an integer may be refused for its amount, for an end that would
fall below zero and for an end that would rise above the greatest offset.
Which of these it is follows from three integers. The amount counts first,
wherever the ends are, and then the low end counts before the high end. A
low end is never above its high end, so of a whole span it is always the low
end that falls below zero, while either may be the first to rise too high.
-/

namespace LineMap

variable {p q other : Position} {s t : Span} {d : Int} {endpoint : String} {fault : Fault}

/-- An amount fits if it is a signed integer of thirty-two bits. -/
def FitsShift (d : Int) : Prop :=
  minShift ≤ d ∧ d ≤ maxShift

/-! ## One end -/

namespace Position

/-- **Why an end is not moved by an integer**, with what is said of it. -/
inductive RefusesShift (p : Position) (d : Int) (endpoint : String) : Fault → Prop
  /-- The amount does not fit, wherever the end is. -/
  | amount (h : ¬ FitsShift d) : RefusesShift p d endpoint (.outOfRange (.int d) "shift amount")
  /-- The sum is below zero. -/
  | underflow (hd : FitsShift d) (h : p.offset + d < 0) :
      RefusesShift p d endpoint (.underflow (.int (p.offset + d)) endpoint)
  /-- The sum is above the greatest offset. -/
  | overflow (hd : FitsShift d) (h : maxOffset < p.offset + d) :
      RefusesShift p d endpoint (.overflow (.int (p.offset + d)) endpoint)

/-- An end is moved exactly if the amount fits and the sum is an offset. -/
theorem shift_int_eq_ok_iff :
    p.shift (.int d) endpoint = .ok q ↔ FitsShift d ∧ (q.offset : Int) = p.offset + d := by
  rw [shift_eq_ok_iff]
  constructor
  · rintro ⟨e, he, hmin, hmax, hq⟩
    obtain rfl : d = e := Option.some.inj he
    exact ⟨⟨hmin, hmax⟩, hq⟩
  · rintro ⟨⟨hmin, hmax⟩, hq⟩
    exact ⟨d, rfl, hmin, hmax, hq⟩

theorem exists_shift_int_iff (endpoint : String) :
    (∃ q, p.shift (.int d) endpoint = .ok q) ↔
      FitsShift d ∧ 0 ≤ p.offset + d ∧ p.offset + d ≤ maxOffset := by
  simp only [shift_int_eq_ok_iff]
  constructor
  · rintro ⟨q, hd, hq⟩
    have hfit := q.offset_le
    exact ⟨hd, by omega, by omega⟩
  · rintro ⟨hd, hlow, hhigh⟩
    exact ⟨⟨(p.offset + d).toNat, by omega⟩, hd, Int.toNat_of_nonneg hlow⟩

/-- **Every refusal of an end** has one of the three reasons, and every reason
is a refusal. -/
theorem shift_int_eq_error_iff :
    p.shift (.int d) endpoint = .error fault ↔ p.RefusesShift d endpoint fault := by
  unfold shift
  simp only [Number.le_int, Number.lt_int, Number.int_add_int, Bool.and_eq_true,
    decide_eq_true_eq]
  constructor
  · intro h
    split at h
    next hd =>
      split at h
      next hlow =>
        cases h
        exact .underflow hd hlow
      next hlow =>
        split at h
        next hhigh =>
          cases h
          exact .overflow hd hhigh
        next hhigh =>
          -- a sum between the two bounds is an offset
          rw [ofNumber, ofInt, dif_pos ⟨by omega, by omega⟩] at h
          cases h
    next hd =>
      cases h
      exact .amount hd
  · intro h
    cases h with
    | amount hd => exact if_neg hd
    | underflow hd hlow =>
      have hfit : minShift ≤ d ∧ d ≤ maxShift := hd
      rw [if_pos hfit, if_pos hlow]
    | overflow hd hhigh =>
      have hfit : minShift ≤ d ∧ d ≤ maxShift := hd
      rw [if_pos hfit, if_neg (by omega), if_pos hhigh]

/-- A refusal names the end that it is about. -/
theorem RefusesShift.endpoint_eq {value : Number} {name : String}
    (h : p.RefusesShift d endpoint (.underflow value name)) : name = endpoint := by
  cases h
  rfl

end Position

/-! ## Spans -/

namespace Span

/-- **What moving one end of a span gives**, with `other` for the end that
stays. -/
structure MovesEnd (p other : Position) (d : Int) (endpoint : String)
    (moved : Except Fault Span) : Prop where
  /-- It goes through exactly if the amount fits and the sum is an offset. -/
  exists_iff : (∃ t, moved = .ok t) ↔ FitsShift d ∧ 0 ≤ p.offset + d ∧ p.offset + d ≤ maxOffset
  /-- The ends are then the sum and the end that stays, in ascending order. -/
  ends : ∀ t, moved = .ok t →
    t.low.offset = min (p.offset + d) other.offset ∧ t.high.offset = max (p.offset + d) other.offset
  /-- What is refused is the end that would move, under its name. -/
  refused : ∀ fault, moved = .error fault ↔ p.RefusesShift d endpoint fault

/-- Whatever is made of the moved end by putting it in order with the other
is such a move. -/
theorem movesEnd_map_between (p other : Position) (d : Int) (endpoint : String) :
    MovesEnd p other d endpoint ((p.shift (.int d) endpoint).map (between · other)) where
  exists_iff := by
    rw [← Position.exists_shift_int_iff endpoint]
    simp only [map_eq_ok_iff]
    constructor
    · rintro ⟨t, q, hq, -⟩
      exact ⟨q, hq⟩
    · rintro ⟨q, hq⟩
      exact ⟨between q other, q, hq, rfl⟩
  ends t ht := by
    obtain ⟨q, hq, ht⟩ := map_eq_ok_iff.1 ht
    obtain ⟨-, hsum⟩ := Position.shift_int_eq_ok_iff.1 hq
    have hends := between_eq_iff.1 ht
    rwa [hsum] at hends
  refused fault := by
    rw [map_eq_error_iff]
    exact Position.shift_int_eq_error_iff

theorem shiftLow_eq_map (s : Span) (n : Number) :
    s.shiftLow n = (s.low.shift n "low").map (between · s.high) :=
  rfl

/-- The order in which the two ends are put together does not matter. -/
theorem shiftHigh_eq_map (s : Span) (n : Number) :
    s.shiftHigh n = (s.high.shift n "high").map (between · s.low) := by
  have hcomm : (between · s.low) = between s.low := funext fun q => between_comm q s.low
  rw [hcomm]
  rfl

/-- A whole span moves exactly if the amount fits, the low end does not fall
below zero and the high end does not rise too high. -/
theorem exists_shift_int_iff :
    (∃ t, s.shift (.int d) = .ok t) ↔
      FitsShift d ∧ 0 ≤ s.low.offset + d ∧ s.high.offset + d ≤ maxOffset := by
  have hle : s.low.offset ≤ s.high.offset := s.low_le_high
  simp only [shift, bind_eq_ok_iff, pure_eq_ok, Except.ok.injEq]
  constructor
  · rintro ⟨t, p, hp, q, hq, -⟩
    obtain ⟨hd, hlow, -⟩ := (Position.exists_shift_int_iff "low").1 ⟨p, hp⟩
    obtain ⟨-, -, hhigh⟩ := (Position.exists_shift_int_iff "high").1 ⟨q, hq⟩
    exact ⟨hd, hlow, hhigh⟩
  · rintro ⟨hd, hlow, hhigh⟩
    obtain ⟨p, hp⟩ := (Position.exists_shift_int_iff "low").2
      ⟨hd, hlow, by omega⟩
    obtain ⟨q, hq⟩ := (Position.exists_shift_int_iff "high").2
      ⟨hd, by omega, hhigh⟩
    exact ⟨_, p, hp, q, hq, rfl⟩

/-- The ends of a moved span keep their order and their distance. -/
theorem ends_of_shift_int (h : s.shift (.int d) = .ok t) :
    (t.low.offset : Int) = s.low.offset + d ∧ (t.high.offset : Int) = s.high.offset + d := by
  have hle : s.low.offset ≤ s.high.offset := s.low_le_high
  obtain ⟨e, he, -, -, hlow, hhigh⟩ := shift_eq_ok_iff.1 h
  obtain rfl : d = e := Option.some.inj he
  omega

/-- **Every refusal of a whole span** is one of its low end, or else it is the
high end that rises too high. -/
theorem shift_int_eq_error_iff :
    s.shift (.int d) = .error fault ↔
      s.low.RefusesShift d "low" fault ∨
        FitsShift d ∧ 0 ≤ s.low.offset + d ∧ s.low.offset + d ≤ maxOffset ∧
          maxOffset < s.high.offset + d ∧
          fault = .overflow (.int (s.high.offset + d)) "high" := by
  have hle : s.low.offset ≤ s.high.offset := s.low_le_high
  simp only [shift, bind_eq_error_iff, pure_eq_ok, reduceCtorEq, and_false, exists_false, or_false,
    Position.shift_int_eq_error_iff]
  refine or_congr_right ?_
  constructor
  · rintro ⟨p, hp, hrefused⟩
    obtain ⟨hd, hlow, hfit⟩ := (Position.exists_shift_int_iff "low").1 ⟨p, hp⟩
    cases hrefused with
    | amount h => exact absurd hd h
    | underflow _ h => omega
    | overflow _ h => exact ⟨hd, hlow, hfit, h, rfl⟩
  · rintro ⟨hd, hlow, hfit, hhigh, rfl⟩
    obtain ⟨p, hp⟩ := (Position.exists_shift_int_iff "low").2 ⟨hd, hlow, hfit⟩
    exact ⟨p, hp, .overflow hd hhigh⟩

/-- **What shifts by an integer give.** A whole span moves exactly if the
amount fits and both sums are offsets, and its ends are then the two sums.
Otherwise it is refused for one reason: that of its low end, which counts
first, or else that its high end rises too high. So no underflow names the
high end. Moving a single end goes through or is refused by that end alone,
and puts the sum in order with the other end. -/
theorem shift_int_outcomes (s : Span) (d : Int) :
    ((∃ t, s.shift (.int d) = .ok t) ↔
      FitsShift d ∧ 0 ≤ s.low.offset + d ∧ s.high.offset + d ≤ maxOffset) ∧
    (∀ t, s.shift (.int d) = .ok t →
      (t.low.offset : Int) = s.low.offset + d ∧ (t.high.offset : Int) = s.high.offset + d) ∧
    (∀ fault, s.shift (.int d) = .error fault ↔
      s.low.RefusesShift d "low" fault ∨
        FitsShift d ∧ 0 ≤ s.low.offset + d ∧ s.low.offset + d ≤ maxOffset ∧
          maxOffset < s.high.offset + d ∧
          fault = .overflow (.int (s.high.offset + d)) "high") ∧
    (∀ value, s.shift (.int d) ≠ .error (.underflow value "high")) ∧
    MovesEnd s.low s.high d "low" (s.shiftLow (.int d)) ∧
    MovesEnd s.high s.low d "high" (s.shiftHigh (.int d)) := by
  refine ⟨exists_shift_int_iff, fun t ht => ends_of_shift_int ht,
    fun fault => shift_int_eq_error_iff, ?_, ?_, ?_⟩
  · intro value h
    rcases shift_int_eq_error_iff.1 h with h | ⟨-, -, -, -, h⟩
    · exact absurd h.endpoint_eq (by decide)
    · cases h
  · rw [shiftLow_eq_map]
    exact movesEnd_map_between _ _ _ _
  · rw [shiftHigh_eq_map]
    exact movesEnd_map_between _ _ _ _

/-- A span at the upper end of the range. A step down moves it, a step up is
refused for its high end, two steps up for its low end; and a high end that
moves past the low end becomes the low end. -/
theorem shift_int_outcomes_at_greatest :
    let s : Span := between ⟨4294967294, by decide⟩ ⟨4294967295, by decide⟩
    (∃ t, s.shift (.int (-1)) = .ok t ∧ t.low.offset = 4294967293 ∧ t.high.offset = 4294967294) ∧
    s.shift (.int 1) = .error (.overflow (.int 4294967296) "high") ∧
    s.shift (.int 2) = .error (.overflow (.int 4294967296) "low") ∧
    s.shift (.int 2147483648) = .error (.outOfRange (.int 2147483648) "shift amount") ∧
    ∃ t, s.shiftHigh (.int (-2)) = .ok t ∧ t.low.offset = 4294967293 ∧
      t.high.offset = 4294967294 := by
  intro s
  have hlow : s.low.offset = 4294967294 := rfl
  have hhigh : s.high.offset = 4294967295 := rfl
  have hgreatest : (maxOffset : Int) = 4294967295 := rfl
  refine ⟨?_, ?_, ?_, ?_, ?_⟩
  · obtain ⟨hgoes, hends, -⟩ := shift_int_outcomes s (-1)
    obtain ⟨t, ht⟩ := hgoes.2 ⟨⟨by decide, by decide⟩, by omega, by omega⟩
    obtain ⟨hl, hh⟩ := hends t ht
    exact ⟨t, ht, by omega, by omega⟩
  · obtain ⟨-, -, hrefused, -⟩ := shift_int_outcomes s 1
    exact (hrefused _).2 (.inr ⟨⟨by decide, by decide⟩, by omega, by omega, by omega, rfl⟩)
  · obtain ⟨-, -, hrefused, -⟩ := shift_int_outcomes s 2
    exact (hrefused _).2 (.inl (.overflow ⟨by decide, by decide⟩ (by omega)))
  · obtain ⟨-, -, hrefused, -⟩ := shift_int_outcomes s 2147483648
    exact (hrefused _).2 (.inl (.amount fun h => absurd h.2 (by decide)))
  · obtain ⟨-, -, -, -, -, hmoves⟩ := shift_int_outcomes s (-2)
    obtain ⟨t, ht⟩ := hmoves.exists_iff.2 ⟨⟨by decide, by decide⟩, by omega, by omega⟩
    obtain ⟨hl, hh⟩ := hmoves.ends t ht
    exact ⟨t, ht, by omega, by omega⟩

end Span

end LineMap
