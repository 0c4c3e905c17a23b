import LineMap.Proofs.MadeSpans
/-!
# Bound forms — one interval as a range, a slice and a pair

The three forms of bounds are checked by rules of their own. A range is asked
first whether it runs forward and then whether its ends fit, and they have to
fit as sizes. A slice is asked in the other order, and its ends have to fit as
offsets. A pair is never asked whether it runs forward, because its ends are
put in order. So what is refused, and what is said of it, depends on the form
(`RefusesRange`, `RefusesSlice`); but the integers from which a range or a
slice makes a span are the same, and so is the span.
-/

namespace LineMap

/-- **A fault of the value alone**: the argument is of the right kind, and it
is out of range or unfit in another way. -/
def Fault.IsUnfit (fault : Fault) : Prop :=
  fault.category = .range ∨ fault.category = .value

/-- A number is a bound as the integer that it stands for. -/
theorem Argument.toBound_number_eq_ok_iff {n : Number} {k : Int} :
    (number n).toBound = .ok k ↔ n.integer? = some k := by
  cases hn : n.integer? <;> simp [toBound, hn]

namespace Span

variable {s t : Span} {i j k : Int} {start stop step : Argument} {fault : Fault}
  {made : Except Fault Span}

/-! ## Ranges and slices -/

/-- **Why a range of integers in steps of one is refused.** Its direction
counts first, and then its start before its stop. -/
inductive RefusesRange (i j : Int) : Fault → Prop
  /-- It stops before it starts, wherever its ends are. -/
  | reversed (h : j < i) : RefusesRange i j (.rangeReversed i j)
  /-- Its start does not fit. -/
  | start (hle : i ≤ j) (h : i < 0 ∨ maxOffset < i) :
      RefusesRange i j (.outOfRange (.int i) (if maxOffset < i then "size" else "offset"))
  /-- Its start fits, and its stop is too wide; below zero it would be below
  the start. -/
  | stop (hi : 0 ≤ i ∧ i ≤ maxOffset) (h : maxOffset < j) :
      RefusesRange i j (.outOfRange (.int j) "size")

/-- **Why a slice of integers is refused.** Its ends count first, and its
direction only if both of them fit. -/
inductive RefusesSlice (i j : Int) : Fault → Prop
  /-- Its start does not fit. -/
  | start (h : i < 0 ∨ maxOffset < i) : RefusesSlice i j (.outOfRange (.int i) "offset")
  /-- Its start fits, and its stop does not. -/
  | stop (hi : 0 ≤ i ∧ i ≤ maxOffset) (h : j < 0 ∨ maxOffset < j) :
      RefusesSlice i j (.outOfRange (.int j) "offset")
  /-- Both fit, and it stops before it starts. -/
  | reversed (hi : 0 ≤ i ∧ i ≤ maxOffset) (hj : 0 ≤ j ∧ j ≤ maxOffset) (h : j < i) :
      RefusesSlice i j (.sliceReversed (toString i) (toString j) "None")

theorem RefusesRange.isUnfit (h : RefusesRange i j fault) : fault.IsUnfit := by
  cases h with
  | reversed => exact .inr rfl
  | start => exact .inl rfl
  | stop => exact .inl rfl

theorem RefusesSlice.isUnfit (h : RefusesSlice i j fault) : fault.IsUnfit := by
  cases h with
  | start => exact .inl rfl
  | stop => exact .inl rfl
  | reversed => exact .inr rfl

/-- A range of integers is refused for one of these reasons, and for nothing
else. -/
theorem ofBounds_range_eq_error_iff :
    ofBounds (.range (.int i) (.int j) (.int 1)) = .error fault ↔ RefusesRange i j fault := by
  change ofRange i j 1 = .error fault ↔ RefusesRange i j fault
  rw [ofRange, if_neg (by decide), if_neg (by decide)]
  by_cases hrev : j < i
  · rw [if_pos hrev, Except.error.injEq]
    constructor
    · rintro rfl
      exact .reversed hrev
    · intro h
      cases h with
      | reversed => rfl
      | start hle _ => omega
      | stop hi h => omega
  · rw [if_neg hrev]
    simp only [bind_eq_error_iff, pure_eq_ok, reduceCtorEq, and_false, exists_false, or_false,
      Position.ofSize_int_eq_error_iff, Position.ofSize_int_eq_ok_iff]
    constructor
    · rintro (⟨hi, rfl⟩ | ⟨p, hp, hj, rfl⟩)
      · exact .start (by omega) hi
      · -- The start is at least zero, and the stop is not before it.
        have hfit := p.offset_le
        rw [if_pos (by omega)]
        exact .stop (by omega) (by omega)
    · intro h
      cases h with
      | reversed h => omega
      | start _ hi => exact .inl ⟨hi, rfl⟩
      | stop hi hj =>
        refine .inr ⟨⟨i.toNat, by omega⟩, (Int.toNat_of_nonneg hi.1).symm, .inr hj, ?_⟩
        rw [if_pos hj]

/-- And so is a slice of integers. -/
theorem ofBounds_slice_eq_error_iff :
    ofBounds (.slice (.int i) (.int j) .absent) = .error fault ↔ RefusesSlice i j fault := by
  have hslice : ofBounds (.slice (.int i) (.int j) .absent) = (do
      let low ← Position.ofInt i
      let high ← Position.ofInt j
      if low > high then .error (.sliceReversed (toString i) (toString j) "None")
      else return between low high) := rfl
  rw [hslice]
  simp only [bind_eq_error_iff, Position.ofInt_eq_error_iff, Position.ofInt_eq_ok_iff]
  constructor
  · rintro (⟨hi, rfl⟩ | ⟨p, hp, ⟨hj, rfl⟩ | ⟨q, hq, h⟩⟩)
    · exact .start hi
    · have hfit := p.offset_le
      exact .stop (by omega) hj
    · have hfit := p.offset_le
      have hfit' := q.offset_le
      split at h
      next hrev =>
        rw [gt_iff_lt, Position.lt_iff] at hrev
        cases h
        exact .reversed (by omega) (by omega) (by omega)
      next => cases h
  · intro h
    cases h with
    | start hi => exact .inl ⟨hi, rfl⟩
    | stop hi hj =>
      exact .inr ⟨⟨i.toNat, by omega⟩, (Int.toNat_of_nonneg hi.1).symm, .inl ⟨hj, rfl⟩⟩
    | reversed hi hj h =>
      refine .inr ⟨⟨i.toNat, by omega⟩, (Int.toNat_of_nonneg hi.1).symm,
        .inr ⟨⟨j.toNat, by omega⟩, (Int.toNat_of_nonneg hj.1).symm, ?_⟩⟩
      rw [if_pos (by rw [gt_iff_lt, Position.lt_iff]; dsimp only; omega)]

theorem ofBounds_range_eq_ok_iff :
    ofBounds (.range (.int i) (.int j) (.int k)) = .ok t ↔
      k = 1 ∧ i ≤ j ∧ t.LiesBetween i j :=
  ofRange_eq_ok_iff

theorem ofBounds_slice_eq_ok_iff :
    ofBounds (.slice (.int i) (.int j) .absent) = .ok t ↔ i ≤ j ∧ t.LiesBetween i j := by
  rw [ofBounds, ofSlice_eq_ok_iff]
  simp only [isUnitStep, Argument.offset?_int, Option.some.injEq, true_and, exists_and_left,
    exists_eq_left']

theorem ofBounds_pair_eq_ok_iff :
    ofBounds (.pair [.int i, .int j]) = .ok t ↔ t.LiesBetween i j := by
  refine ofArguments_eq_ok_iff.trans ?_
  simp only [Argument.offset?_int, Option.some.injEq, exists_and_left, exists_eq_left']

/-- **What bounds that have to run forward give.** -/
structure RunsForward (i j : Int) (made : Except Fault Span) : Prop where
  /-- They go through exactly if both integers are offsets, in this order. -/
  exists_iff : (∃ t, made = .ok t) ↔ 0 ≤ i ∧ i ≤ j ∧ j ≤ maxOffset
  /-- The span has the two integers as its ends, and is the one that they make
  as two ends and as a pair. -/
  ends : ∀ t, made = .ok t → t.low.offset = i ∧ t.high.offset = j ∧
    ofArguments (.int i) (.int j) = .ok t ∧ ofBounds (.pair [.int i, .int j]) = .ok t
  /-- What is refused are the values. -/
  refused : ∀ fault, made = .error fault → fault.IsUnfit

/-- Bounds that make the spans between two integers in order run forward. -/
theorem runsForward_of (hmade : ∀ t, made = .ok t ↔ i ≤ j ∧ t.LiesBetween i j)
    (hrefused : ∀ fault, made = .error fault → fault.IsUnfit) : RunsForward i j made where
  exists_iff := by
    simp only [hmade, exists_and_left, exists_liesBetween_iff]
    unfold AreOffsets
    omega
  ends t ht := by
    obtain ⟨hle, hends⟩ := (hmade t).1 ht
    have hpair := ofBounds_pair_eq_ok_iff.2 hends
    obtain ⟨hlow, hhigh⟩ := hends
    exact ⟨by omega, by omega, hpair, hpair⟩
  refused := hrefused

theorem runsForward_range (i j : Int) :
    RunsForward i j (ofBounds (.range (.int i) (.int j) (.int 1))) := by
  refine runsForward_of (fun t => ?_) fun fault h => (ofBounds_range_eq_error_iff.1 h).isUnfit
  rw [ofBounds_range_eq_ok_iff]
  exact and_iff_right rfl

theorem runsForward_slice (i j : Int) :
    RunsForward i j (ofBounds (.slice (.int i) (.int j) .absent)) :=
  runsForward_of (fun _ => ofBounds_slice_eq_ok_iff)
    fun _ h => (ofBounds_slice_eq_error_iff.1 h).isUnfit

/-! ## Pairs -/

/-- A pair goes through if its two integers are offsets, in any order. -/
theorem exists_ofBounds_pair_iff :
    (∃ t, ofBounds (.pair [.int i, .int j]) = .ok t) ↔
      (0 ≤ i ∧ i ≤ maxOffset) ∧ 0 ≤ j ∧ j ≤ maxOffset := by
  simp only [ofBounds_pair_eq_ok_iff, exists_liesBetween_iff]
  unfold AreOffsets
  omega

/-- Which of the two comes first does not matter. -/
theorem ofBounds_pair_comm :
    ofBounds (.pair [.int i, .int j]) = .ok t ↔ ofBounds (.pair [.int j, .int i]) = .ok t := by
  rw [ofBounds_pair_eq_ok_iff, ofBounds_pair_eq_ok_iff]
  unfold LiesBetween
  rw [Int.min_comm, Int.max_comm]

/-! ## Steps -/

/-- **Another step than one** is no step of a range, whatever its ends are. -/
theorem exists_ofBounds_range_eq_error (hstep : step.toBound = .ok k) (hk : k ≠ 1) :
    ∃ fault, ofBounds (.range start stop step) = .error fault := by
  cases h : ofBounds (.range start stop step) with
  | error fault => exact ⟨fault, rfl⟩
  | ok t =>
    -- Bounds that make a span give its integers, and a range gives any only
    -- in steps of one.
    obtain ⟨i, j, hgives, -⟩ := gives_of_ofBounds h
    cases hgives with
    | range _ _ hone _ =>
      rw [hone] at hstep
      exact absurd (Except.ok.inj hstep).symm hk

theorem isUnitStep_eq_false (hstep : step.toBound = .ok k) (hk : k ≠ 1) :
    isUnitStep step = false := by
  cases step with
  | number n =>
    have hn : n.integer? = some k := Argument.toBound_number_eq_ok_iff.1 hstep
    rw [isUnitStep, Number.same_of_integer? hn rfl]
    exact decide_eq_false hk
  | position p => rfl
  | _ => cases hstep

/-- A slice with such a step is refused for it, before its ends are looked
at. -/
theorem ofBounds_slice_eq_error (hstep : step.toBound = .ok k) (hk : k ≠ 1) :
    ofBounds (.slice start stop step) = .error (.sliceStep step.shown) := by
  have hplain : step.plain = .ok step.shown := by
    cases step with
    | number n => rfl
    | position p => rfl
    | _ => cases hstep
  rw [ofBounds, ofSlice.eq_def, isUnitStep_eq_false hstep hk, hplain]
  rfl

/-! ## Back and forth -/

/-- What a span gives as bounds makes the span again, in each of the forms. -/
theorem ofBounds_asRange (s : Span) : ofBounds s.asRange = .ok s :=
  ofBounds_of_gives (.range rfl rfl rfl (Int.ofNat_le.2 s.low_le_high))
    (between_eq_iff.1 s.between_ends)

theorem ofBounds_asSlice (s : Span) : ofBounds s.asSlice = .ok s :=
  ofBounds_of_gives (.slice rfl rfl rfl (Int.ofNat_le.2 s.low_le_high))
    (between_eq_iff.1 s.between_ends)

theorem ofBounds_asPair (s : Span) : ofBounds s.asPair = .ok s :=
  ofBounds_of_gives (.pair rfl rfl) (between_eq_iff.1 s.between_ends)

/-- And a range that makes a span is the range of the span. -/
theorem asRange_of_ofBounds (h : ofBounds (.range (.int i) (.int j) (.int k)) = .ok t) :
    t.asRange = .range (.int i) (.int j) (.int k) := by
  obtain ⟨rfl, hle, hlow, hhigh⟩ := ofBounds_range_eq_ok_iff.1 h
  rw [asRange, hlow, hhigh, Int.min_eq_left hle, Int.max_eq_right hle]

/-- **The forms of bounds agree.** Two integers make a span as a range, or as
a slice, exactly if they are offsets and in order. It is in both cases the span
that they make as two ends and as a pair, and otherwise the values are refused.
As a pair they have to be offsets only, in any order. Ranges and slices with
another integer step than one are refused. The range, the slice and the pair
that a span gives make the span again, and a range that makes a span is the
range of the span. -/
theorem ofBounds_forms_agree :
    (∀ i j : Int,
      RunsForward i j (ofBounds (.range (.int i) (.int j) (.int 1))) ∧
      RunsForward i j (ofBounds (.slice (.int i) (.int j) .absent)) ∧
      ((∃ t, ofBounds (.pair [.int i, .int j]) = .ok t) ↔
        (0 ≤ i ∧ i ≤ maxOffset) ∧ 0 ≤ j ∧ j ≤ maxOffset) ∧
      ∀ t, ofBounds (.pair [.int i, .int j]) = .ok t ↔
        ofBounds (.pair [.int j, .int i]) = .ok t) ∧
    (∀ (start stop step : Argument) (k : Int), step.toBound = .ok k → k ≠ 1 →
      (∃ fault, ofBounds (.range start stop step) = .error fault) ∧
      ∃ fault, ofBounds (.slice start stop step) = .error fault) ∧
    (∀ s : Span, ofBounds s.asRange = .ok s ∧ ofBounds s.asSlice = .ok s ∧
      ofBounds s.asPair = .ok s) ∧
    ∀ (i j k : Int) (t : Span), ofBounds (.range (.int i) (.int j) (.int k)) = .ok t →
      t.asRange = .range (.int i) (.int j) (.int k) := by
  refine ⟨fun i j => ?_, fun start stop step k hstep hk => ?_, fun s => ?_,
    fun i j k t => asRange_of_ofBounds⟩
  · exact ⟨runsForward_range i j, runsForward_slice i j, exists_ofBounds_pair_iff,
      fun t => ofBounds_pair_comm⟩
  · exact ⟨exists_ofBounds_range_eq_error hstep hk, _, ofBounds_slice_eq_error hstep hk⟩
  · exact ⟨s.ofBounds_asRange, s.ofBounds_asSlice, s.ofBounds_asPair⟩

/-- Bounds that end at the greatest offset go through in all forms, and turned
round only as a pair; and a step of minus one is refused in either form. -/
theorem ofBounds_forms_agree_at_greatest :
    (∃ t, ofBounds (.range (.int 7) (.int 4294967295) (.int 1)) = .ok t ∧ t.low.offset = 7 ∧
      ofBounds (.slice (.int 7) (.int 4294967295) .absent) = .ok t ∧
      ofBounds (.pair [.int 4294967295, .int 7]) = .ok t ∧
      t.asRange = .range (.int 7) (.int 4294967295) (.int 1)) ∧
    (∃ fault, ofBounds (.slice (.int 4294967295) (.int 7) .absent) = .error fault ∧
      fault.IsUnfit) ∧
    ∃ fault, ofBounds (.slice (.int 4294967295) (.int 7) (.int (-1))) = .error fault := by
  obtain ⟨hforms, hsteps, -, hback⟩ := ofBounds_forms_agree
  obtain ⟨hrange, hslice, -, hturned⟩ := hforms 7 4294967295
  obtain ⟨-, hreversed, -, -⟩ := hforms 4294967295 7
  obtain ⟨t, ht⟩ := hrange.exists_iff.2 ⟨by decide, by decide, by decide⟩
  obtain ⟨u, hu⟩ := hslice.exists_iff.2 ⟨by decide, by decide, by decide⟩
  obtain ⟨hlow, -, -, hpair⟩ := hrange.ends t ht
  obtain ⟨-, -, -, hpair'⟩ := hslice.ends u hu
  obtain rfl : t = u := Except.ok.inj (hpair.symm.trans hpair')
  obtain ⟨-, hstep⟩ := hsteps (.int 4294967295) (.int 7) (.int (-1)) (-1) rfl (by decide)
  refine ⟨⟨t, ht, by omega, hu, (hturned t).1 hpair, hback _ _ _ t ht⟩, ?_, hstep⟩
  cases h : ofBounds (.slice (.int 4294967295) (.int 7) .absent) with
  | error fault => exact ⟨fault, rfl, hreversed.refused fault h⟩
  | ok v =>
    obtain ⟨-, hle, -⟩ := hreversed.exists_iff.1 ⟨v, h⟩
    exact absurd hle (by decide)

end Span

end LineMap
