import LineMap.Proofs.Offsets
import LineMap.Span.Bounds
/-!
# Made spans — between which integers an operation puts a span

Every operation that makes a span computes two integers and puts them
through the checks of positions and the one constructor that orders them.
So the span that it makes lies between those integers (`LiesBetween`), and
they are offsets because the ends of a span are. The lemmas here say for
each operation which two integers they are, and what it asks of its
arguments apart from that.
-/

namespace LineMap

variable {s t u : Span} {p q : Position} {i j k : Int} {n : Number} {bounds : Bounds}
variable {low high start stop step : Argument} {items : List Argument}

namespace Span

/-- **A span lies between two integers** if they are its ends, in the one
order or in the other. -/
def LiesBetween (t : Span) (i j : Int) : Prop :=
  t.low.offset = min i j ∧ t.high.offset = max i j

/-- A span lies between its own ends. -/
theorem between_ends (t : Span) : between t.low t.high = t :=
  between_of_le t.low_le_high

theorem between_eq_iff : between p q = t ↔ t.LiesBetween p.offset q.offset := by
  rw [Span.ext_iff, Position.ext_iff, Position.ext_iff, low_between, high_between,
    Position.offset_min, Position.offset_max, LiesBetween]
  omega

/-- Two integers are offsets if they are not negative and fit. -/
def AreOffsets (i j : Int) : Prop :=
  0 ≤ min i j ∧ max i j ≤ maxOffset

/-- **What a span lies between are offsets.** -/
theorem LiesBetween.areOffsets (h : t.LiesBetween i j) : AreOffsets i j := by
  have hfit := t.high.offset_le
  obtain ⟨hlow, hhigh⟩ := h
  unfold AreOffsets
  omega

/-- And between any two offsets there lies a span. -/
theorem AreOffsets.exists_liesBetween (h : AreOffsets i j) : ∃ t : Span, t.LiesBetween i j := by
  obtain ⟨hlow, hhigh⟩ := h
  have hp : i.toNat ≤ maxOffset := by omega
  have hq : j.toNat ≤ maxOffset := by omega
  refine ⟨between ⟨i.toNat, hp⟩ ⟨j.toNat, hq⟩, ?_⟩
  have hbetween := between_eq_iff.1 (rfl : between ⟨i.toNat, hp⟩ ⟨j.toNat, hq⟩ = _)
  rwa [Int.toNat_of_nonneg (by omega), Int.toNat_of_nonneg (by omega)] at hbetween

theorem exists_liesBetween_iff : (∃ t : Span, t.LiesBetween i j) ↔ AreOffsets i j :=
  ⟨fun ⟨_, h⟩ => h.areOffsets, fun h => h.exists_liesBetween⟩

/-- What is asked of the ends of such a span is asked of the two integers, in
order. -/
theorem exists_liesBetween_and_iff {P : Int → Int → Prop} :
    (∃ t : Span, t.LiesBetween i j ∧ P t.low.offset t.high.offset) ↔
      AreOffsets i j ∧ P (min i j) (max i j) := by
  constructor
  · rintro ⟨t, ht, h⟩
    rw [ht.1, ht.2] at h
    exact ⟨ht.areOffsets, h⟩
  · rintro ⟨hfit, h⟩
    obtain ⟨t, ht⟩ := hfit.exists_liesBetween
    rw [← ht.1, ← ht.2] at h
    exact ⟨t, ht, h⟩

/-- So they are the offsets of two positions. -/
theorem LiesBetween.exists_positions (h : t.LiesBetween i j) :
    ∃ p q : Position, i = p.offset ∧ j = q.offset ∧ between p q = t := by
  obtain ⟨hlow, hhigh⟩ := h
  rcases Int.le_total i j with hij | hij
  · exact ⟨t.low, t.high, by omega, by omega, t.between_ends⟩
  · exact ⟨t.high, t.low, by omega, by omega, by rw [between_comm, between_ends]⟩

/-! ## Spans from arguments -/

/-- Two arguments give the span between the offsets that they stand for. -/
theorem ofArguments_eq_ok_iff :
    ofArguments low high = .ok t ↔
      ∃ i j, low.offset? = some i ∧ high.offset? = some j ∧ t.LiesBetween i j := by
  simp only [ofArguments, bind_eq_ok_iff, pure_eq_ok, Except.ok.injEq, Position.coerce_eq_ok_iff,
    between_eq_iff]
  constructor
  · rintro ⟨p, hp, q, hq, h⟩
    exact ⟨p.offset, q.offset, hp, hq, h⟩
  · rintro ⟨i, j, hi, hj, h⟩
    obtain ⟨p, q, rfl, rfl, -⟩ := h.exists_positions
    exact ⟨p, hi, q, hj, h⟩

/-- A list of items is a pair only if it has two. -/
theorem ofPair_eq_ok_iff :
    ofPair items = .ok t ↔ ∃ low high, items = [low, high] ∧ ofArguments low high = .ok t := by
  constructor
  · intro h
    match items, h with
    | [low, high], h => exact ⟨low, high, rfl, h⟩
  · rintro ⟨low, high, rfl, h⟩
    exact h

/-- A range gives the span from its start to its stop if it runs forward in
steps of one. -/
theorem ofRange_eq_ok_iff : ofRange i j k = .ok t ↔ k = 1 ∧ i ≤ j ∧ t.LiesBetween i j := by
  have hends : (do return between (← Position.ofSize (.int i)) (← Position.ofSize (.int j)) :
      Except Fault Span) = .ok t ↔ t.LiesBetween i j := by
    simp only [bind_eq_ok_iff, pure_eq_ok, Except.ok.injEq, Position.ofSize_int_eq_ok_iff,
      between_eq_iff]
    constructor
    · rintro ⟨p, rfl, q, rfl, h⟩
      exact h
    · intro h
      obtain ⟨p, q, hp, hq, -⟩ := h.exists_positions
      exact ⟨p, hp, q, hq, hp ▸ hq ▸ h⟩
  unfold ofRange
  split
  next h0 => simp [h0]
  next =>
    split
    next h1 => simp [h1]
    next h1 =>
      split
      next hgt =>
        simp only [reduceCtorEq, false_iff]
        omega
      next hle =>
        rw [hends]
        exact ⟨fun h => ⟨by omega, by omega, h⟩, fun h => h.2.2⟩

/-- A slice needs both of its ends, and runs forward in steps of one as
well. -/
theorem ofSlice_eq_ok_iff :
    ofSlice start stop step = .ok t ↔
      isUnitStep step = true ∧ ∃ i j, start.offset? = some i ∧ stop.offset? = some j ∧
        i ≤ j ∧ t.LiesBetween i j := by
  unfold ofSlice
  split
  next hstep =>
    rw [Bool.not_eq_true'] at hstep
    simp [bind_eq_ok_iff, hstep]
  next hstep =>
    rw [Bool.not_eq_true, Bool.not_eq_false'] at hstep
    split
    · simp [Argument.offset?]
    · simp [Argument.offset?]
    · simp only [bind_eq_ok_iff, Position.coerce_eq_ok_iff]
      constructor
      · rintro ⟨p, hp, q, hq, h⟩
        split at h
        · cases h
        next hle =>
          rw [pure_eq_ok, Except.ok.injEq, between_eq_iff] at h
          rw [gt_iff_lt, Position.lt_iff] at hle
          exact ⟨hstep, p.offset, q.offset, hp, hq, by omega, h⟩
      · rintro ⟨-, i, j, hi, hj, hle, h⟩
        obtain ⟨p, q, rfl, rfl, hpq⟩ := h.exists_positions
        refine ⟨p, hi, q, hj, ?_⟩
        rw [if_neg (by rw [gt_iff_lt, Position.lt_iff]; omega), hpq, pure_eq_ok]

end Span

/-- **The integers that bounds give**, whether or not they are offsets.
Ranges and slices run forward in steps of one; a range takes truth values
for zero and one, a slice does not. -/
inductive Bounds.Gives : Bounds → Int → Int → Prop
  /-- A range gives its start and its stop. -/
  | range {start stop step : Argument} {i j : Int} (hl : start.toBound = .ok i)
      (hh : stop.toBound = .ok j) (hstep : step.toBound = .ok 1) (hle : i ≤ j) :
      Gives (.range start stop step) i j
  /-- So does a slice that has both. -/
  | slice {start stop step : Argument} {i j : Int} (hl : start.offset? = some i)
      (hh : stop.offset? = some j) (hstep : Span.isUnitStep step = true) (hle : i ≤ j) :
      Gives (.slice start stop step) i j
  /-- A pair gives its two items. -/
  | pair {low high : Argument} {i j : Int} (hl : low.offset? = some i)
      (hh : high.offset? = some j) : Gives (.pair [low, high]) i j
  /-- So does a list of two items. -/
  | list {low high : Argument} {i j : Int} (hl : low.offset? = some i)
      (hh : high.offset? = some j) : Gives (.value (.list [low, high])) i j

namespace Span

/-- Bounds give a span between the integers that they give. -/
theorem gives_of_ofBounds (h : ofBounds bounds = .ok t) :
    ∃ i j, bounds.Gives i j ∧ t.LiesBetween i j := by
  cases bounds with
  | range start stop step =>
    obtain ⟨i, hi, h⟩ := bind_eq_ok_iff.1 h
    obtain ⟨j, hj, h⟩ := bind_eq_ok_iff.1 h
    obtain ⟨k, hk, h⟩ := bind_eq_ok_iff.1 h
    obtain ⟨rfl, hle, h⟩ := ofRange_eq_ok_iff.1 h
    exact ⟨i, j, .range hi hj hk hle, h⟩
  | slice start stop step =>
    obtain ⟨hstep, i, j, hi, hj, hle, h⟩ := ofSlice_eq_ok_iff.1 h
    exact ⟨i, j, .slice hi hj hstep hle, h⟩
  | pair items =>
    obtain ⟨low, high, rfl, h⟩ := ofPair_eq_ok_iff.1 h
    obtain ⟨i, j, hi, hj, h⟩ := ofArguments_eq_ok_iff.1 h
    exact ⟨i, j, .pair hi hj, h⟩
  | value value =>
    cases value with
    | list items =>
      obtain ⟨low, high, rfl, h⟩ := ofPair_eq_ok_iff.1 h
      obtain ⟨i, j, hi, hj, h⟩ := ofArguments_eq_ok_iff.1 h
      exact ⟨i, j, .list hi hj, h⟩
    | text value =>
      -- the items of a text are texts, and those are no offsets
      obtain ⟨low, high, hitems, h⟩ := ofPair_eq_ok_iff.1 h
      obtain ⟨i, j, hi, -, -⟩ := ofArguments_eq_ok_iff.1 h
      obtain ⟨c, -, rfl⟩ := List.mem_map.1 (hitems ▸ List.mem_cons_self)
      cases hi
    | _ => cases h

/-- And of those integers they make every span between them. -/
theorem ofBounds_of_gives (hgives : bounds.Gives i j) (h : t.LiesBetween i j) :
    ofBounds bounds = .ok t := by
  cases hgives with
  | range hl hh hstep hle =>
    rw [ofBounds, hl, ok_bind, hh, ok_bind, hstep, ok_bind]
    exact ofRange_eq_ok_iff.2 ⟨rfl, hle, h⟩
  | slice hl hh hstep hle => exact ofSlice_eq_ok_iff.2 ⟨hstep, i, j, hl, hh, hle, h⟩
  | pair hl hh => exact ofArguments_eq_ok_iff.2 ⟨i, j, hl, hh, h⟩
  | list hl hh => exact ofArguments_eq_ok_iff.2 ⟨i, j, hl, hh, h⟩

/-! ## Spans from spans -/

theorem replaceLow_eq_iff : s.replaceLow p = t ↔ t.LiesBetween p.offset s.high.offset :=
  between_eq_iff

theorem replaceHigh_eq_iff : s.replaceHigh p = t ↔ t.LiesBetween s.low.offset p.offset :=
  between_eq_iff

/-- The union lies between the outermost ends. -/
theorem union_eq_iff :
    s.union t = u ↔
      u.LiesBetween (min s.low.offset t.low.offset) (max s.high.offset t.high.offset) := by
  rw [union, between_eq_iff, Position.offset_min, Position.offset_max, LiesBetween, LiesBetween]
  omega

/-- Moved ends are asked for as sums with the integer that the amount stands
for. -/
theorem shift_eq_ok_iff :
    s.shift n = .ok t ↔ ∃ d, n.integer? = some d ∧ minShift ≤ d ∧ d ≤ maxShift ∧
      t.LiesBetween (s.low.offset + d) (s.high.offset + d) := by
  simp only [shift, bind_eq_ok_iff, pure_eq_ok, Except.ok.injEq, Position.shift_eq_ok_iff,
    between_eq_iff]
  constructor
  · rintro ⟨p, ⟨d, hd, hmin, hmax, hp⟩, q, ⟨d', hd', -, -, hq⟩, h⟩
    rw [Option.some.inj (hd'.symm.trans hd)] at hq
    exact ⟨d, hd, hmin, hmax, hp ▸ hq ▸ h⟩
  · rintro ⟨d, hd, hmin, hmax, h⟩
    obtain ⟨p, q, hp, hq, -⟩ := h.exists_positions
    exact ⟨p, ⟨d, hd, hmin, hmax, hp.symm⟩, q, ⟨d, hd, hmin, hmax, hq.symm⟩, hp ▸ hq ▸ h⟩

theorem shiftLow_eq_ok_iff :
    s.shiftLow n = .ok t ↔ ∃ d, n.integer? = some d ∧ minShift ≤ d ∧ d ≤ maxShift ∧
      t.LiesBetween (s.low.offset + d) s.high.offset := by
  simp only [shiftLow, bind_eq_ok_iff, pure_eq_ok, Except.ok.injEq, Position.shift_eq_ok_iff,
    between_eq_iff]
  constructor
  · rintro ⟨p, ⟨d, hd, hmin, hmax, hp⟩, h⟩
    exact ⟨d, hd, hmin, hmax, hp ▸ h⟩
  · rintro ⟨d, hd, hmin, hmax, h⟩
    obtain ⟨p, -, hp, -⟩ := h.exists_positions
    exact ⟨p, ⟨d, hd, hmin, hmax, hp.symm⟩, hp ▸ h⟩

theorem shiftHigh_eq_ok_iff :
    s.shiftHigh n = .ok t ↔ ∃ d, n.integer? = some d ∧ minShift ≤ d ∧ d ≤ maxShift ∧
      t.LiesBetween s.low.offset (s.high.offset + d) := by
  simp only [shiftHigh, bind_eq_ok_iff, pure_eq_ok, Except.ok.injEq, Position.shift_eq_ok_iff,
    between_eq_iff]
  constructor
  · rintro ⟨q, ⟨d, hd, hmin, hmax, hq⟩, h⟩
    exact ⟨d, hd, hmin, hmax, hq ▸ h⟩
  · rintro ⟨d, hd, hmin, hmax, h⟩
    obtain ⟨-, q, -, hq, -⟩ := h.exists_positions
    exact ⟨q, ⟨d, hd, hmin, hmax, hq.symm⟩, hq ▸ h⟩

end Span

end LineMap
