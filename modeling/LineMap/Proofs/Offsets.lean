import LineMap.Argument.Coercion
import LineMap.Proofs.Outcomes
/-!
# Offsets — what the checked constructors take

Each checked constructor of a position takes the integers from zero up to
the greatest offset, makes the position at that offset of them, and refuses
everything else. A shift takes a truth value for the integer that it stands
for; a double is never taken, because the sum with it is a double again.
So what a constructor makes is known from the integers alone.
-/

namespace LineMap

namespace Number

variable {a b : Number} {i j : Int}

/-- Numbers that stand for integers compare as those. -/
theorem le_of_integer? (ha : a.integer? = some i) (hb : b.integer? = some j) :
    a.le b = decide (i ≤ j) := by
  simp only [le, ha, hb]

/-- So they are the same in value only as integers. -/
theorem same_of_integer? (ha : a.integer? = some i) (hb : b.integer? = some j) :
    a.same b = decide (i = j) := by
  rw [same, le_of_integer? ha hb, le_of_integer? hb ha, Bool.eq_iff_iff]
  simp only [Bool.and_eq_true, decide_eq_true_eq]
  omega

/-- Such numbers add as the integers, too. -/
theorem add_of_integer? (ha : a.integer? = some i) (hb : b.integer? = some j) :
    a + b = int (i + j) := by
  change add a b = _
  simp only [add, ha, hb]

/-- The sum with a double is a double. -/
theorem exists_add_eq_float (a : Number) (hb : b.integer? = none) : ∃ x, a + b = float x := by
  change ∃ x, add a b = float x
  cases ha : a.integer? <;> simp [add, ha, hb]

end Number

/-- The integer that an argument stands for as an offset. A truth value, a
double and a value that is no number stand for none. -/
def Argument.offset? : Argument → Option Int
  | .number (.int value) => some value
  | .position value => some value.offset
  | _ => none

@[simp] theorem Argument.offset?_int (i : Int) : (Argument.int i).offset? = some i := rfl

namespace Position

variable {p q : Position} {i : Int} {n : Number} {a : Argument} {endpoint : String} {fault : Fault}

/-- The position of a checked integer is at that offset. -/
theorem ofInt_eq_ok_iff : ofInt i = .ok p ↔ i = p.offset := by
  constructor
  · intro h
    rw [ofInt] at h
    split at h
    next hi =>
      cases h
      exact (Int.toNat_of_nonneg hi.1).symm
    next => cases h
  · rintro rfl
    have hp := p.offset_le
    rw [ofInt, dif_pos ⟨by omega, by omega⟩]
    exact congrArg _ (Position.ext (Int.toNat_natCast _))

/-- An integer that is refused is below zero or above the greatest offset. -/
theorem ofInt_eq_error_iff :
    ofInt i = .error fault ↔
      (i < 0 ∨ maxOffset < i) ∧ fault = .outOfRange (.int i) "offset" := by
  rw [ofInt]
  split
  next hi =>
    simp only [reduceCtorEq, false_iff, not_and]
    omega
  next hi =>
    rw [Except.error.injEq]
    exact ⟨fun h => ⟨by omega, h.symm⟩, fun h => h.2.symm⟩

/-- Of the numbers only integers are offsets. -/
theorem ofNumber_eq_ok_iff : ofNumber n = .ok p ↔ n = .int p.offset := by
  cases n with
  | int value => rw [ofNumber, ofInt_eq_ok_iff, Number.int.injEq]
  | bool value => simp [ofNumber]
  | float value => simp [ofNumber]

/-- The check of a size takes the same integers. -/
theorem ofSize_int_eq_ok_iff : ofSize (.int i) = .ok p ↔ i = p.offset := by
  have hp := p.offset_le
  rw [ofSize, Number.lt_int]
  split
  next h =>
    simp only [decide_eq_true_eq] at h
    simp only [reduceCtorEq, false_iff]
    omega
  next => exact ofInt_eq_ok_iff

/-- An integer that fits is the offset of a position. -/
theorem exists_ofSize_int (h : 0 ≤ i ∧ i ≤ maxOffset) : ∃ p, ofSize (.int i) = .ok p :=
  ⟨⟨i.toNat, by omega⟩, ofSize_int_eq_ok_iff.2 (Int.toNat_of_nonneg h.1).symm⟩

/-- Any other integer is refused, as a size if it is too wide. -/
theorem ofSize_int_eq_error (h : i < 0 ∨ maxOffset < i) :
    ofSize (.int i) =
      .error (.outOfRange (.int i) (if maxOffset < i then "size" else "offset")) := by
  rw [ofSize, Number.lt_int]
  by_cases hwide : maxOffset < i
  · rw [if_pos (decide_eq_true hwide), if_pos hwide]
  · rw [if_neg (by rw [decide_eq_true_eq]; exact hwide), if_neg hwide, ofNumber, ofInt,
      dif_neg (by omega)]

theorem ofSize_int_eq_error_iff :
    ofSize (.int i) = .error fault ↔
      (i < 0 ∨ maxOffset < i) ∧
        fault = .outOfRange (.int i) (if maxOffset < i then "size" else "offset") := by
  by_cases h : i < 0 ∨ maxOffset < i
  · rw [ofSize_int_eq_error h, Except.error.injEq]
    exact ⟨fun hf => ⟨h, hf.symm⟩, fun hf => hf.2.symm⟩
  · obtain ⟨p, hp⟩ := exists_ofSize_int (by omega : 0 ≤ i ∧ i ≤ maxOffset)
    simp only [hp, reduceCtorEq, h, false_and]

/-- **Offsets give positions** exactly if all of them fit. -/
theorem exists_mapM_ofSize_iff {offsets : List Int} :
    (∃ positions, offsets.mapM (fun o => ofSize (.int o)) = .ok positions) ↔
      ∀ o ∈ offsets, 0 ≤ o ∧ o ≤ maxOffset := by
  constructor
  · rintro ⟨positions, h⟩ o ho
    rw [mapM_eq_ok_iff fun _ _ => ofSize_int_eq_ok_iff] at h
    rw [h] at ho
    obtain ⟨p, -, rfl⟩ := List.mem_map.1 ho
    have hp := p.offset_le
    omega
  · intro h
    cases hmap : offsets.mapM (fun o => ofSize (.int o)) with
    | ok positions => exact ⟨positions, rfl⟩
    | error fault =>
      obtain ⟨o, ho, hrefused⟩ := exists_of_mapM_eq_error hmap
      obtain ⟨p, hp⟩ := exists_ofSize_int (h o ho)
      rw [hp] at hrefused
      cases hrefused

/-- **A position is made of what stands for its offset**, and of nothing
else. -/
theorem coerce_eq_ok_iff : coerce a = .ok p ↔ a.offset? = some (p.offset : Int) := by
  cases a with
  | position value =>
    simp only [coerce, Argument.offset?, Except.ok.injEq, Option.some.injEq, Position.ext_iff]
    omega
  | number value =>
    have h := ofNumber_eq_ok_iff (n := value) (p := p)
    cases value <;> simp_all [coerce, ofArgument, Argument.offset?]
  | _ => simp [coerce, ofArgument, Argument.offset?]

/-- **A shift adds an integer of thirty-two bits**, and goes through exactly
if the sum is an offset. -/
theorem shift_eq_ok_iff :
    p.shift n endpoint = .ok q ↔
      ∃ d, n.integer? = some d ∧ minShift ≤ d ∧ d ≤ maxShift ∧ (q.offset : Int) = p.offset + d := by
  have hq := q.offset_le
  cases hd : n.integer? with
  | none =>
    obtain ⟨x, hx⟩ := Number.exists_add_eq_float (.int p.offset) hd
    simp only [shift, hx, ofNumber]
    split
    · split
      · simp
      · split <;> simp
    · simp
  | some d =>
    have hmin : (Number.int minShift).le n = decide (minShift ≤ d) :=
      Number.le_of_integer? rfl hd
    have hmax : n.le (.int maxShift) = decide (d ≤ maxShift) := Number.le_of_integer? hd rfl
    have hsum : Number.int p.offset + n = .int (p.offset + d) := Number.add_of_integer? rfl hd
    simp only [shift, hmin, hmax, hsum, Number.lt_int, Bool.and_eq_true, decide_eq_true_eq,
      Option.some.injEq, exists_eq_left']
    split
    next hfit =>
      split
      · simp only [reduceCtorEq, false_iff]
        omega
      · split
        · simp only [reduceCtorEq, false_iff]
          omega
        · rw [ofNumber, ofInt_eq_ok_iff]
          omega
    next hfit =>
      simp only [reduceCtorEq, false_iff]
      omega

end Position

end LineMap
