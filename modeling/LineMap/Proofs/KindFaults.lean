import LineMap.Proofs.Offsets
import LineMap.Source.Coercion
import LineMap.Span.Edit
/-!
# Kind faults — values that are no offsets

Only an integer or a position stands for an offset. Every other value is
refused wherever a position is needed, for its kind and before anything else
is looked at: all of these requests start with the same check. The check of a
size does not. It compares the value with the greatest offset first, so a
double above that is refused as too wide, and a value that is no number as one
that has no order with an integer.
-/

namespace LineMap

variable {i : Int} {x : Float} {v : Argument} {fault : Fault}

/-! ## Doubles above an integer -/

/-- **A double is above an integer** if it is infinite without a sign, or
finite with a greater exact value. -/
inductive Binary64.IsAbove (i : Int) : Binary64 → Prop
  /-- Infinity is above all integers. -/
  | infinite : IsAbove i (.infinite false)
  /-- A finite double is a significand times a power of two. -/
  | finite {negative : Bool} {significand : Nat} {exponent : Int}
      (h : (i : Rat) < (if negative then -significand else significand : Int) * 2 ^ exponent) :
      IsAbove i (.finite negative significand exponent)

theorem Binary64.isAbove_finite_iff {negative : Bool} {significand : Nat} {exponent : Int} :
    (Binary64.finite negative significand exponent).IsAbove i ↔
      (i : Rat) < (if negative then -significand else significand : Int) * 2 ^ exponent :=
  ⟨fun | .finite h => h, .finite⟩

namespace Number

/-- An integer is compared with a double by exact value. -/
theorem lt_float_iff : (int i).lt (float x) = true ↔ (Binary64.ofFloat x).IsAbove i := by
  unfold lt le
  simp only [integer?, place?]
  cases Binary64.ofFloat x with
  | nan => exact ⟨nofun, nofun⟩
  | infinite negative =>
    cases negative with
    | false => exact ⟨fun _ => .infinite, fun _ => rfl⟩
    | true => exact ⟨nofun, nofun⟩
  | finite negative significand exponent =>
    simp only [Place.le, Bool.and_eq_true, Bool.not_eq_true', decide_eq_true_eq,
      decide_eq_false_iff_not, ← Dyadic.toRat_le_toRat_iff, Dyadic.toRat_intCast,
      Dyadic.toRat_ofIntWithPrec_eq_mul_two_pow, Int.neg_neg, Binary64.isAbove_finite_iff,
      Rat.not_le]
    -- Below is at most and not at least, and among rationals the latter alone.
    exact ⟨And.right, fun h => ⟨Rat.le_of_lt h, h⟩⟩

end Number

/-! ## Values that are no offsets -/

/-- Only integers and positions stand for offsets. -/
theorem Argument.offset?_eq_none_iff :
    v.offset? = none ↔ v.kind ≠ .int ∧ v.kind ≠ .position := by
  cases v with
  | number n => cases n <;> simp [offset?, kind, Number.kind]
  | _ => simp [offset?, kind]

/-- **A value is refused as a position**, wherever one is needed: as a stored,
a raw or a coerced offset, as either end of a span, new or replaced, as a
column and as an offset in a text. -/
structure RefusedAsPosition (v : Argument) (fault : Fault) : Prop where
  /-- What is wrong is the kind of the value. -/
  category : fault.category = .kind
  /-- No position is made of it. -/
  stored : Position.ofStored v = .error fault
  raw : Position.ofArgument v = .error fault
  coerced : Position.coerce v = .error fault
  /-- It is no end of a span, whatever the other end is. -/
  lowEnd : ∀ other p, Position.coerce other = .ok p → Span.ofArguments v other = .error fault
  highEnd : ∀ other p, Position.coerce other = .ok p → Span.ofArguments other v = .error fault
  /-- It replaces no end of a span. -/
  newLow : ∀ s : Span, s.edit (.replaceLow v) = .error fault
  newHigh : ∀ s : Span, s.edit (.replaceHigh v) = .error fault
  /-- It is no column, whatever the line is. -/
  column : ∀ line, LooseLocation.ofArguments line v = .error fault
  /-- It is no offset in a text. -/
  located : ∀ s : Source, s.locateArgument v = .error fault
  cited : ∀ s : Source, s.citeArgument v = .error fault

namespace Position

theorem ofArgument_eq_error (h : v.offset? = none) :
    ofArgument v = .error (.offsetKind v.kind) := by
  cases v with
  | number n =>
    cases n with
    | int value => cases h
    | bool value => rfl
    | float value => rfl
  | position p => cases h
  | _ => rfl

/-- A value that is no position is coerced like a raw offset. -/
theorem coerce_eq_error (h : v.offset? = none) : coerce v = .error (.offsetKind v.kind) := by
  rw [← ofArgument_eq_error h]
  cases v with
  | position p => cases h
  | _ => rfl

end Position

/-- **All requests that coerce a value refuse it alike**, because nothing comes
before the check of its kind. -/
theorem refusedAsPosition (h : v.offset? = none) :
    RefusedAsPosition v (.offsetKind v.kind) := by
  have hraw := Position.ofArgument_eq_error h
  have hcoerce := Position.coerce_eq_error h
  refine ⟨rfl, hraw, hraw, hcoerce, fun other p _ => ?_, fun other p hp => ?_, fun s => ?_,
    fun s => ?_, fun line => ?_, fun s => ?_, fun s => ?_⟩
  · rw [Span.ofArguments, hcoerce]
    rfl
  · rw [Span.ofArguments, hp, hcoerce]
    rfl
  · rw [Span.edit, hcoerce]
    rfl
  · rw [Span.edit, hcoerce]
    rfl
  · rw [LooseLocation.ofArguments, hcoerce]
    rfl
  · rw [Source.locateArgument, hcoerce]
    rfl
  · rw [Source.citeArgument, hcoerce]
    rfl

/-! ## Sizes -/

/-- A value is too wide for a size, without being an offset, if it is a double
above the greatest offset. -/
def Argument.IsWide (v : Argument) : Prop :=
  ∃ x, v = .number (.float x) ∧ (Binary64.ofFloat x).IsAbove maxOffset

namespace Position

/-- Such a double is refused for its width, before its kind is looked at. -/
theorem ofSizeArgument_float (h : (Binary64.ofFloat x).IsAbove maxOffset) :
    ofSizeArgument (.number (.float x)) = .error (.outOfRange (.float x) "size") := by
  rw [ofSizeArgument, ofSize, if_pos (Number.lt_float_iff.2 h)]

/-- Any other value that is no offset is refused for its kind here, too. -/
theorem exists_ofSizeArgument_eq_error (h : v.offset? = none) (hwide : ¬ v.IsWide) :
    ∃ fault, ofSizeArgument v = .error fault ∧ fault.category = .kind := by
  cases v with
  | number n =>
    cases n with
    | int value => cases h
    | bool value => cases value <;> exact ⟨_, rfl, rfl⟩
    | float value =>
      have hle : ¬ (Number.int maxOffset).lt (.float value) = true :=
        fun hlt => hwide ⟨value, rfl, Number.lt_float_iff.1 hlt⟩
      refine ⟨.offsetKind .float, ?_, rfl⟩
      rw [ofSizeArgument, ofSize, if_neg hle]
      rfl
  | position p => cases h
  | _ => exact ⟨_, rfl, rfl⟩

end Position

/-- **Values of other kinds are refused.** A truth value, a double and a value
that is neither a number nor a position are refused with one fault, for their
kind, by every request that coerces a position. As a size they are refused for
their kind as well, but for a double above the greatest offset: that is
refused as out of range. -/
theorem other_kinds_refused (hint : v.kind ≠ .int) (hposition : v.kind ≠ .position) :
    RefusedAsPosition v (.offsetKind v.kind) ∧
    (∀ x, v = .number (.float x) → (Binary64.ofFloat x).IsAbove maxOffset →
      Position.ofSizeArgument v = .error (.outOfRange (.float x) "size")) ∧
    (¬ v.IsWide →
      ∃ fault, Position.ofSizeArgument v = .error fault ∧ fault.category = .kind) := by
  have hnone := Argument.offset?_eq_none_iff.2 ⟨hint, hposition⟩
  refine ⟨refusedAsPosition hnone, ?_, Position.exists_ofSizeArgument_eq_error hnone⟩
  rintro x rfl habove
  exact Position.ofSizeArgument_float habove

/-- Two doubles that are not finite: the one that is not a number is refused
for its kind everywhere, and infinity is out of range as a size. -/
theorem other_kinds_refused_of_doubles :
    let nan : Argument := .number (.float (0.0 / 0.0))
    let infinity : Argument := .number (.float (1.0 / 0.0))
    nan.kind ≠ .int ∧ nan.kind ≠ .position ∧ ¬ nan.IsWide ∧
      Span.ofArguments (.int 3) nan = .error (.offsetKind .float) ∧
      (∃ fault, Position.ofSizeArgument nan = .error fault ∧ fault.category = .kind) ∧
      Position.coerce infinity = .error (.offsetKind .float) ∧
      Position.ofSizeArgument infinity = .error (.outOfRange (.float (1.0 / 0.0)) "size") := by
  intro nan infinity
  have hnan : ¬ nan.IsWide := by
    rintro ⟨x, hx, habove⟩
    obtain rfl : 0.0 / 0.0 = x := Number.float.inj (Argument.number.inj hx)
    have hparts : Binary64.ofFloat (0.0 / 0.0) = .nan := rfl
    rw [hparts] at habove
    cases habove
  obtain ⟨hrefused, -, hkind⟩ := other_kinds_refused (v := nan) (by decide) (by decide)
  obtain ⟨hrefused', hrange, -⟩ := other_kinds_refused (v := infinity) (by decide) (by decide)
  exact ⟨by decide, by decide, hnan, hrefused.highEnd (.int 3) ⟨3, by decide⟩ rfl, hkind hnan,
    hrefused'.coerced, hrange _ rfl .infinite⟩

/-- **Not every value that is no offset is refused for its kind.** A double
above the greatest offset is out of range as a size. -/
theorem not_kind_fault_of_wide_size :
    ¬ ∀ v : Argument, v.kind ≠ .int → v.kind ≠ .position →
      ∃ fault, Position.ofSizeArgument v = .error fault ∧ fault.category = .kind := by
  intro h
  obtain ⟨fault, hfault, hcategory⟩ := h (.number (.float 1e10)) (by decide) (by decide)
  have hrange : Position.ofSizeArgument (.number (.float 1e10)) =
      .error (.outOfRange (.float 1e10) "size") := rfl
  obtain rfl := Except.error.inj (hrange.symm.trans hfault)
  cases hcategory

end LineMap
