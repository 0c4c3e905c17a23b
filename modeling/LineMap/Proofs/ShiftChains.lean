import LineMap.Proofs.ShiftFaults
import LineMap.Proofs.SpanViews
import Mathlib.Algebra.Ring.Int.Defs
/-!
# Shift chains — shifts one after another

A shift that goes through adds its amount to both ends. So a chain of shifts
adds the sum of its amounts, whatever ends the span has on the way: two
chains of one sum that both go through end at one span, and a single shift by
the sum does what the chain does, as long as the sum fits.
-/

namespace LineMap

/-- The opposite of an amount that fits does so too, unless the amount is the
least. -/
theorem FitsShift.neg {d : Int} (h : FitsShift d) (hd : d ≠ minShift) : FitsShift (-d) := by
  unfold FitsShift minShift maxShift at *
  omega

namespace Span

variable {s t u : Span} {d e : Int} {amounts others : List Int}

/-! ## One shift -/

/-- **A shift adds its amount to both ends.** -/
theorem shift_int_eq_ok_iff :
    s.shift (.int d) = .ok t ↔
      FitsShift d ∧ (t.low.offset : Int) = s.low.offset + d ∧
        (t.high.offset : Int) = s.high.offset + d := by
  constructor
  · intro h
    obtain ⟨hd, -⟩ := exists_shift_int_iff.1 ⟨t, h⟩
    exact ⟨hd, ends_of_shift_int h⟩
  · rintro ⟨hd, hlow, hhigh⟩
    have hle : s.low.offset ≤ s.high.offset := s.low_le_high
    refine shift_eq_ok_iff.2 ⟨d, rfl, hd.1, hd.2, ?_⟩
    unfold LiesBetween
    omega

theorem width_of_shift (h : s.shift (.int d) = .ok t) : t.width = s.width := by
  obtain ⟨-, hlow, hhigh⟩ := shift_int_eq_ok_iff.1 h
  unfold width
  omega

theorem isEmpty_of_shift (h : s.shift (.int d) = .ok t) : t.isEmpty = s.isEmpty := by
  obtain ⟨-, hlow, hhigh⟩ := shift_int_eq_ok_iff.1 h
  rw [Bool.eq_iff_iff, isEmpty_iff, isEmpty_iff, Position.ext_iff, Position.ext_iff]
  omega

/-- What a span holds moves with it. -/
theorem contains_of_shift (h : s.shift (.int d) = .ok t) (x : Int) :
    t.contains (.int (x + d)) = s.contains (.int x) := by
  obtain ⟨-, hlow, hhigh⟩ := shift_int_eq_ok_iff.1 h
  rw [Bool.eq_iff_iff, contains_int_iff, contains_int_iff]
  omega

/-! ## Chains -/

/-- **A chain of shifts**, each of them of the span that the one before it
gave. -/
def shiftAll (s : Span) (amounts : List Int) : Except Fault Span :=
  amounts.foldlM (fun t d => t.shift (.int d)) s

theorem shiftAll_cons_eq_ok_iff :
    s.shiftAll (d :: amounts) = .ok t ↔
      ∃ u, s.shift (.int d) = .ok u ∧ u.shiftAll amounts = .ok t := by
  rw [shiftAll, List.foldlM_cons, bind_eq_ok_iff]
  exact Iff.rfl

/-- **A chain that goes through adds the sum of its amounts to both ends.** -/
theorem ends_of_shiftAll (h : s.shiftAll amounts = .ok t) :
    (t.low.offset : Int) = s.low.offset + amounts.sum ∧
      (t.high.offset : Int) = s.high.offset + amounts.sum := by
  -- over the amounts, from every start: the rest of a chain starts elsewhere
  induction amounts generalizing s with
  | nil =>
    obtain rfl : s = t := Except.ok.inj h
    simp
  | cons d rest ih =>
    obtain ⟨u, hu, hrest⟩ := shiftAll_cons_eq_ok_iff.1 h
    obtain ⟨-, hlow, hhigh⟩ := shift_int_eq_ok_iff.1 hu
    obtain ⟨hlow', hhigh'⟩ := ih hrest
    rw [List.sum_cons]
    omega

/-- So where a chain ends depends on the sum alone. -/
theorem eq_of_shiftAll (ht : s.shiftAll amounts = .ok t) (hu : s.shiftAll others = .ok u)
    (hsum : amounts.sum = others.sum) : t = u := by
  obtain ⟨hlow, hhigh⟩ := ends_of_shiftAll ht
  obtain ⟨hlow', hhigh'⟩ := ends_of_shiftAll hu
  exact Span.ext (Position.ext (by omega)) (Position.ext (by omega))

/-- **A chain can be cut short**: where it goes through, so does one shift by
the sum, if that fits. -/
theorem shift_sum_of_shiftAll (h : s.shiftAll amounts = .ok t) (hfit : FitsShift amounts.sum) :
    s.shift (.int amounts.sum) = .ok t :=
  shift_int_eq_ok_iff.2 ⟨hfit, ends_of_shiftAll h⟩

/-- Two shifts are a chain of two. -/
theorem shiftAll_pair (ht : s.shift (.int d) = .ok t) (hu : t.shift (.int e) = .ok u) :
    s.shiftAll [d, e] = .ok u :=
  shiftAll_cons_eq_ok_iff.2 ⟨t, ht, shiftAll_cons_eq_ok_iff.2 ⟨u, hu, rfl⟩⟩

/-- A shift is undone by the opposite amount, which fits for every amount but
the least. -/
theorem shift_neg_of_shift (h : s.shift (.int d) = .ok t) (hd : d ≠ minShift) :
    t.shift (.int (-d)) = .ok s := by
  obtain ⟨hfit, hlow, hhigh⟩ := shift_int_eq_ok_iff.1 h
  exact shift_int_eq_ok_iff.2 ⟨hfit.neg hd, by omega, by omega⟩

/-- **Shifts act on spans like integers that are added**, as far as they go
through. No shift is the shift by zero. Two shifts in a row are one shift by
the sum, if that fits, and in either order they end at one span. The opposite
amount undoes a shift, unless the amount is the least. And a moved span is as
wide as before and holds what it held, moved. -/
theorem shift_int_action (s : Span) :
    s.shift (.int 0) = .ok s ∧
    (∀ d e t u, s.shift (.int d) = .ok t → t.shift (.int e) = .ok u → FitsShift (d + e) →
      s.shift (.int (d + e)) = .ok u) ∧
    (∀ d e t u t' u', s.shift (.int d) = .ok t → t.shift (.int e) = .ok u →
      s.shift (.int e) = .ok t' → t'.shift (.int d) = .ok u' → u = u') ∧
    (∀ d t, s.shift (.int d) = .ok t → d ≠ minShift → t.shift (.int (-d)) = .ok s) ∧
    (∀ d t, s.shift (.int d) = .ok t →
      t.width = s.width ∧ t.isEmpty = s.isEmpty ∧
        ∀ x : Int, s.contains (.int x) = true ↔ t.contains (.int (x + d)) = true) := by
  have hpair (d e : Int) : [d, e].sum = d + e := by simp
  refine ⟨?_, ?_, ?_, ?_, ?_⟩
  · exact shift_int_eq_ok_iff.2 ⟨⟨by decide, by decide⟩, by omega, by omega⟩
  · intro d e t u ht hu hfit
    rw [← hpair] at hfit ⊢
    exact shift_sum_of_shiftAll (shiftAll_pair ht hu) hfit
  · intro d e t u t' u' ht hu ht' hu'
    refine eq_of_shiftAll (shiftAll_pair ht hu) (shiftAll_pair ht' hu') ?_
    rw [hpair, hpair, Int.add_comm]
  · intro d t ht hd
    exact shift_neg_of_shift ht hd
  · intro d t ht
    refine ⟨width_of_shift ht, isEmpty_of_shift ht, fun x => ?_⟩
    rw [contains_of_shift ht]

/-- The greatest amount up and then one step down, or first the step down: both
ways end at the span that one shift by the sum gives. -/
theorem shift_int_action_of_greatest :
    let s : Span := between ⟨1, by decide⟩ ⟨3, by decide⟩
    let t : Span := between ⟨2147483648, by decide⟩ ⟨2147483650, by decide⟩
    let v : Span := between ⟨0, by decide⟩ ⟨2, by decide⟩
    ∃ u w, s.shift (.int 2147483647) = .ok t ∧ t.shift (.int (-1)) = .ok u ∧
      s.shift (.int (-1)) = .ok v ∧ v.shift (.int 2147483647) = .ok w ∧
      s.shift (.int 2147483646) = .ok u ∧ u = w ∧ t.shift (.int (-2147483647)) = .ok s ∧
      t.width = 2 ∧ (s.contains (.int 2) = true ↔ t.contains (.int 2147483649) = true) := by
  intro s t v
  obtain ⟨-, hchain, hswap, hback, hmoved⟩ := shift_int_action s
  have hmax : FitsShift 2147483647 := ⟨by decide, by decide⟩
  have hone : FitsShift (-1) := ⟨by decide, by decide⟩
  have ht : s.shift (.int 2147483647) = .ok t :=
    shift_int_eq_ok_iff.2 ⟨hmax, by decide, by decide⟩
  have hv : s.shift (.int (-1)) = .ok v := shift_int_eq_ok_iff.2 ⟨hone, by decide, by decide⟩
  obtain ⟨u, hu⟩ : ∃ u, t.shift (.int (-1)) = .ok u :=
    exists_shift_int_iff.2 ⟨hone, by decide, by decide⟩
  obtain ⟨w, hw⟩ : ∃ w, v.shift (.int 2147483647) = .ok w :=
    exists_shift_int_iff.2 ⟨hmax, by decide, by decide⟩
  obtain ⟨hwidth, -, hholds⟩ := hmoved 2147483647 t ht
  refine ⟨u, w, ht, hu, hv, hw, ?_, ?_, ?_, hwidth, hholds 2⟩
  · have hsum : (2147483647 : Int) + -1 = 2147483646 := by decide
    rw [← hsum]
    exact hchain 2147483647 (-1) t u ht hu ⟨by decide, by decide⟩
  · exact hswap 2147483647 (-1) t u v w ht hu hv hw
  · exact hback 2147483647 t ht (by decide)

end Span

end LineMap
