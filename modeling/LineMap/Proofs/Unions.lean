import LineMap.Proofs.ShiftChains
import LineMap.Span.Edit
import Mathlib.Data.List.Induction
import Mathlib.Order.Bounds.Basic
import Mathlib.Order.MinMax
/-!
# Unions — the least span around others

Spans are in an order, a span below every span around it, and the union is
the join of this order. So unions can be taken in any order and grouped in
any way. What comes out is the hull of the spans, from the least of their low
ends to the greatest of their high ends, and which spans there are is all
that it depends on. A shift keeps the order of all ends, so it moves a union
as it moves the spans that are united.
-/

namespace LineMap

/-- Positions are in the linear order of their offsets. -/
instance : LinearOrder Position where
  le_refl p := Nat.le_refl p.offset
  le_trans _ _ _ := Nat.le_trans
  le_antisymm _ _ h h' := Position.ext (Nat.le_antisymm h h')
  le_total p q := Nat.le_total p.offset q.offset
  lt_iff_le_not_ge _ _ := Nat.lt_iff_le_and_not_ge
  toDecidableLE := inferInstance
  toDecidableEq := inferInstance
  toDecidableLT := inferInstance

namespace Span

variable {a b c s t u : Span} {spans others : List Span} {d : Int}

/-! ## The join -/

/-- One span is below another if the other one is around it. -/
instance : LE Span := ⟨fun a c => c.low ≤ a.low ∧ a.high ≤ c.high⟩

/-- The order, spelled out. -/
theorem le_iff : a ≤ c ↔ c.low ≤ a.low ∧ a.high ≤ c.high := Iff.rfl

instance : PartialOrder Span where
  le_refl a := ⟨le_refl a.low, le_refl a.high⟩
  le_trans _ _ _ h h' := ⟨h'.1.trans h.1, h.2.trans h'.2⟩
  le_antisymm _ _ h h' := Span.ext (h'.1.antisymm h.1) (h.2.antisymm h'.2)

/-- The ends of a union are in order already, so they are not swapped. -/
theorem min_low_le_max_high (s t : Span) : min s.low t.low ≤ max s.high t.high :=
  (min_le_left _ _).trans (s.low_le_high.trans (le_max_left _ _))

@[simp] theorem low_union (s t : Span) : (s.union t).low = min s.low t.low := by
  rw [union, between_of_le (min_low_le_max_high s t)]

@[simp] theorem high_union (s t : Span) : (s.union t).high = max s.high t.high := by
  rw [union, between_of_le (min_low_le_max_high s t)]

/-- **The union is the least span around both.** -/
theorem union_le_iff : a.union b ≤ c ↔ a ≤ c ∧ b ≤ c := by
  rw [le_iff, le_iff, le_iff, low_union, high_union, le_min_iff, max_le_iff]
  exact and_and_and_comm

/-- So spans have joins, and the laws of joins hold for unions. -/
instance : SemilatticeSup Span where
  sup := union
  le_sup_left a b := (union_le_iff.1 (le_refl (a.union b))).1
  le_sup_right a b := (union_le_iff.1 (le_refl (a.union b))).2
  sup_le _ _ _ h h' := union_le_iff.2 ⟨h, h'⟩

/-! ## Hulls -/

/-- **The hull of some spans** runs from the least of their low ends to the
greatest of their high ends. -/
structure IsHull (t : Span) (spans : List Span) : Prop where
  /-- The low end is the least one. -/
  low : IsLeast (Span.low '' {a | a ∈ spans}) t.low
  /-- The high end is the greatest one. -/
  high : IsGreatest (Span.high '' {a | a ∈ spans}) t.high

theorem isHull_singleton (a : Span) : IsHull a [a] := by
  have hset : {b | b ∈ [a]} = {a} := by simp
  refine ⟨?_, ?_⟩ <;> rw [hset, Set.image_singleton]
  · exact isLeast_singleton
  · exact isGreatest_singleton

/-- **The hull of more spans** is the union of hulls. -/
theorem IsHull.append (ht : IsHull t spans) (hu : IsHull u others) :
    IsHull (t.union u) (spans ++ others) := by
  have hset : {a | a ∈ spans ++ others} = {a | a ∈ spans} ∪ {a | a ∈ others} := by
    simp only [List.mem_append, Set.ofPred_or]
  refine ⟨?_, ?_⟩ <;> rw [hset, Set.image_union]
  · rw [low_union]
    exact ht.low.union hu.low
  · rw [high_union]
    exact ht.high.union hu.high

/-- Some spans have one hull, in whatever order they come. -/
theorem IsHull.eq_of_perm (ht : IsHull t spans) (hu : IsHull u others)
    (hperm : spans.Perm others) : t = u := by
  have hset : {a | a ∈ spans} = {a | a ∈ others} := Set.ext fun a => hperm.mem_iff
  have hlow := ht.low
  have hhigh := ht.high
  rw [hset] at hlow hhigh
  exact Span.ext (hlow.unique hu.low) (hhigh.unique hu.high)

/-! ## Groupings -/

/-- **A way to unite spans two at a time.** -/
inductive Grouping
  /-- A span as it is. -/
  | one (s : Span)
  /-- What two ways give, united. -/
  | both (left right : Grouping)

namespace Grouping

/-- The spans that are united, from left to right. -/
def parts : Grouping → List Span
  | one s => [s]
  | both left right => left.parts ++ right.parts

/-- What they are united to. -/
def total : Grouping → Span
  | one s => s
  | both left right => left.total.union right.total

/-- **Every way gives the hull.** -/
theorem isHull_total (g : Grouping) : IsHull g.total g.parts := by
  induction g with
  | one s => exact isHull_singleton s
  | both left right ihl ihr => exact ihl.append ihr

end Grouping

/-- So does uniting one span after the other with what there is so far. -/
theorem isHull_foldl (s : Span) (spans : List Span) :
    IsHull (spans.foldl union s) (s :: spans) := by
  -- from the end of the list, where the fold takes its last span
  induction spans using List.reverseRecOn with
  | nil => exact isHull_singleton s
  | append_singleton spans a ih =>
    rw [List.foldl_append, ← List.cons_append]
    exact ih.append (isHull_singleton a)

/-- **The union is a join.** A span is around a union exactly if it is around
both spans; unions are associative, commutative and idempotent. And the spans
of a list that is not empty can be united in any order and grouped in any way:
what comes out is the one span from the least low end to the greatest high
end. -/
theorem union_isJoin :
    (∀ a b c : Span, a.union b ≤ c ↔ a ≤ c ∧ b ≤ c) ∧
    (∀ a b c : Span, (a.union b).union c = a.union (b.union c)) ∧
    (∀ a b : Span, a.union b = b.union a) ∧
    (∀ a : Span, a.union a = a) ∧
    ∀ (s : Span) (spans : List Span),
      IsLeast (Span.low '' {a | a ∈ s :: spans}) (spans.foldl union s).low ∧
      IsGreatest (Span.high '' {a | a ∈ s :: spans}) (spans.foldl union s).high ∧
      ∀ g : Grouping, g.parts.Perm (s :: spans) → g.total = spans.foldl union s := by
  refine ⟨fun a b c => union_le_iff, fun a b c => sup_assoc a b c, fun a b => sup_comm a b,
    fun a => sup_idem a, fun s spans => ?_⟩
  have hhull := isHull_foldl s spans
  refine ⟨hhull.low, hhull.high, fun g hperm => ?_⟩
  exact g.isHull_total.eq_of_perm hhull hperm

/-- Three spans apart from each other, in another order and grouped from the
right. -/
theorem union_isJoin_of_apart :
    let a : Span := between ⟨3, by decide⟩ ⟨5, by decide⟩
    let b : Span := between ⟨1, by decide⟩ ⟨2, by decide⟩
    let c : Span := between ⟨9, by decide⟩ ⟨9, by decide⟩
    let g : Grouping := .both (.one c) (.both (.one a) (.one b))
    g.parts.Perm [a, b, c] ∧ g.total = [b, c].foldl union a ∧ g.total.low = ⟨1, by decide⟩ ∧
      g.total.high = ⟨9, by decide⟩ := by
  intro a b c g
  obtain ⟨-, -, -, -, hlist⟩ := union_isJoin
  obtain ⟨-, -, hgroup⟩ := hlist a [b, c]
  have hperm : ([c] ++ [a, b]).Perm ([a, b] ++ [c]) := List.perm_append_comm
  exact ⟨hperm, hgroup g hperm, rfl, rfl⟩

/-! ## Shifts of unions -/

/-- A union can be moved exactly if both spans can: its low end is the one
that may fall below zero, and its high end the one that may rise too high. -/
theorem exists_shift_union_iff :
    (∃ t, (a.union b).shift (.int d) = .ok t) ↔
      (∃ t, a.shift (.int d) = .ok t) ∧ ∃ u, b.shift (.int d) = .ok u := by
  rw [exists_shift_int_iff, exists_shift_int_iff, exists_shift_int_iff, low_union, high_union,
    Position.offset_min, Position.offset_max]
  constructor
  · rintro ⟨hd, hlow, hhigh⟩
    exact ⟨⟨hd, by omega, by omega⟩, hd, by omega, by omega⟩
  · rintro ⟨⟨hd, hlow, hhigh⟩, -, hlow', hhigh'⟩
    exact ⟨hd, by omega, by omega⟩

/-- It is then the union of the moved spans. -/
theorem shift_union (ht : a.shift (.int d) = .ok t) (hu : b.shift (.int d) = .ok u) :
    (a.union b).shift (.int d) = .ok (t.union u) := by
  obtain ⟨hd, hlow, hhigh⟩ := shift_int_eq_ok_iff.1 ht
  obtain ⟨-, hlow', hhigh'⟩ := shift_int_eq_ok_iff.1 hu
  rw [shift_int_eq_ok_iff, low_union, low_union, high_union, high_union]
  simp only [Position.offset_min, Position.offset_max]
  exact ⟨hd, by omega, by omega⟩

/-- **Shifts distribute over unions.** A union can be moved exactly if both
spans can, and is then the union of the two moved spans, also where the union
is asked for as a join. -/
theorem shift_union_distrib (a b : Span) (d : Int) :
    ((∃ t, (a.union b).shift (.int d) = .ok t) ↔
      (∃ t, a.shift (.int d) = .ok t) ∧ ∃ u, b.shift (.int d) = .ok u) ∧
    ∀ t u, a.shift (.int d) = .ok t → b.shift (.int d) = .ok u →
      (a.union b).shift (.int d) = .ok (t.union u) ∧
      (do (← a.edit (.join (.span b))).shift (.int d)) = t.edit (.join (.span u)) := by
  refine ⟨exists_shift_union_iff, fun t u ht hu => ?_⟩
  have hunion := shift_union ht hu
  exact ⟨hunion, hunion⟩

/-- Two spans at the two ends of the range, one of them empty. Up by one only
the lower one can be moved, down by two both can. -/
theorem shift_union_distrib_across_range :
    let a : Span := between ⟨2, by decide⟩ ⟨4, by decide⟩
    let b : Span := between ⟨4294967295, by decide⟩ ⟨4294967295, by decide⟩
    let t : Span := between ⟨0, by decide⟩ ⟨2, by decide⟩
    let u : Span := between ⟨4294967293, by decide⟩ ⟨4294967293, by decide⟩
    a.shift (.int (-2)) = .ok t ∧ b.shift (.int (-2)) = .ok u ∧
      (a.union b).shift (.int (-2)) = .ok (t.union u) ∧
      (∃ v, a.shift (.int 1) = .ok v) ∧ ¬ ∃ v, (a.union b).shift (.int 1) = .ok v := by
  intro a b t u
  have hdown : FitsShift (-2) := ⟨by decide, by decide⟩
  have ht : a.shift (.int (-2)) = .ok t := shift_int_eq_ok_iff.2 ⟨hdown, by decide, by decide⟩
  have hu : b.shift (.int (-2)) = .ok u := shift_int_eq_ok_iff.2 ⟨hdown, by decide, by decide⟩
  obtain ⟨-, hdistrib⟩ := shift_union_distrib a b (-2)
  obtain ⟨hgoes, -⟩ := shift_union_distrib a b 1
  refine ⟨ht, hu, (hdistrib t u ht hu).1, ?_, fun hup => ?_⟩
  · exact exists_shift_int_iff.2 ⟨⟨by decide, by decide⟩, by decide, by decide⟩
  · obtain ⟨-, hb⟩ := hgoes.1 hup
    obtain ⟨-, -, hfit⟩ := exists_shift_int_iff.1 hb
    exact absurd hfit (by decide)

end Span

end LineMap
