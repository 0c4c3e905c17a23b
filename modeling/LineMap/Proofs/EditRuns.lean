import LineMap.Proofs.MadeSpans
import LineMap.Span.Edit
/-!
# Runs of edits — what becomes of the current span

Whatever an edit is handed, it asks for two integers as the ends of the
next span (`Edit.Asks`), or for nothing that could be an end. It goes
through exactly if it asks for two offsets, and the next span lies between
them (`edit_eq_ok_iff`); otherwise the current span stays as it was. A run
is made of such steps, so all its spans have ordered ends that are offsets,
and the refused edits of a run can be left out.
-/

namespace LineMap

namespace Span

variable {s t : Span} {e : Edit} {edits : List Edit}

/-! ## What an edit asks for -/

/-- **The integers that an edit asks for as ends**, in the order in which it
names them, and whether or not they are offsets. An amount has to be an
integer of thirty-two bits, or a truth value. -/
inductive Edit.Asks (s : Span) : Edit → Int → Int → Prop
  /-- Two ends are asked for as they are. -/
  | make {low high : Argument} {i j : Int} (hl : low.offset? = some i)
      (hh : high.offset? = some j) : Asks s (.make low high) i j
  /-- Bounds ask for what they give. -/
  | makeFrom {bounds : Bounds} {i j : Int} (h : bounds.Gives i j) :
      Asks s (.makeFrom bounds) i j
  /-- The high end stays. -/
  | replaceLow {low : Argument} {i : Int} (hl : low.offset? = some i) :
      Asks s (.replaceLow low) i s.high.offset
  /-- The low end stays. -/
  | replaceHigh {high : Argument} {j : Int} (hh : high.offset? = some j) :
      Asks s (.replaceHigh high) s.low.offset j
  /-- Both ends move. -/
  | shift {amount : Number} {d : Int} (hd : amount.integer? = some d) (hmin : minShift ≤ d)
      (hmax : d ≤ maxShift) : Asks s (.shift (.number amount)) (s.low.offset + d) (s.high.offset + d)
  /-- The low end moves. -/
  | shiftLow {amount : Number} {d : Int} (hd : amount.integer? = some d) (hmin : minShift ≤ d)
      (hmax : d ≤ maxShift) : Asks s (.shiftLow (.number amount)) (s.low.offset + d) s.high.offset
  /-- The high end moves. -/
  | shiftHigh {amount : Number} {d : Int} (hd : amount.integer? = some d) (hmin : minShift ≤ d)
      (hmax : d ≤ maxShift) : Asks s (.shiftHigh (.number amount)) s.low.offset (s.high.offset + d)
  /-- The ends are the outermost ones of two spans. -/
  | union (t : Span) :
      Asks s (.union (.span t)) (min s.low.offset t.low.offset) (max s.high.offset t.high.offset)
  /-- Asked of the current span, a union is the same. -/
  | join (t : Span) :
      Asks s (.join (.span t)) (min s.low.offset t.low.offset) (max s.high.offset t.high.offset)
  /-- And so it is, asked of the other span. -/
  | joinTo (t : Span) :
      Asks s (.joinTo (.span t)) (min t.low.offset s.low.offset) (max t.high.offset s.high.offset)

/-- A span that an edit makes lies between what the edit asks for. -/
theorem asks_of_edit (h : s.edit e = .ok t) : ∃ i j, e.Asks s i j ∧ t.LiesBetween i j := by
  cases e with
  | make low high =>
    obtain ⟨i, j, hi, hj, ht⟩ := ofArguments_eq_ok_iff.1 h
    exact ⟨i, j, .make hi hj, ht⟩
  | makeFrom bounds =>
    obtain ⟨i, j, hgives, ht⟩ := gives_of_ofBounds h
    exact ⟨i, j, .makeFrom hgives, ht⟩
  | replaceLow low =>
    obtain ⟨p, hp, ht⟩ := map_eq_ok_iff.1 h
    exact ⟨_, _, .replaceLow (Position.coerce_eq_ok_iff.1 hp), replaceLow_eq_iff.1 ht⟩
  | replaceHigh high =>
    obtain ⟨q, hq, ht⟩ := map_eq_ok_iff.1 h
    exact ⟨_, _, .replaceHigh (Position.coerce_eq_ok_iff.1 hq), replaceHigh_eq_iff.1 ht⟩
  | shift amount =>
    cases amount with
    | number n =>
      obtain ⟨d, hd, hmin, hmax, ht⟩ := shift_eq_ok_iff.1 h
      exact ⟨_, _, .shift hd hmin hmax, ht⟩
    | _ => cases h
  | shiftLow amount =>
    cases amount with
    | number n =>
      obtain ⟨d, hd, hmin, hmax, ht⟩ := shiftLow_eq_ok_iff.1 h
      exact ⟨_, _, .shiftLow hd hmin hmax, ht⟩
    | _ => cases h
  | shiftHigh amount =>
    cases amount with
    | number n =>
      obtain ⟨d, hd, hmin, hmax, ht⟩ := shiftHigh_eq_ok_iff.1 h
      exact ⟨_, _, .shiftHigh hd hmin hmax, ht⟩
    | _ => cases h
  | union other =>
    cases other with
    | span u => exact ⟨_, _, .union u, union_eq_iff.1 (Except.ok.inj h)⟩
    | _ => cases h
  | join other =>
    cases other with
    | span u => exact ⟨_, _, .join u, union_eq_iff.1 (Except.ok.inj h)⟩
    | _ => cases h
  | joinTo other =>
    cases other with
    | span u => exact ⟨_, _, .joinTo u, union_eq_iff.1 (Except.ok.inj h)⟩
    | _ => cases h

/-- An edit that asks for what a span lies between makes that span. -/
theorem edit_of_asks {i j : Int} (hasks : e.Asks s i j) (h : t.LiesBetween i j) :
    s.edit e = .ok t := by
  cases hasks with
  | make hl hh => exact ofArguments_eq_ok_iff.2 ⟨i, j, hl, hh, h⟩
  | makeFrom hgives => exact ofBounds_of_gives hgives h
  | replaceLow hl =>
    obtain ⟨p, q, rfl, -, -⟩ := h.exists_positions
    exact map_eq_ok_iff.2 ⟨p, Position.coerce_eq_ok_iff.2 hl, replaceLow_eq_iff.2 h⟩
  | replaceHigh hh =>
    obtain ⟨p, q, -, rfl, -⟩ := h.exists_positions
    exact map_eq_ok_iff.2 ⟨q, Position.coerce_eq_ok_iff.2 hh, replaceHigh_eq_iff.2 h⟩
  | shift hd hmin hmax => exact shift_eq_ok_iff.2 ⟨_, hd, hmin, hmax, h⟩
  | shiftLow hd hmin hmax => exact shiftLow_eq_ok_iff.2 ⟨_, hd, hmin, hmax, h⟩
  | shiftHigh hd hmin hmax => exact shiftHigh_eq_ok_iff.2 ⟨_, hd, hmin, hmax, h⟩
  | union u => exact congrArg _ (union_eq_iff.2 h)
  | join u => exact congrArg _ (union_eq_iff.2 h)
  | joinTo u => exact congrArg _ (union_eq_iff.2 h)

/-- **What an edit makes.** It goes through exactly if the next span lies
between what the edit asks for. -/
theorem edit_eq_ok_iff : s.edit e = .ok t ↔ ∃ i j, e.Asks s i j ∧ t.LiesBetween i j := by
  constructor
  · intro h
    exact asks_of_edit h
  · rintro ⟨i, j, hasks, h⟩
    exact edit_of_asks hasks h

/-! ## Steps -/

/-- **What one edit does to the current span.** -/
inductive Step (s : Span) (e : Edit) : Span → Prop
  /-- It asks for two offsets, and the next span lies between them. -/
  | made {t : Span} {i j : Int} (h : s.edit e = .ok t) (hasks : e.Asks s i j)
      (hfit : AreOffsets i j) (hends : t.LiesBetween i j) : Step s e t
  /-- It asks for nothing that could be the ends of a span, and is refused;
  the current span stays as it is. -/
  | kept {fault : Fault} (h : s.edit e = .error fault)
      (hasks : ∀ i j, e.Asks s i j → ¬ AreOffsets i j) : Step s e s

/-- Every edit is such a step. -/
theorem step_after (s : Span) (e : Edit) : Step s e (s.after e) := by
  unfold after
  cases h : s.edit e with
  | ok t =>
    obtain ⟨i, j, hasks, hends⟩ := edit_eq_ok_iff.1 h
    exact .made h hasks hends.areOffsets hends
  | error fault =>
    refine .kept h fun i j hasks hfit => ?_
    obtain ⟨t, ht⟩ := hfit.exists_liesBetween
    rw [edit_eq_ok_iff.2 ⟨i, j, hasks, ht⟩] at h
    cases h

/-! ## Runs -/

/-- The edits of a run that go through, each asked of the span that the run
has then. -/
def accepted (s : Span) : List Edit → List Edit
  | [] => []
  | e :: rest =>
    match s.edit e with
    | .ok t => e :: t.accepted rest
    | .error _ => s.accepted rest

theorem accepted_sublist (s : Span) (edits : List Edit) : (s.accepted edits).Sublist edits := by
  induction edits generalizing s with
  | nil => exact List.Sublist.refl _
  | cons e rest ih =>
    rw [accepted]
    split
    next t ht => exact (ih t).cons_cons e
    next fault hf => exact (ih s).cons e

/-- **Only the edits that go through count.** Run without the others, none of
them is refused, and they end at the same span. -/
theorem foldlM_accepted (s : Span) (edits : List Edit) :
    (s.accepted edits).foldlM edit s = .ok (s.afterAll edits) := by
  induction edits generalizing s with
  | nil => rfl
  | cons e rest ih =>
    have hrest : s.afterAll (e :: rest) = (s.after e).afterAll rest := rfl
    rw [accepted, hrest, after]
    cases h : s.edit e with
    | ok t =>
      show (e :: t.accepted rest).foldlM edit s = .ok (t.afterAll rest)
      rw [List.foldlM_cons, h, ok_bind, ih]
    | error fault => exact ih s

/-- A run of one edit more goes one step further. -/
theorem afterAll_take_succ (s : Span) {k : Nat} (hk : k < edits.length) :
    s.afterAll (edits.take (k + 1)) = (s.afterAll (edits.take k)).after edits[k] := by
  rw [afterAll, afterAll, List.take_succ_eq_append_getElem hk, List.foldl_append]
  rfl

/-- The ends of a span are integers from zero up to the greatest offset, and
handed over as such, in this order, they make the span. -/
def HasOffsetEnds (t : Span) : Prop :=
  (0 : Int) ≤ t.low.offset ∧ t.low.offset ≤ t.high.offset ∧ t.high.offset ≤ maxOffset ∧
    ofArguments (.int t.low.offset) (.int t.high.offset) = .ok t

theorem hasOffsetEnds (t : Span) : t.HasOffsetEnds := by
  refine ⟨Int.natCast_nonneg _, t.low_le_high, t.high.offset_le, ?_⟩
  exact ofArguments_eq_ok_iff.2 ⟨_, _, rfl, rfl, between_eq_iff.1 t.between_ends⟩

/-- **A run of edits**, whatever they are handed. After each of them the ends
of the current span are offsets and in order. Each edit either puts the span
between the two offsets that it asks for or leaves it as it is. And the edits
that go through, run alone, all go through again and end where the whole run
does. -/
theorem afterAll_eq_foldlM_accepted (s : Span) (edits : List Edit) :
    (∀ k, (s.afterAll (edits.take k)).HasOffsetEnds) ∧
      (∀ k (hk : k < edits.length),
        Step (s.afterAll (edits.take k)) edits[k] (s.afterAll (edits.take (k + 1)))) ∧
      (s.accepted edits).Sublist edits ∧
      (s.accepted edits).foldlM edit s = .ok (s.afterAll edits) := by
  refine ⟨?_, ?_, s.accepted_sublist edits, s.foldlM_accepted edits⟩
  · intro k
    exact hasOffsetEnds _
  · intro k hk
    rw [afterAll_take_succ s hk]
    exact step_after _ _

/-- A low end that moves past the high end becomes the high end, a truth value
is no offset but moves both ends by one, and an end that would fall below zero
stays: of the four edits two count. -/
theorem afterAll_eq_foldlM_accepted_of_four :
    2 < [Edit.shiftLow (.int 7), .replaceLow (.number (.bool true)),
      .shift (.number (.bool true)), .shiftLow (.int (-12))].length ∧
    Step (between ⟨10, by decide⟩ ⟨12, by decide⟩) (.shift (.number (.bool true)))
      (between ⟨11, by decide⟩ ⟨13, by decide⟩) ∧
    [Edit.shiftLow (.int 7), .shift (.number (.bool true))].foldlM edit
      (between ⟨5, by decide⟩ ⟨10, by decide⟩) = .ok (between ⟨11, by decide⟩ ⟨13, by decide⟩) := by
  obtain ⟨-, hsteps, -, hrun⟩ := afterAll_eq_foldlM_accepted
    (between ⟨5, by decide⟩ ⟨10, by decide⟩)
    [.shiftLow (.int 7), .replaceLow (.number (.bool true)), .shift (.number (.bool true)),
      .shiftLow (.int (-12))]
  exact ⟨by decide, hsteps 2 (by decide), hrun⟩

end Span

end LineMap
