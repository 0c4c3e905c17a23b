import LineMap.Argument.Coercion
import Mathlib.Data.List.Chain
/-!
# Span views — one interval seen in six ways

A span can be asked for its positions, its width, whether it is empty, whether
it holds a number or a position, and what it covers of a text. None of these
is computed from another. They agree because all of them count from the low
end up to, and without, the high end: the offsets of the positions are the
numbers in between, one after the other (`map_offset_positions`), and the rest
follows from that list. A text may end before the span does; then its
characters at the positions inside it are what the span covers.
-/

namespace LineMap

namespace Text

/-- **A cut is made of the characters at its offsets**, as far as the text
goes. By induction on the number of offsets, from every first one. -/
theorem mapM_getElem?_range' (text : Text) (low count : Nat) :
    ((List.range' low count).filter (· < text.length)).mapM (text[·]?) =
      some ((text.drop low).take count) := by
  induction count generalizing low with
  | zero => rfl
  | succ count ih =>
    rw [List.range'_succ]
    by_cases h : low < text.length
    · rw [List.filter_cons_of_pos (by rwa [decide_eq_true_eq]), List.mapM_cons, ih,
        List.getElem?_eq_getElem h, List.drop_eq_getElem_cons h, List.take_succ_cons]
      rfl
    · have hend : text.drop low = [] := List.drop_eq_nil_of_le (by omega)
      have hend' : text.drop (low + 1) = [] := List.drop_eq_nil_of_le (by omega)
      rw [List.filter_cons_of_neg (by rwa [decide_eq_true_eq]), ih, hend, hend',
        List.take_nil, List.take_nil]

end Text

theorem Position.offset_injective : Function.Injective Position.offset :=
  fun _ _ => Position.ext

namespace Span

variable {s : Span} {p : Position} {x : Int}

/-! ## Ends -/

theorem isEmpty_iff : s.isEmpty = true ↔ s.low = s.high := by
  rw [isEmpty, decide_eq_true_eq]

/-- A span holds the integers from its low end up to, and without, its high
end. -/
theorem contains_int_iff : s.contains (.int x) = true ↔ s.low.offset ≤ x ∧ x < s.high.offset := by
  unfold contains
  rw [Number.le_int, Number.lt_int, Bool.and_eq_true, decide_eq_true_eq, decide_eq_true_eq]

/-! ## Positions -/

/-- **The positions of a span** have the offsets from its low end up to, and
without, its high end, one after the other. -/
theorem map_offset_positions (s : Span) :
    s.positions.map Position.offset = List.range' s.low.offset s.width := by
  rw [positions, firstPositions, List.map_pmap, List.pmap_eq_map, List.map_id', Nat.min_self]

theorem length_positions (s : Span) : s.positions.length = s.width := by
  have hlength := congrArg List.length s.map_offset_positions
  rwa [List.length_map, List.length_range'] at hlength

/-- They ascend by one. -/
theorem isChain_positions (s : Span) :
    s.positions.IsChain fun p q => q.offset = p.offset + 1 := by
  have hchain := List.isChain_range' s.low.offset s.width 1
  rwa [← map_offset_positions, List.isChain_map] at hchain

theorem mem_positions_iff :
    p ∈ s.positions ↔ s.low.offset ≤ p.offset ∧ p.offset < s.high.offset := by
  have hle : s.low.offset ≤ s.high.offset := s.low_le_high
  rw [← List.mem_map_of_injective Position.offset_injective, map_offset_positions,
    List.mem_range'_1, width]
  omega

/-! ## The other views -/

theorem positions_eq_nil_iff : s.positions = [] ↔ s.isEmpty = true := by
  have hle : s.low.offset ≤ s.high.offset := s.low_le_high
  rw [← List.length_eq_zero_iff, length_positions, width, isEmpty_iff, Position.ext_iff]
  omega

/-- A number in a span is the offset of one of its positions. -/
theorem contains_int_iff_exists :
    s.contains (.int x) = true ↔ ∃ p ∈ s.positions, (p.offset : Int) = x := by
  have hfit := s.high.offset_le
  rw [contains_int_iff]
  constructor
  · -- An integer below the high end fits as an offset, so it has a position.
    rintro ⟨hlow, hhigh⟩
    refine ⟨⟨x.toNat, by omega⟩, mem_positions_iff.2 ⟨?_, ?_⟩, ?_⟩ <;> dsimp only <;> omega
  · rintro ⟨p, hp, rfl⟩
    obtain ⟨hlow, hhigh⟩ := mem_positions_iff.1 hp
    exact ⟨by omega, by omega⟩

/-- What a span covers are the characters at its positions. -/
theorem mapM_getElem?_positions (s : Span) (text : Text) :
    (s.positions.filter fun p => p.offset < text.length).mapM (fun p => text[p.offset]?) =
      some (s.textOf text) := by
  have hcut := text.mapM_getElem?_range' s.low.offset s.width
  rw [← map_offset_positions, List.filter_map, List.mapM_map] at hcut
  exact hcut

/-- **The views of a span agree.** Its positions ascend by one, and there are
as many of them as it is wide. It holds a position exactly if that is one of
them, and an integer, which is never refused, exactly if that is the offset of
one of them. It is empty exactly if there are none. And what it covers of a
text are the characters at its positions, as far as the text goes, so that
there are as many of these as it is wide if it does not go past the end. -/
theorem span_views_agree (s : Span) :
    s.positions.IsChain (fun p q => q.offset = p.offset + 1) ∧
    s.positions.length = s.width ∧
    (∀ p, p ∈ s.positions ↔ s.containsArgument (.position p) = .ok true) ∧
    (∀ x : Int, ∃ answer, s.containsArgument (.int x) = .ok answer ∧
      (answer = true ↔ ∃ p ∈ s.positions, (p.offset : Int) = x)) ∧
    (s.isEmpty = true ↔ s.positions = []) ∧
    ∀ text : Text,
      (s.positions.filter fun p => p.offset < text.length).mapM (fun p => text[p.offset]?) =
        some (s.textOf text) ∧
      (s.high.offset ≤ text.length → (s.textOf text).length = s.width) := by
  refine ⟨s.isChain_positions, s.length_positions, fun p => ?_, fun x => ?_,
    positions_eq_nil_iff.symm, fun text => ?_⟩
  · have hholds : s.containsArgument (.position p) = .ok (s.contains (.int p.offset)) := rfl
    rw [hholds, Except.ok.injEq, contains_int_iff, mem_positions_iff]
    omega
  · exact ⟨_, rfl, contains_int_iff_exists⟩
  · exact ⟨s.mapM_getElem?_positions text, Text.length_slice⟩

/-- A span that goes past the end of a text, and an empty one at the greatest
offset. -/
theorem span_views_agree_past_end :
    let s : Span := between ⟨1, by decide⟩ ⟨4, by decide⟩
    let e : Span := between ⟨4294967295, by decide⟩ ⟨4294967295, by decide⟩
    s.positions = [⟨1, by decide⟩, ⟨2, by decide⟩, ⟨3, by decide⟩] ∧
      s.textOf ['a', '\n'] = ['\n'] ∧ (s.textOf ['a', '\n', 'b', 'c', 'd']).length = 3 ∧
      s.containsArgument (.int (-1)) = .ok false ∧ e.positions = [] ∧
      ¬ ∃ p ∈ e.positions, (p.offset : Int) = 4294967295 := by
  intro s e
  obtain ⟨-, -, -, -, -, htext⟩ := span_views_agree s
  obtain ⟨-, -, -, hholds, hempty, -⟩ := span_views_agree e
  obtain ⟨hcovered, -⟩ := htext ['a', '\n']
  obtain ⟨-, hlength⟩ := htext ['a', '\n', 'b', 'c', 'd']
  obtain ⟨answer, hanswer, hiff⟩ := hholds 4294967295
  refine ⟨rfl, (Option.some.inj hcovered).symm, hlength (by decide), rfl, hempty.1 rfl, ?_⟩
  intro h
  rw [← hiff] at h
  rw [h] at hanswer
  cases hanswer

end Span

end LineMap
