import LineMap.Random.Text
import Mathlib.Algebra.Group.Action.Defs
import Mathlib.Algebra.Order.BigOperators.Group.List
import Mathlib.Algebra.Order.Ring.Nat
/-!
# Generated texts — the shape that every draw leaves

Nothing is known of the draws but their ranges, so what is said here of a
generated text holds of the worst draws, too. `Always` carries a property
through the draws one by one; at the end a text is lines of the alphabet and
a few newlines (`IsMade`), and its shape is counted off that. The texts of a
run are drawn one after the other, so a shorter run draws the same ones.
-/

namespace LineMap.Random

variable {σ α β : Type} {draw : StateM σ α} {P : α → Prop} {Q : β → Prop}

/-! ## What always holds of a draw -/

/-- **A property that the value of a draw always has**, from every state on. -/
def Always (draw : StateM σ α) (P : α → Prop) : Prop :=
  ∀ s, P (draw.run s).1

/-- What all values have, the drawn one has: so it keeps to its range. -/
theorem always_of_forall (h : ∀ a, P a) : Always draw P := fun s => h (draw.run s).1

theorem always_pure {a : α} (h : P a) : Always (pure a : StateM σ α) P := fun _ => h

theorem always_bind {f : α → StateM σ β} (h : Always draw fun a => Always (f a) Q) :
    Always (draw >>= f) Q :=
  fun s => h s (draw.run s).2

theorem always_map {f : α → β} (h : Always draw fun a => Q (f a)) : Always (f <$> draw) Q :=
  fun s => h s

theorem Always.imp {P' : α → Prop} (h : Always draw P) (himp : ∀ a, P a → P' a) :
    Always draw P' :=
  fun s => himp _ (h s)

/-- **A draw that is made a number of times** gives as many values, all with
the property of one. -/
theorem always_times (h : Always draw P) (count : Nat) :
    Always (times count draw) fun values => values.length = count ∧ ∀ a ∈ values, P a := by
  induction count with
  | zero => exact always_pure ⟨rfl, nofun⟩
  | succ count ih =>
    refine always_bind (h.imp fun first hfirst => always_bind (ih.imp ?_))
    rintro rest ⟨hlen, hrest⟩
    exact always_pure ⟨congrArg (· + 1) hlen, List.forall_mem_cons.2 ⟨hfirst, hrest⟩⟩

/-- Draws that follow each other are one run. -/
theorem times_add (m n : Nat) (draw : StateM σ α) :
    times (m + n) draw = do
      let front ← times m draw
      let back ← times n draw
      return front ++ back := by
  induction m with
  | zero => simp [times]
  | succ m ih => simp [times, Nat.succ_add, ih]

/-- **A run starts with the shorter runs** from the same state on. -/
theorem take_times (m n : Nat) (draw : StateM σ α) (s : σ) :
    ((times (m + n) draw).run s).1.take m = ((times m draw).run s).1 := by
  have hlen : ((times m draw).run s).1.length = m :=
    (always_times (always_of_forall fun _ => trivial) m s).1
  rw [times_add]
  exact List.take_left' hlen

/-! ## Joined lines -/

variable {lines : List Text} {t : Text}

theorem joinLines_eq_intercalate (lines : List Text) :
    joinLines lines = ['\n'].intercalate lines := by
  fun_induction joinLines lines with
  | case1 => rfl
  | case2 last => exact List.intercalate_singleton.symm
  | case3 first second rest ih =>
    rw [ih, List.intercalate_cons_cons, List.append_assoc]
    rfl

/-- **Lines that are joined are the lines again**, if none has a newline. -/
theorem splitOn_joinLines (hne : lines ≠ []) (h : ∀ line ∈ lines, '\n' ∉ line) :
    (joinLines lines).splitOn '\n' = lines := by
  rw [joinLines_eq_intercalate]
  exact List.splitOn_intercalate '\n' h hne

/-- Joining takes one newline less than there are lines. -/
theorem length_joinLines (hne : lines ≠ []) :
    (joinLines lines).length + 1 = (lines.map List.length).sum + lines.length := by
  fun_induction joinLines lines with
  | case1 => exact absurd rfl hne
  | case2 last => simp
  | case3 first second rest ih =>
    have hrest := ih (List.cons_ne_nil _ _)
    rw [List.length_append, List.length_cons, List.map_cons, List.sum_cons, List.length_cons]
    omega

/-- A newline behind the lines is an empty line more. -/
theorem joinLines_concat_nil (hne : lines ≠ []) :
    joinLines (lines ++ [[]]) = joinLines lines ++ ['\n'] := by
  fun_induction joinLines lines with
  | case1 => exact absurd rfl hne
  | case2 last => rfl
  | case3 first second rest ih =>
    have hrest := ih (List.cons_ne_nil _ _)
    rw [List.cons_append, List.cons_append, joinLines, ← List.cons_append, hrest]
    simp

theorem joinLines_append_replicate (hne : lines ≠ []) (blank : Nat) :
    joinLines (lines ++ List.replicate blank []) =
      joinLines lines ++ List.replicate blank '\n' := by
  induction blank with
  | zero => simp
  | succ blank ih =>
    rw [List.replicate_succ', List.replicate_succ', ← List.append_assoc, ← List.append_assoc,
      joinLines_concat_nil (List.append_ne_nil_of_left_ne_nil hne _), ih]

/-! ## The shape of a text -/

/-- **A line of a generated text** has at most twenty-four characters, all of
the alphabet. -/
def IsLine (t : Text) : Prop :=
  t.length ≤ 24 ∧ ∀ c ∈ t, c ∈ alphabet

theorem isLine_nil : IsLine [] := ⟨Nat.zero_le _, nofun⟩

/-- The alphabet has no newline. -/
theorem IsLine.newline_not_mem (h : IsLine t) : '\n' ∉ t := by
  intro hmem
  exact absurd (h.2 _ hmem) (by decide)

/-- **What a generated text is made of**: up to forty lines, and up to four
newlines behind them. -/
inductive IsMade : Text → Prop
  | ofLines {lines : List Text} {blank : Nat} (hne : lines ≠ []) (hlines : lines.length ≤ 40)
      (hblank : blank ≤ 4) (hline : ∀ line ∈ lines, IsLine line) :
      IsMade (joinLines lines ++ List.replicate blank '\n')

/-- **The shape of a generated text**, split at its newlines. -/
structure HasShape (t : Text) : Prop where
  lines_le : (t.splitOn '\n').length ≤ 44
  line_le : ∀ line ∈ t.splitOn '\n', line.length ≤ 24
  mem_alphabet : ∀ line ∈ t.splitOn '\n', ∀ c ∈ line, c ∈ alphabet
  length_le : t.length ≤ 1003

/-- A text has the shape that is counted off what it is made of. -/
theorem IsMade.hasShape (h : IsMade t) : HasShape t := by
  cases h with
  | @ofLines lines blank hne hlines hblank hline =>
    have hall : ∀ line ∈ lines ++ List.replicate blank [], IsLine line := by
      intro line hmem
      rcases List.mem_append.1 hmem with hmem | hmem
      · exact hline line hmem
      · rw [List.eq_of_mem_replicate hmem]
        exact isLine_nil
    have hsplit : (joinLines lines ++ List.replicate blank '\n').splitOn '\n' =
        lines ++ List.replicate blank [] := by
      rw [← joinLines_append_replicate hne]
      exact splitOn_joinLines (List.append_ne_nil_of_left_ne_nil hne _)
        fun line hmem => (hall line hmem).newline_not_mem
    refine ⟨?_, ?_, ?_, ?_⟩
    · rw [hsplit, List.length_append, List.length_replicate]
      omega
    · rw [hsplit]
      exact fun line hmem => (hall line hmem).1
    · rw [hsplit]
      exact fun line hmem => (hall line hmem).2
    · have hsum : (lines.map List.length).sum ≤ lines.length * 24 := by
        have hle := List.sum_le_card_nsmul (lines.map List.length) 24
          (List.forall_mem_map.2 fun line hmem => (hline line hmem).1)
        rwa [List.length_map, smul_eq_mul] at hle
      have hjoin := length_joinLines hne
      rw [List.length_append, List.length_replicate]
      omega

/-! ## Every draw leaves that shape -/

variable (draws : Draws σ)

theorem always_line : Always (line draws) IsLine := by
  have hchoose : Always (Subtype.val <$> draws.choose alphabet alphabet_ne_nil) (· ∈ alphabet) :=
    always_map (always_of_forall Subtype.property)
  refine always_bind (always_of_forall fun length => (always_times hchoose length.1).imp ?_)
  rintro line ⟨hlen, hmem⟩
  exact ⟨hlen.trans_le length.2.2, hmem⟩

theorem always_linedText : Always (linedText draws) IsMade := by
  unfold linedText
  refine always_bind (always_of_forall fun count => ?_)
  refine always_bind ((always_times (always_line draws) count.1).imp ?_)
  rintro lines ⟨hlen, hline⟩
  have hne : lines ≠ [] := List.ne_nil_of_length_pos (by have := count.2.1; omega)
  have hcount : lines.length ≤ 40 := hlen.trans_le count.2.2
  refine always_bind (always_of_forall fun closed => always_bind (always_of_forall fun more => ?_))
  have hmade : ∀ blank ≤ 3, IsMade (joinLines lines ++
      (if isOneIn 2 closed = true then ['\n'] else []) ++ List.replicate blank '\n') := by
    intro blank hblank
    obtain ⟨k, hk, hclosing⟩ : ∃ k ≤ 1,
        (if isOneIn 2 closed = true then ['\n'] else []) = List.replicate k '\n' := by
      split
      · exact ⟨1, le_rfl, rfl⟩
      · exact ⟨0, Nat.zero_le 1, rfl⟩
    rw [hclosing, List.append_assoc, List.replicate_append_replicate]
    exact .ofLines hne hcount (by omega) hline
  dsimp only
  split
  · exact always_bind (always_map (always_of_forall fun blank =>
      always_pure (hmade blank.1 blank.2.2)))
  · exact always_bind (always_pure (always_pure (hmade 0 (Nat.zero_le 3))))

/-- An empty text and newlines are empty lines. -/
theorem isMade_replicate {count : Nat} (h : count < 40) : IsMade (List.replicate count '\n') := by
  have hne : [[]] ++ List.replicate count ([] : Text) ≠ [] := List.cons_ne_nil _ _
  have hmade : IsMade (joinLines ([[]] ++ List.replicate count []) ++ List.replicate 0 '\n') := by
    refine .ofLines hne ?_ (Nat.zero_le 4) fun line hmem => ?_
    · rw [List.length_append, List.length_replicate, List.length_singleton]
      omega
    · rw [List.eq_of_mem_replicate (n := count + 1) hmem]
      exact isLine_nil
  rw [joinLines_append_replicate (List.cons_ne_nil _ _), List.replicate_zero,
    List.append_nil] at hmade
  exact hmade

/-- **Every draw leaves a text that is made of lines**, whatever its shape. -/
theorem always_text : Always (text draws) IsMade := by
  unfold text
  refine always_bind (always_of_forall fun shape => ?_)
  split
  · exact always_pure (isMade_replicate (by decide : 0 < 40))
  · split
    · refine always_bind (always_of_forall fun count => always_pure (isMade_replicate ?_))
      have := count.2.2
      omega
    · exact always_linedText draws

/-- **The texts of a seed.** There are as many as asked for, none for a negative
count; a list of fewer texts is the front of a longer one; and each text has
the shape of a generated text. The same is so of every supply of draws that
keep to their ranges, from every state on. -/
theorem textsOfSeed_shape (seed count : Int) :
    ((textsOfSeed seed count).length : Int) = max count 0 ∧
    (∀ n, 0 ≤ n → n ≤ count → (textsOfSeed seed count).take n.toNat = textsOfSeed seed n) ∧
    (∀ t ∈ textsOfSeed seed count, HasShape t) ∧
    ∀ {σ : Type} (draws : Draws σ) (start : σ),
      (((texts draws count).run start).1.length : Int) = max count 0 ∧
      (∀ n, 0 ≤ n → n ≤ count →
        ((texts draws count).run start).1.take n.toNat = ((texts draws n).run start).1) ∧
      ∀ t ∈ ((texts draws count).run start).1, HasShape t := by
  have hdraws : ∀ {σ : Type} (draws : Draws σ) (start : σ),
      (((texts draws count).run start).1.length : Int) = max count 0 ∧
      (∀ n, 0 ≤ n → n ≤ count →
        ((texts draws count).run start).1.take n.toNat = ((texts draws n).run start).1) ∧
      ∀ t ∈ ((texts draws count).run start).1, HasShape t := by
    intro σ draws start
    obtain ⟨hlen, hmade⟩ := always_times (always_text draws) count.toNat start
    refine ⟨?_, ?_, fun t ht => (hmade t ht).hasShape⟩
    · rw [texts, hlen]
      omega
    · intro n hn hle
      obtain ⟨k, hk⟩ : ∃ k, count.toNat = n.toNat + k := Nat.exists_eq_add_of_le (by omega)
      unfold texts
      rw [hk]
      exact take_times _ _ _ _
  obtain ⟨hlen, hfront, htexts⟩ := hdraws (.ofWords Twister.next) (Twister.ofSeed seed)
  exact ⟨hlen, hfront, htexts, hdraws⟩

/-- Draws that make the longest text: a fraction that is no small one and then
only small ones, the greatest numbers, and the first items. -/
def longest : Draws Bool where
  fraction := fun fresh =>
    (if fresh then ⟨fractionScale - 1, by decide⟩ else ⟨0, by decide⟩, false)
  between _ high h := pure ⟨high, h, le_rfl⟩
  choose items hne := pure ⟨items.head hne, List.head_mem hne⟩

/-- Three texts of a seed start with two of them, and the longest text has all
the lines and all the characters that the shape leaves room for. -/
theorem textsOfSeed_shape_of_longest :
    ((textsOfSeed 7 3).length : Int) = 3 ∧ (textsOfSeed 7 3).take 2 = textsOfSeed 7 2 ∧
      (∃ t ∈ textsOfSeed 7 3, HasShape t) ∧
      ∃ t ∈ ((texts longest 1).run true).1, HasShape t ∧ t.length = 1003 ∧
        (t.splitOn '\n').length = 44 := by
  obtain ⟨hlen, hfront, htexts, -⟩ := textsOfSeed_shape 7 3
  obtain ⟨-, -, -, hlongest⟩ := textsOfSeed_shape 7 1
  have hmem : ((text longest).run true).1 ∈ ((texts longest 1).run true).1 :=
    List.mem_cons_self
  have hne : textsOfSeed 7 3 ≠ [] := by
    intro hnil
    rw [hnil] at hlen
    exact absurd hlen (by decide)
  obtain ⟨t, ht⟩ := List.exists_mem_of_ne_nil _ hne
  refine ⟨hlen, hfront 2 (by decide) (by decide), ⟨t, ht, htexts t ht⟩, _, hmem,
    (hlongest longest true).2.2 _ hmem, ?_, ?_⟩
  · decide +kernel
  · decide +kernel

end LineMap.Random
