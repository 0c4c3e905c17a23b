import LineMap.Decimal.Numeral
import Mathlib
/-!
# Numerals — how an integer is written, and what is read of it

An integer is written with decimal digits, and with a dash in front of them
if it is negative. The reader of numerals takes more than that, digits of
every script and underscores between them; but it counts the digits, and
takes no more than `Decimal.digitLimit`. So the plain form of an integer is
read back exactly if it is short enough (`integer?_toString`).
-/

namespace LineMap

variable {n : Nat} {c : Char} {digits text : List Char}

/-! ## Written forms -/

/-- A numeral is written with digits. -/
theorem isDigit_of_mem_toString (h : c ∈ (toString n).toList) : c.isDigit := by
  rw [Nat.toString_eq_repr, Nat.toList_repr] at h
  exact Nat.isDigit_of_mem_toDigits (by decide) (by decide) h

/-- One at least. -/
theorem toList_toString_ne_nil (n : Nat) : (toString n).toList ≠ [] := by
  rw [Nat.toString_eq_repr, Nat.toList_repr]
  exact Nat.toDigits_ne_nil

/-- So there is a digit at the front. -/
theorem exists_toList_toString (n : Nat) :
    ∃ c rest, (toString n).toList = c :: rest ∧ c.isDigit := by
  cases hlist : (toString n).toList with
  | nil => exact absurd hlist (toList_toString_ne_nil n)
  | cons c rest =>
    refine ⟨c, rest, rfl, isDigit_of_mem_toString (n := n) ?_⟩
    rw [hlist]
    exact List.mem_cons_self

/-- A negative integer is the numeral of its magnitude behind a dash. -/
theorem toList_toString_negSucc (n : Nat) :
    (toString (Int.negSucc n)).toList = '-' :: (toString (n + 1)).toList := by
  have htext : toString (Int.negSucc n) = "-" ++ toString (n + 1) := rfl
  rw [htext, String.toList_append]
  rfl

/-- No integer is written with two dashes. -/
theorem toString_ne_dashes (o : Int) : toString o ≠ "--" := by
  intro hdashes
  have hlist : (toString o).toList = ['-', '-'] := congrArg String.toList hdashes
  have hdash : ∀ n : Nat, '-' ∉ (toString n).toList :=
    fun n h => absurd (isDigit_of_mem_toString h) (by decide)
  cases o with
  | ofNat n =>
    refine hdash n ?_
    change '-' ∈ (toString (Int.ofNat n)).toList
    rw [hlist]
    exact List.mem_cons_self
  | negSucc n =>
    rw [toList_toString_negSucc] at hlist
    refine hdash (n + 1) ?_
    rw [(List.cons.inj hlist).2]
    exact List.mem_cons_self

namespace Decimal

/-- The number of digits that an integer is written with. -/
def digitCount (o : Int) : Nat :=
  (Nat.toDigits 10 o.natAbs).length

/-- Digits are counted by powers of ten. -/
theorem digitCount_le_iff {o : Int} {k : Nat} (hk : 0 < k) :
    digitCount o ≤ k ↔ o.natAbs < 10 ^ k :=
  Nat.length_toDigits_le_iff (by decide) hk

/-- A power of ten is the first integer that takes a digit more. -/
theorem lt_digitCount_pow {k : Nat} (hk : 0 < k) : k < digitCount (10 ^ k) := by
  rw [← Nat.not_le, digitCount_le_iff hk, Int.natAbs_pow]
  exact Nat.lt_irrefl _

/-! ## Reading -/

/-- The plain digits are the first script of the table. -/
theorem digitValue?_of_isDigit (h : c.isDigit) :
    Text.digitValue? c = some (c.toNat - '0'.toNat) := by
  have hc : 0x30 ≤ c.toNat ∧ c.toNat ≤ 0x39 := Char.isDigit_iff_toNat.1 h
  have hzero : (decide (0x30 ≤ c.toNat) && decide (c.toNat < 0x30 + 10)) = true := by
    rw [Bool.and_eq_true, decide_eq_true_eq, decide_eq_true_eq]
    omega
  have hfind : Text.decimalZeros.find? (fun z => z ≤ c.toNat && c.toNat < z + 10) = some 0x30 :=
    List.find?_cons_of_pos hzero
  rw [Text.digitValue?, hfind]
  rfl

/-- Neither a digit nor a dash is blank. -/
theorem isBlank_eq_false (h : c.isDigit ∨ c = '-') : Text.isBlank c = false := by
  rcases h with h | rfl
  · have hc : 0x30 ≤ c.toNat ∧ c.toNat ≤ 0x39 := Char.isDigit_iff_toNat.1 h
    simp only [Text.isBlank, Bool.or_eq_false_iff, Bool.and_eq_false_iff, decide_eq_false_iff_not]
    omega
  · decide

/-- Without blanks, nothing is cut off. -/
theorem trim_eq_self (h : ∀ c ∈ text, Text.isBlank c = false) : trim text = text := by
  have hdrop : ∀ {cs : List Char}, (∀ c ∈ cs, Text.isBlank c = false) →
      cs.dropWhile Text.isBlank = cs := by
    intro cs hcs
    refine List.dropWhile_eq_self_iff.2 fun hlen => ?_
    rw [hcs _ (List.getElem_mem hlen)]
    exact Bool.false_ne_true
  rw [trim, hdrop h, hdrop fun c hc => h c (List.mem_reverse.1 hc), List.reverse_reverse]

/-- **Digits are read to their value**, unless there are too many of them. By
induction on the digits, with the value and the count of those before. -/
theorem digitsFrom?_eq {value count : Nat} {due : Bool} (hdigits : ∀ c ∈ digits, c.isDigit)
    (hdue : due = true → digits ≠ []) :
    digitsFrom? value count due digits =
      if digitLimit < count + digits.length then none
      else some (Nat.ofDigitChars 10 digits value) := by
  induction digits generalizing value count due with
  | nil =>
    have hfree : due = false := Bool.eq_false_iff.2 fun h => hdue h rfl
    rw [digitsFrom?, hfree]
    simp
  | cons c rest ih =>
    have hc : c.isDigit := hdigits c List.mem_cons_self
    have hunderscore : c ≠ '_' := by
      rintro rfl
      exact absurd hc (by decide)
    have hrest : digitsFrom? (10 * value + (c.toNat - '0'.toNat)) (count + 1) false rest =
        if digitLimit < count + 1 + rest.length then none
        else some (Nat.ofDigitChars 10 rest (10 * value + (c.toNat - '0'.toNat))) :=
      ih (fun d hd => hdigits d (List.mem_cons_of_mem c hd)) nofun
    rw [digitsFrom?, if_neg hunderscore, digitValue?_of_isDigit hc, Option.bind_some, hrest,
      Nat.ofDigitChars_cons, List.length_cons, Nat.add_right_comm, Nat.add_assoc]

theorem unsigned?_toString (n : Nat) :
    unsigned? (toString n).toList = if digitLimit < digitCount n then none else some n := by
  rw [unsigned?, digitsFrom?_eq (fun c => isDigit_of_mem_toString) fun _ => toList_toString_ne_nil n,
    Nat.zero_add, Nat.toString_eq_repr, Nat.toList_repr, Nat.ofDigitChars_ten_toDigits]
  rfl

/-- **An integer is read back from its plain form**, unless that has too many
digits. -/
theorem integer?_toString (o : Int) :
    integer? (toString o).toList = if digitLimit < digitCount o then none else some o := by
  cases o with
  | ofNat n =>
    have htext : toString (Int.ofNat n) = toString n := rfl
    have hblank : ∀ c ∈ (toString n).toList, Text.isBlank c = false :=
      fun c hc => isBlank_eq_false (.inl (isDigit_of_mem_toString hc))
    obtain ⟨c, rest, hlist, hc⟩ := exists_toList_toString n
    rw [htext, integer?, trim_eq_self hblank]
    -- a digit at the front is no sign
    split
    · next hsign =>
      cases hlist.symm.trans hsign
      exact absurd hc (by decide)
    · next hsign =>
      cases hlist.symm.trans hsign
      exact absurd hc (by decide)
    · change Option.map _ _ = if digitLimit < digitCount n then none else some (n : Int)
      rw [unsigned?_toString]
      split <;> rfl
  | negSucc n =>
    have hblank : ∀ c ∈ '-' :: (toString (n + 1)).toList, Text.isBlank c = false := by
      intro c hc
      rcases List.mem_cons.1 hc with rfl | hc
      · exact isBlank_eq_false (.inr rfl)
      · exact isBlank_eq_false (.inl (isDigit_of_mem_toString hc))
    have hcount : digitCount (Int.negSucc n) = digitCount (n + 1 : Nat) := rfl
    rw [toList_toString_negSucc, hcount, integer?, trim_eq_self hblank]
    change Option.map _ _ = _
    rw [unsigned?_toString]
    split <;> rfl

end Decimal

end LineMap
