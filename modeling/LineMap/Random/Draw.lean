/-!
# Draws — values that chance gives

A supply of draws gives fractions, numbers in a range and items of a list.
Each draw carries that it keeps to its range, and nothing else is known of
it, so what is said of draws here holds whatever the values are. One supply
makes them out of a stream of 32-bit words, which is any way to get the
next word.
-/

namespace LineMap.Random

/-- The denominator of a drawn fraction. -/
def fractionScale : Nat := 1 <<< 53

/-- **A supply of draws.** -/
structure Draws (σ : Type) where
  /-- The numerator of a fraction from zero up to, and without, one. -/
  fraction : StateM σ (Fin fractionScale)
  /-- A number from `low` to `high`, both included. -/
  between : (low high : Nat) → low ≤ high → StateM σ {n : Nat // low ≤ n ∧ n ≤ high}
  /-- An item of a list. -/
  choose : {α : Type} → (items : List α) → items ≠ [] → StateM σ {item : α // item ∈ items}

variable {σ α : Type} (next : StateM σ UInt32)

/-- The top bits of the next word. -/
def bits (count : Nat) : StateM σ Nat := do
  return (← next).toNat >>> (32 - count)

/-- How often a draw below a bound is tried again. Each try fails at most
every other time for random words. -/
def maxTries : Nat := 1000

/-- Draws as many bits as the bound has until they are below it, and gives
up with zero. -/
def belowWithin (bound : Nat) (hpos : 0 < bound) : Nat → StateM σ (Fin bound)
  | 0 => return ⟨0, hpos⟩
  | tries + 1 => do
    let drawn ← bits next (bound.log2 + 1)
    if h : drawn < bound then return ⟨drawn, h⟩ else belowWithin bound hpos tries

/-- A number below a bound. -/
def below (bound : Nat) (hpos : 0 < bound) : StateM σ (Fin bound) :=
  belowWithin next bound hpos maxTries

/-- The numerator out of the top bits of two words, 27 of the first and 26
of the second. -/
def numerator (a b : UInt32) : Nat :=
  (a >>> 5).toNat <<< 26 + (b >>> 6).toNat

theorem numerator_lt (a b : UInt32) : numerator a b < fractionScale := by
  have ha := a.toNat_lt
  have hb := b.toNat_lt
  unfold numerator fractionScale
  rw [UInt32.toNat_shiftRight, UInt32.toNat_shiftRight, Nat.shiftLeft_eq, Nat.shiftRight_eq_div_pow,
    Nat.shiftRight_eq_div_pow]
  simp only [UInt32.reduceToNat, Nat.reducePow, Nat.reduceMod, Nat.reduceShiftLeft] at *
  omega

/-- **The draws out of a stream of words.** -/
def Draws.ofWords : Draws σ where
  fraction := do
    let a ← next
    let b ← next
    return ⟨numerator a b, numerator_lt a b⟩
  between low high h := do
    let drawn ← below next (high - low + 1) (Nat.succ_pos _)
    return ⟨low + drawn, by omega⟩
  choose items hne := do
    let drawn ← below next items.length (List.length_pos_iff.mpr hne)
    return ⟨items.get drawn, List.get_mem items drawn⟩

/-- Whether a drawn fraction is below one out of `count`. -/
def isOneIn (count : Nat) (drawn : Fin fractionScale) : Bool :=
  count * drawn < fractionScale

/-- A draw, made a number of times. -/
def times (count : Nat) (draw : StateM σ α) : StateM σ (List α) :=
  match count with
  | 0 => return []
  | count + 1 => do
    let first ← draw
    let rest ← times count draw
    return first :: rest

end LineMap.Random
