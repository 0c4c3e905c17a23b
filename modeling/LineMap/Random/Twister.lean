/-!
# The Mersenne Twister — words from a seed

The generator MT19937: a state of 624 words, renewed all at once by a
linear recurrence, whose words are tempered on the way out. A seed is a
list of words that is mixed into the state twice over. Everything is
arithmetic of 32-bit words, so a seed determines the stream.
-/

namespace LineMap.Random

/-- The number of words in the state. -/
def stateSize : Nat := 624

/-- How far ahead the recurrence looks. -/
def middleOffset : Nat := 397

/-- The state of a generator: its words, and how many of them are spent. -/
structure Twister where
  words : Array UInt32
  spent : Nat

namespace Twister

/-- The word at an index of a state. -/
def word (words : Array UInt32) (i : Nat) : UInt32 :=
  words.getD i 0

/-- A word, mixed with the top bits of itself. -/
def fold (x : UInt32) : UInt32 :=
  x ^^^ (x >>> 30)

/-- The state that one word is spread into. -/
def spread (seed : UInt32) : Array UInt32 :=
  (List.range (stateSize - 1)).foldl
    (fun words i => words.push (1812433253 * fold (word words i) + (i + 1).toUInt32)) #[seed]

/-- Steps an index through the state; at the end, the last word is copied
to the front, and the next index is one. -/
def stepIndex (words : Array UInt32) (i : Nat) : Array UInt32 × Nat :=
  if i + 1 < stateSize then (words, i + 1)
  else (words.setIfInBounds 0 (word words (stateSize - 1)), 1)

/-- The first mixing: the words of the key are added along the state, over
and over. -/
def mixKey (key : List UInt32) : Nat → Array UInt32 × Nat → Nat → Array UInt32 × Nat
  | 0, state, _ => state
  | count + 1, (words, i), j =>
    let mixed :=
      (word words i ^^^ (fold (word words (i - 1)) * 1664525)) + key.getD j 0 + j.toUInt32
    mixKey key count (stepIndex (words.setIfInBounds i mixed) i)
      (if j + 1 < key.length then j + 1 else 0)

/-- The second mixing: the indices are taken away along the state. -/
def mixIndex : Nat → Array UInt32 × Nat → Array UInt32 × Nat
  | 0, state => state
  | count + 1, (words, i) =>
    let mixed := (word words i ^^^ (fold (word words (i - 1)) * 1566083941)) - i.toUInt32
    mixIndex count (stepIndex (words.setIfInBounds i mixed) i)

/-- The generator with a key for its seed. -/
def ofKey (key : List UInt32) : Twister :=
  let start := mixKey key (max stateSize key.length) (spread 19650218, 1) 0
  let words := (mixIndex (stateSize - 1) start).1
  ⟨words.setIfInBounds 0 0x80000000, stateSize⟩

/-- The words of a number, least significant first; zero has one word. -/
def keyOf (n : Nat) : List UInt32 :=
  if n < UInt32.size then [n.toUInt32] else n.toUInt32 :: keyOf (n / UInt32.size)
termination_by n
decreasing_by
  have hle : UInt32.size ≤ n := Nat.le_of_not_lt ‹_›
  exact Nat.div_lt_self (Nat.lt_of_lt_of_le (by decide) hle) (by decide)

/-- **The generator with an integer for its seed**; the sign does not
count. -/
def ofSeed (seed : Int) : Twister :=
  ofKey (keyOf seed.natAbs)

/-- One step of the recurrence. -/
def renewAt (words : Array UInt32) (i : Nat) : Array UInt32 :=
  let y := (word words i &&& 0x80000000) ||| (word words ((i + 1) % stateSize) &&& 0x7fffffff)
  let z := word words ((i + middleOffset) % stateSize) ^^^ (y >>> 1)
  words.setIfInBounds i (if y &&& 1 = 0 then z else z ^^^ 0x9908b0df)

/-- The next state. -/
def renew (words : Array UInt32) : Array UInt32 :=
  (List.range stateSize).foldl renewAt words

/-- What a word of the state becomes on the way out. -/
def temper (x : UInt32) : UInt32 :=
  let x := x ^^^ (x >>> 11)
  let x := x ^^^ ((x <<< 7) &&& 0x9d2c5680)
  let x := x ^^^ ((x <<< 15) &&& 0xefc60000)
  x ^^^ (x >>> 18)

/-- **The next word of the stream.** -/
def next : StateM Twister UInt32 := fun t =>
  let t := if t.spent < stateSize then t else ⟨renew t.words, 0⟩
  (temper (word t.words t.spent), ⟨t.words, t.spent + 1⟩)

end Twister

end LineMap.Random
