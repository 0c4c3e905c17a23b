import LineMap.Position
import LineMap.Text.Basic
/-!
# Spans — half-open stretches of a text

A span runs from its low end up to, and without, its high end. Its ends
are never inverted: `between` puts two positions in order, and every other
constructor goes through it. Width, emptiness, membership and the list of
positions are four views of the same stretch.
-/

namespace LineMap

/-- The stretch from `low` up to, and without, `high`. -/
structure Span where
  low : Position
  high : Position
  low_le_high : low ≤ high
deriving DecidableEq

namespace Span

/-- Spans with the same ends are one span. -/
@[ext] theorem ext {s t : Span} (hl : s.low = t.low) (hh : s.high = t.high) : s = t := by
  cases s; cases t; cases hl; cases hh; rfl

/-- **The span between two positions**, in whichever order they come. -/
def between (p q : Position) : Span :=
  if h : p ≤ q then ⟨p, q, h⟩ else ⟨q, p, by rw [Position.le_iff] at h ⊢; omega⟩

/-- The low end is the earlier of the two positions. -/
@[simp] theorem low_between (p q : Position) : (between p q).low = min p q := by
  change _ = Position.min p q
  rw [between, Position.min]
  split <;> rfl

/-- The high end is the later of the two positions. -/
@[simp] theorem high_between (p q : Position) : (between p q).high = max p q := by
  change _ = Position.max p q
  rw [between, Position.max]
  split <;> rfl

/-- Ends that are in order already are kept. -/
theorem between_of_le {p q : Position} (h : p ≤ q) : between p q = ⟨p, q, h⟩ := by
  rw [between, dif_pos h]

/-- The order of the two positions does not matter. -/
theorem between_comm (p q : Position) : between p q = between q p := by
  ext <;> simp <;> omega

/-- The span between two integer offsets. -/
def ofInts (low high : Int) : Except Fault Span := do
  return between (← Position.ofInt low) (← Position.ofInt high)

/-- The number of positions in a span. -/
def width (s : Span) : Nat :=
  s.high.offset - s.low.offset

/-- Whether a span has no position. -/
def isEmpty (s : Span) : Bool :=
  s.low = s.high

/-- Whether a number lies in a span; no number is refused. -/
def contains (s : Span) (value : Number) : Bool :=
  (Number.int s.low.offset).le value && value.lt (.int s.high.offset)

/-- The same stretch with another low end. -/
def replaceLow (s : Span) (low : Position) : Span := between low s.high

/-- The same stretch with another high end. -/
def replaceHigh (s : Span) (high : Position) : Span := between s.low high

/-- The least span around two spans, with any gap between them. -/
def union (s t : Span) : Span :=
  between (min s.low t.low) (max s.high t.high)

/-- Both ends moved by an amount, the low end first. -/
def shift (s : Span) (amount : Number) : Except Fault Span := do
  return between (← s.low.shift amount "low") (← s.high.shift amount "high")

/-- The low end moved by an amount. -/
def shiftLow (s : Span) (amount : Number) : Except Fault Span := do
  return between (← s.low.shift amount "low") s.high

/-- The high end moved by an amount. -/
def shiftHigh (s : Span) (amount : Number) : Except Fault Span := do
  return between s.low (← s.high.shift amount "high")

/-- The first positions of a span, `count` of them if it has as many. -/
def firstPositions (s : Span) (count : Nat) : List Position :=
  (List.range' s.low.offset (min count s.width)).pmap Position.mk fun x hx => by
    have hle := s.high.offset_le
    simp only [List.mem_range'_1, width] at hx
    omega

/-- The positions of a span, in order. -/
def positions (s : Span) : List Position :=
  s.firstPositions s.width

/-- The part of a text that a span covers; what lies past the end of the
text is not there to be covered. -/
def textOf (s : Span) (text : Text) : Text :=
  text.slice s.low.offset s.high.offset

/-- How a span is written. -/
def text (s : Span) : String :=
  s!"Span({s.low.offset}..{s.high.offset})"

end Span

end LineMap
