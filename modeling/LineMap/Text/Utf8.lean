import LineMap.Text.Basic
import LineMap.Text.Quoted
/-!
# UTF-8 — reading bytes as a text

A byte machine that reads the encoding form strictly: no overlong form,
no surrogate and no value above U+10FFFF gets through, because the range
of the first continuation byte depends on the lead byte. Where reading
fails, the fault names the first ill-formed sequence: where it starts,
the bytes that belong to it, and what is wrong with it.
-/

namespace LineMap.Text.Utf8

/-- What is wrong with a sequence of bytes. -/
inductive Defect
  /-- No character starts with this byte. -/
  | invalidStart
  /-- The byte after the sequence does not continue it. -/
  | invalidContinuation
  /-- The bytes end inside the sequence. -/
  | unexpectedEnd
deriving DecidableEq

namespace Defect

/-- The words for a defect. -/
def reason : Defect → String
  | invalidStart => "invalid start byte"
  | invalidContinuation => "invalid continuation byte"
  | unexpectedEnd => "unexpected end of data"

end Defect

/-- The first ill-formed sequence: `lead` is its first byte, `position` the
place of that byte, and `extra` counts the bytes after it that belong to
the sequence. -/
structure Fault where
  position : Nat
  lead : UInt8
  extra : Nat
  defect : Defect
deriving DecidableEq

namespace Fault

/-- Where the ill-formed sequence stands: its one byte in hexadecimal, or
the places of its first and its last byte. -/
def place (fault : Fault) : String :=
  if fault.extra = 0 then
    let byte := String.ofList (hexDigits 2 fault.lead.toNat)
    s!"byte 0x{byte} in position {fault.position}"
  else s!"bytes in position {fault.position}-{fault.position + fault.extra}"

/-- The report of a fault. -/
def message (fault : Fault) : String :=
  s!"'utf-8' codec can't decode {fault.place}: {fault.defect.reason}"

end Fault

/-- A sequence under way: its lead byte, how many bytes followed, the value
so far, how many bytes are still due, and the range of the next one. -/
structure Pending where
  lead : UInt8
  extra : Nat
  value : Nat
  due : Nat
  least : UInt8
  greatest : UInt8
deriving DecidableEq

/-- The sequence that a lead byte above 0x7F opens. -/
def Pending.open? (b : UInt8) : Option Pending :=
  if 0xC2 ≤ b ∧ b ≤ 0xDF then some ⟨b, 0, b.toNat % 0x20, 1, 0x80, 0xBF⟩
  else if 0xE0 ≤ b ∧ b ≤ 0xEF then
    some ⟨b, 0, b.toNat % 0x10, 2,
      if b = 0xE0 then 0xA0 else 0x80, if b = 0xED then 0x9F else 0xBF⟩
  else if 0xF0 ≤ b ∧ b ≤ 0xF4 then
    some ⟨b, 0, b.toNat % 0x08, 3,
      if b = 0xF0 then 0x90 else 0x80, if b = 0xF4 then 0x8F else 0xBF⟩
  else none

/-- The sequence with one more byte, whose range is no longer narrowed. -/
def Pending.push (p : Pending) (b : UInt8) : Pending :=
  ⟨p.lead, p.extra + 1, p.value * 0x40 + b.toNat % 0x40, p.due - 1, 0x80, 0xBF⟩

/-- Reads the bytes from `position` on, with `done` the characters before
them, last first, and `pending` the sequence under way. -/
def decodeFrom (position : Nat) (done : List Char) :
    Option Pending → List UInt8 → Except Fault Text
  | none, [] => .ok done.reverse
  | some p, [] => .error ⟨position - 1 - p.extra, p.lead, p.extra, .unexpectedEnd⟩
  | none, b :: rest =>
    if b < 0x80 then decodeFrom (position + 1) (Char.ofNat b.toNat :: done) none rest
    else
      match Pending.open? b with
      | none => .error ⟨position, b, 0, .invalidStart⟩
      | some p => decodeFrom (position + 1) done (some p) rest
  | some p, b :: rest =>
    if p.least ≤ b ∧ b ≤ p.greatest then
      let q := p.push b
      if q.due = 0 then decodeFrom (position + 1) (Char.ofNat q.value :: done) none rest
      else decodeFrom (position + 1) done (some q) rest
    else .error ⟨position - 1 - p.extra, p.lead, p.extra, .invalidContinuation⟩

/-- **The text that the bytes encode**, or the first fault in them. -/
def decode (bytes : List UInt8) : Except Fault Text :=
  decodeFrom 0 [] none bytes

/-- The bytes of a text. -/
def encode (text : Text) : List UInt8 :=
  text.flatMap String.utf8EncodeChar

end LineMap.Text.Utf8
