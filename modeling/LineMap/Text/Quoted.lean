import LineMap.Text.Basic
import LineMap.Text.Printable
/-!
# Quoted text

A quoted text stands between two marks, and reads unambiguously on one
line: the mark itself, the backslash and every character that is not
printable are written as escapes. The mark is the apostrophe, unless the
text has an apostrophe and no double quote.
-/

namespace LineMap.Text

/-- The lower-case hexadecimal digits of `n`, padded with zeros to `width`. -/
def hexDigits (width n : Nat) : List Char :=
  let digits := Nat.toDigits 16 n
  List.replicate (width - digits.length) '0' ++ digits

/-- The mark that a quoted text starts and ends with. -/
def quoteMark (text : Text) : Char :=
  if text.contains '\'' && !text.contains '"' then '"' else '\''

/-- How a character is written between two marks: the shortest of the
numeric escapes that holds it, if it is not printable and has no escape of
its own. -/
def escape (mark c : Char) : List Char :=
  if c = mark || c = '\\' then ['\\', c]
  else if c = '\n' then ['\\', 'n']
  else if c = '\t' then ['\\', 't']
  else if c = '\r' then ['\\', 'r']
  else if isPrintable c then [c]
  else if c.toNat < 0x100 then '\\' :: 'x' :: hexDigits 2 c.toNat
  else if c.toNat < 0x10000 then '\\' :: 'u' :: hexDigits 4 c.toNat
  else '\\' :: 'U' :: hexDigits 8 c.toNat

/-- A text between its marks. -/
def quote (text : String) : String :=
  let mark := quoteMark text.toList
  String.ofList (mark :: text.toList.flatMap (escape mark) ++ [mark])

/-- A text of plain characters is quoted as it stands. -/
theorem quote_of_plain (text : String)
    (h : ∀ c ∈ text.toList, 0x20 ≤ c.toNat ∧ c.toNat < 0x7f ∧ c ≠ '\'' ∧ c ≠ '\\') :
    quote text = "'" ++ text ++ "'" := by
  have hmark : quoteMark text.toList = '\'' := by
    have hapostrophe : text.toList.contains '\'' = false := by
      rw [← Bool.not_eq_true, List.contains_iff_mem]
      exact fun hmem => (h _ hmem).2.2.1 rfl
    rw [quoteMark, hapostrophe]
    rfl
  have hescape : text.toList.flatMap (escape '\'') = text.toList := by
    have hplain : ∀ c ∈ text.toList, escape '\'' c = [c] := by
      intro c hc
      obtain ⟨hlow, hhigh, hquote, hbackslash⟩ := h c hc
      have hbreak : c ≠ '\n' ∧ c ≠ '\t' ∧ c ≠ '\r' := by
        refine ⟨?_, ?_, ?_⟩ <;> rintro rfl <;> exact absurd hlow (by decide)
      simp [escape, hquote, hbackslash, hbreak, isPrintable_of_ascii hlow hhigh]
    rw [List.flatMap_def, List.map_congr_left hplain, ← List.flatMap_def]
    exact List.flatMap_singleton' _
  rw [quote, hmark, hescape, ← String.toList_inj]
  simp

end LineMap.Text
