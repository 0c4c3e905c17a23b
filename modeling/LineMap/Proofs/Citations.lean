import LineMap.Proofs.LocationOrder
import LineMap.Proofs.Numerals
import Mathlib
/-!
# Citations — reading a citation back

A citation is the text of an origin, a colon, and a line and a column with
a colon between them, or a mark for the end of the text. The origin may be
any text, with colons, digits and marks of its own, and nothing in it is
escaped. A citation can still be read back, from its right end: a numeral
has no colon, so the last colon stands in front of the column, and the one
before it in front of the line; and the mark for the end has no colon and
is no numeral.
-/

namespace LineMap

/-! ## The last colon -/

section Separator

variable {α : Type} {x : α} {a b c d pre : List α}

/-- If a list starts with its only separator, nothing stands in front of its
last one. -/
theorem eq_nil_of_cons_eq_append (hb : x ∉ b) (h : x :: b = pre ++ x :: d) : pre = [] := by
  cases pre with
  | nil => rfl
  | cons y ys =>
    obtain ⟨-, rfl⟩ := List.cons.inj h
    exact absurd (List.mem_append_right ys List.mem_cons_self) hb

/-- **A list splits at its last separator in one way.** -/
theorem append_cons_inj_of_not_mem (hb : x ∉ b) (hd : x ∉ d) :
    a ++ x :: b = c ++ x :: d ↔ a = c ∧ b = d := by
  constructor
  · intro h
    rcases List.append_eq_append_iff.1 h with ⟨mid, rfl, hmid⟩ | ⟨mid, rfl, hmid⟩
    · obtain rfl := eq_nil_of_cons_eq_append hb hmid
      exact ⟨(List.append_nil a).symm, (List.cons.inj hmid).2⟩
    · obtain rfl := eq_nil_of_cons_eq_append hd hmid
      exact ⟨List.append_nil c, (List.cons.inj hmid).2.symm⟩
  · rintro ⟨rfl, rfl⟩
    rfl

end Separator

/-- The same for a text and its last colon, whatever is in front of it. -/
theorem append_colon_inj {a b c d : String} (hb : ':' ∉ b.toList) (hd : ':' ∉ d.toList) :
    a ++ ":" ++ b = c ++ ":" ++ d ↔ a = c ∧ b = d := by
  have hcolon : ":".toList = [':'] := rfl
  simp only [← String.toList_inj, String.toList_append, hcolon, List.append_assoc,
    List.cons_append, List.nil_append]
  exact append_cons_inj_of_not_mem hb hd

/-! ## Numerals -/

theorem colon_not_mem_toString (n : Nat) : ':' ∉ (toString n).toList :=
  fun h => absurd (isDigit_of_mem_toString h) (by decide)

/-- A sign in front of a numeral is no colon either. -/
theorem colon_not_mem_toString_int (n : Int) : ':' ∉ (toString n).toList := by
  cases n with
  | ofNat n => exact colon_not_mem_toString n
  | negSucc n =>
    rw [toList_toString_negSucc, List.mem_cons, not_or]
    exact ⟨by decide, colon_not_mem_toString (n + 1)⟩

/-! ## Places -/

namespace Location

variable {a b : String} {k l : Location}

theorem text_eq (l : Location) :
    l.text = toString (l.line + 1) ++ ":" ++ toString (l.column.offset + 1) :=
  rfl

/-- Locations that are written alike behind two texts are one location, and
the texts are one text. -/
theorem append_text_inj :
    a ++ ":" ++ k.text = b ++ ":" ++ l.text ↔ a = b ∧ k = l := by
  simp only [text_eq, ← String.append_assoc]
  -- the last colon is in front of the column, the next one in front of the line
  rw [append_colon_inj (colon_not_mem_toString _) (colon_not_mem_toString _),
    append_colon_inj (colon_not_mem_toString_int _) (colon_not_mem_toString_int _),
    Int.toString_eq_repr, Int.toString_eq_repr, Int.repr_inj,
    Nat.toString_eq_repr, Nat.toString_eq_repr, Nat.repr_inj]
  constructor
  · rintro ⟨⟨hab, hline⟩, hcolumn⟩
    exact ⟨hab, Location.ext (by omega) (Position.ext (by omega))⟩
  · rintro ⟨rfl, rfl⟩
    exact ⟨⟨rfl, rfl⟩, rfl⟩

/-- **No location is written like the end of a text**, whatever is in front
of it: behind the last colon stands a numeral, and the mark for the end is
none. -/
theorem append_text_ne : a ++ ":" ++ l.text ≠ b ++ ":" ++ "<eof>" := by
  intro h
  rw [text_eq, ← String.append_assoc, ← String.append_assoc,
    append_colon_inj (colon_not_mem_toString _) (by decide)] at h
  have hmark : '<' ∈ (toString (l.column.offset + 1)).toList := by
    rw [h.2]
    decide
  exact absurd (isDigit_of_mem_toString hmark) (by decide)

end Location

namespace Source

variable {s : Source} {p q : Position}

/-- **A text and a place behind a colon are read back as they are.** -/
theorem append_placeText_inj {a b : String} {k l : Option Location} :
    a ++ ":" ++ placeText k = b ++ ":" ++ placeText l ↔ a = b ∧ k = l := by
  cases k with
  | none =>
    cases l with
    | none => simp only [String.append_left_inj, and_true]
    | some l => simpa [placeText] using Location.append_text_ne.symm
  | some k =>
    cases l with
    | none => simpa [placeText] using Location.append_text_ne
    | some l => simpa [placeText] using Location.append_text_inj

/-- Equal citations are those of one origin's text and one location, or of
the ends of two texts. -/
theorem cite_eq_cite_iff {s₁ s₂ : Source} {p₁ p₂ : Position} :
    s₁.cite p₁ = s₂.cite p₂ ↔ s₁.origin.text = s₂.origin.text ∧ s₁.locate p₁ = s₂.locate p₂ := by
  simp only [cite_eq, locate_eq, Except.ok.injEq, append_placeText_inj]

/-- Inside one text no two positions are cited alike. -/
theorem cite_inj (hp : p.offset < s.text.length) (hq : q.offset < s.text.length) :
    s.cite p = s.cite q ↔ p = q := by
  simp only [cite_eq_cite_iff, locate_eq, if_pos hp, if_pos hq, Except.ok.injEq,
    Option.some.injEq, Text.locationOf_inj hp.le hq.le, true_and]

/-- No position inside a text is cited as its end. -/
theorem cite_ne_eof (hp : p.offset < s.text.length) :
    s.cite p ≠ .ok (s.origin.text ++ ":<eof>") := by
  have hmark : s.origin.text ++ ":<eof>" = s.origin.text ++ ":" ++ placeText none := by
    rw [String.append_assoc]
    rfl
  intro h
  rw [cite_eq, if_pos hp, hmark, Except.ok.injEq, append_placeText_inj] at h
  exact absurd h.2 (by simp)

/-- **A citation says which origin and which location.** Citing never
fails, and two citations are equal exactly if their origins are written
alike and their locations are equal, where the ends of two texts count as
equal. So the positions inside one text all have citations of their own,
and none of them is that of its end. -/
theorem cite_eq_iff_origin_location (s₁ s₂ : Source) (p₁ p₂ : Position) :
    (∃ c₁ c₂ l₁ l₂, s₁.cite p₁ = .ok c₁ ∧ s₂.cite p₂ = .ok c₂ ∧
      s₁.locate p₁ = .ok l₁ ∧ s₂.locate p₂ = .ok l₂ ∧
      (c₁ = c₂ ↔ s₁.origin.text = s₂.origin.text ∧ l₁ = l₂)) ∧
    (p₁.offset < s₁.text.length →
      s₁.cite p₁ ≠ .ok (s₁.origin.text ++ ":<eof>") ∧
      ∀ q : Position, q.offset < s₁.text.length → q ≠ p₁ → s₁.cite q ≠ s₁.cite p₁) := by
  refine ⟨⟨_, _, _, _, s₁.cite_eq p₁, s₂.cite_eq p₂, s₁.locate_eq p₁, s₂.locate_eq p₂,
    append_placeText_inj⟩, fun hp => ⟨cite_ne_eof hp, fun q hq hne h => ?_⟩⟩
  exact hne ((cite_inj hq hp).1 h)

/-- An unknown origin and a name that is written like one. -/
theorem cite_eq_iff_origin_location_of_alike :
    ∃ s₁ s₂ c, ofText .unknown ['a', 'b'] = .ok s₁ ∧
      ofText (.named "<unknown>") ['c', 'd', '\n'] = .ok s₂ ∧
      s₁.cite ⟨1, by decide⟩ = .ok c ∧ s₂.cite ⟨1, by decide⟩ = .ok c ∧
      1 < s₁.text.length ∧ c ≠ "<unknown>:<eof>" ∧ s₁.cite .start ≠ .ok c := by
  obtain ⟨s₁, hs₁, horigin₁, htext₁⟩ := ofText_of_le .unknown
    (by decide : (['a', 'b'] : Text).length ≤ maxOffset)
  obtain ⟨s₂, hs₂, horigin₂, htext₂⟩ := ofText_of_le (.named "<unknown>")
    (by decide : (['c', 'd', '\n'] : Text).length ≤ maxOffset)
  obtain ⟨⟨c₁, c₂, l₁, l₂, hc₁, hc₂, hl₁, hl₂, hiff⟩, hinside⟩ :=
    cite_eq_iff_origin_location s₁ s₂ ⟨1, by decide⟩ ⟨1, by decide⟩
  have hend : 1 < s₁.text.length := by rw [htext₁]; decide
  obtain ⟨heof, hother⟩ := hinside hend
  have hlocation : l₁ = l₂ := by
    rw [locate_eq, htext₁] at hl₁
    rw [locate_eq, htext₂] at hl₂
    exact Except.ok.inj (hl₁.symm.trans hl₂)
  obtain rfl : c₁ = c₂ := hiff.2 ⟨by rw [horigin₁, horigin₂]; rfl, hlocation⟩
  refine ⟨s₁, s₂, c₁, hs₁, hs₂, hc₁, hc₂, hend, ?_, ?_⟩
  · rintro rfl
    rw [horigin₁] at heof
    exact heof hc₁
  · rw [← hc₁]
    exact hother .start (by rw [htext₁]; decide) (by decide)

end Source

end LineMap
