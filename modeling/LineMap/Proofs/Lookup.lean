import LineMap.Proofs.LineStarts
import LineMap.Proofs.Outcomes
import LineMap.Source.Coercion
/-!
# Look-ups — what the checked look-ups find

A look-up in the table of a text never leaves the table, and every offset
that it computes fits. So each checked look-up has a plain equation: the
search finds the line of an offset, `locate` its location, and
`spanOfLine` the offsets from the start of a line up to the newline in
front of the next start.
-/

namespace LineMap

variable {text : Text} {k n offset low high : Nat} {starts : Array Nat}

namespace LineTable

/-! ## The search -/

/-- The first `n` starts are at an offset or before it, and the others are
after it. -/
def SplitsAt (starts : Array Nat) (offset n : Nat) : Prop :=
  ∀ i (h : i < starts.size), starts[i] ≤ offset ↔ i < n

/-- **The search finds the split** wherever its window holds it: each half
that it drops lies on one side. -/
theorem upperBound_eq (hsplit : SplitsAt starts offset n) (h : high ≤ starts.size)
    (hlow : low ≤ n) (hhigh : n ≤ high) : upperBound starts offset low high h = n := by
  fun_induction upperBound starts offset low high h with
  | case1 low high h hlt hmid hcmp ih =>
    -- the middle start is after the offset, so the split is not past it
    have hn : n ≤ _ := Nat.le_of_not_lt ((hsplit _ hmid).not.1 (by omega))
    exact ih hlow hn
  | case2 low high h hlt hmid hcmp ih =>
    have hn : _ < n := (hsplit _ hmid).1 (by omega)
    exact ih hn hhigh
  | case3 low high h hlt => omega

/-- The starts of a text split after the line of an offset. -/
theorem splitsAt_lineOf (h : offset ≤ text.length) :
    SplitsAt text.lineStarts offset (text.lineOf offset + 1) := by
  intro i hi
  rw [Text.getElem_lineStarts, Text.lineStart_le_iff h, Nat.lt_succ_iff]

/-- As many lines start at an offset or before it as its line has before it,
and its own. -/
theorem linesUpTo_ofText (h : offset ≤ text.length) :
    (ofText text).linesUpTo offset = text.lineOf offset + 1 := by
  have hle := text.lineOf_le offset
  refine upperBound_eq (splitsAt_lineOf h) _ (Nat.zero_le _) ?_
  rw [ofText, Text.size_lineStarts]
  omega

/-! ## The table of a text -/

@[simp] theorem length_ofText (text : Text) : (ofText text).length = text.length := rfl

@[simp] theorem lineCount_ofText (text : Text) :
    (ofText text).lineCount = text.count '\n' + 1 :=
  text.size_lineStarts

theorem startOf_ofText (h : k ≤ text.count '\n') :
    (ofText text).startOf k = .ok (text.lineStart k) := by
  have hk : k < text.lineStarts.size := by rw [Text.size_lineStarts]; omega
  rw [startOf, if_neg (by omega), Int.toNat_natCast, ofText, Array.getElem?_eq_getElem hk,
    Text.getElem_lineStarts]

/-- **The table locates a position where the text has it.** -/
theorem locate_ofText (text : Text) (p : Position) :
    (ofText text).locate p =
      .ok (if p.offset < text.length then some (text.locationOf p) else none) := by
  unfold locate
  rw [length_ofText]
  by_cases h : p.offset < text.length
  · have hline : ((ofText text).linesUpTo p.offset : Int) - 1 = text.lineOf p.offset := by
      rw [linesUpTo_ofText h.le]; omega
    -- what is left of the offset past the start of its line is its column
    have hsum := Text.lineStart_lineOf_add_columnOf h.le
    have hcolumn : (p.offset : Int) - text.lineStart (text.lineOf p.offset) =
        text.columnOf p.offset := by omega
    have hfit := Position.ofInt_natCast ((text.columnOf_le p.offset).trans p.offset_le)
    rw [if_neg (Nat.not_le.2 h), if_pos h]
    simp only [hline, startOf_ofText (text.lineOf_le _), ok_bind, hcolumn, hfit]
    rfl
  · rw [if_pos (Nat.not_lt.1 h), if_neg h]

/-- A line ends before the newline that the next line starts after. -/
theorem endOf_ofText (h : k ≤ text.count '\n') :
    (ofText text).endOf k = .ok ((text.lineStart (k + 1) - 1 : Nat) : Int) := by
  have hpos := text.lineStart_succ_pos k
  unfold endOf
  rw [lineCount_ofText]
  split
  next hlt =>
    have hnext : ((k : Int) + 1) = ((k + 1 : Nat) : Int) := by omega
    rw [hnext, startOf_ofText (by omega)]
    simp only [ok_bind, pure_eq_ok, Except.map, Except.ok.injEq]
    omega
  next hge =>
    rw [Text.lineStart_of_lt (by omega)]
    rfl

/-- **The span of a line** runs from the start of the line up to the newline
in front of the next start. -/
theorem spanOfLine_ofText (hlen : text.length ≤ maxOffset) (h : k ≤ text.count '\n') :
    ∃ t : Span, (ofText text).spanOfLine k = .ok (some t) ∧
      t.low.offset = text.lineStart k ∧ t.high.offset = text.lineStart (k + 1) - 1 := by
  have hlt := Text.lineStart_lt_succ h
  have hle := text.lineStart_le (k + 1)
  have hlow := Position.ofInt_natCast (n := text.lineStart k) (by omega)
  have hhigh := Position.ofInt_natCast (n := text.lineStart (k + 1) - 1) (by omega)
  refine ⟨⟨⟨text.lineStart k, by omega⟩, ⟨text.lineStart (k + 1) - 1, by omega⟩, ?_⟩, ?_, rfl, rfl⟩
  · rw [Position.le_iff]; dsimp only; omega
  · rw [spanOfLine, if_pos ⟨by omega, by rw [lineCount_ofText]; omega⟩]
    simp only [startOf_ofText h, endOf_ofText h, ok_bind, Span.ofInts, hlow, hhigh]
    rw [Span.between_of_le]
    rfl

/-- There is no span for any other number. -/
theorem spanOfLine_eq_none {t : LineTable} {line : Int} (h : line < 0 ∨ t.lineCount ≤ line) :
    t.spanOfLine line = .ok none := by
  unfold spanOfLine
  rw [if_neg (by omega)]

end LineTable

/-! ## Sources -/

namespace Source

/-- **A text that fits has a source**, whatever its origin. -/
theorem ofText_of_le (origin : Origin) (h : text.length ≤ maxOffset) :
    ∃ s, ofText origin text = .ok s ∧ s.origin = origin ∧ s.text = text := by
  have hfits : (LineTable.ofText text).checkLength = .ok ⟨h⟩ := dif_pos h
  refine ⟨⟨origin, text, .ofText text, rfl, h⟩, ?_, rfl, rfl⟩
  rw [ofText, hfits]
  rfl

theorem length_eq (s : Source) : s.length = s.text.length := by
  rw [length, s.table_eq, LineTable.length_ofText]

theorem length_text_le (s : Source) : s.text.length ≤ maxOffset := by
  rw [← length_eq]
  exact s.length_le

/-- The source that a text gives has its origin and that text, and no other
source has both. -/
theorem ofText_eq_ok_iff {origin : Origin} {s : Source} :
    ofText origin text = .ok s ↔ s.origin = origin ∧ s.text = text := by
  constructor
  · intro h
    obtain ⟨fits, -, hs⟩ := bind_eq_ok_iff.1 h
    obtain rfl := Except.ok.inj hs
    exact ⟨rfl, rfl⟩
  · rintro ⟨rfl, rfl⟩
    obtain ⟨t, ht, horigin, htext⟩ := ofText_of_le s.origin s.length_text_le
    rw [ht, ext horigin htext]

theorem lineCount_eq (s : Source) : s.lineCount = s.text.count '\n' + 1 := by
  rw [lineCount, s.table_eq, LineTable.lineCount_ofText]

/-- **A source locates a position where its text has it.** -/
theorem locate_eq (s : Source) (p : Position) :
    s.locate p = .ok (if p.offset < s.text.length then some (s.text.locationOf p) else none) := by
  rw [locate, s.table_eq, LineTable.locate_ofText]

/-- The two ends of a span are located like any two positions. -/
theorem locateSpan_eq (s : Source) (t : Span) :
    s.locateSpan t =
      .ok (if t.low.offset < s.text.length then some (s.text.locationOf t.low) else none,
        if t.high.offset < s.text.length then some (s.text.locationOf t.high) else none) := by
  have hlow := s.locate_eq t.low
  have hhigh := s.locate_eq t.high
  rw [locate] at hlow hhigh
  rw [locateSpan, LineTable.locateSpan, hlow, ok_bind, hhigh, ok_bind, pure_eq_ok]

/-- **A citation** writes the origin and that location. -/
theorem cite_eq (s : Source) (p : Position) :
    s.cite p = .ok (s.origin.text ++ ":" ++
      placeText (if p.offset < s.text.length then some (s.text.locationOf p) else none)) := by
  rw [cite, locate_eq, ok_bind, pure_eq_ok]

/-- An integer that fits is the offset of a position. -/
theorem locateArgument_natCast (s : Source) (h : n ≤ maxOffset) :
    s.locateArgument (.int n) = s.locate ⟨n, h⟩ := by
  have hcoerce : Position.coerce (.int n) = Position.ofInt n := rfl
  rw [locateArgument, hcoerce, Position.ofInt_natCast h, ok_bind]

/-- **An offset inside the text has a location**: its line and its column. -/
theorem exists_locateArgument (s : Source) (h : n < s.text.length) :
    ∃ l, s.locateArgument (.int n) = .ok (some l) ∧
      l.line = s.text.lineOf n ∧ l.column.offset = s.text.columnOf n := by
  have hfit : n ≤ maxOffset := h.le.trans s.length_text_le
  refine ⟨s.text.locationOf ⟨n, hfit⟩, ?_, rfl, rfl⟩
  rw [locateArgument_natCast s hfit, locate_eq, if_pos h]

theorem spanOfLine_natCast (s : Source) (h : k < s.lineCount) :
    ∃ t : Span, s.spanOfLine k = .ok (some t) ∧
      t.low.offset = s.text.lineStart k ∧ t.high.offset = s.text.lineStart (k + 1) - 1 := by
  rw [lineCount_eq] at h
  rw [spanOfLine, s.table_eq]
  exact LineTable.spanOfLine_ofText s.length_text_le (by omega)

/-- The text of a line is cut by the span of the line. -/
theorem textOfLine_natCast (s : Source) (h : k < s.lineCount) :
    s.textOfLine k = .ok (some (s.text.lineText k)) := by
  obtain ⟨t, ht, hlow, hhigh⟩ := s.spanOfLine_natCast h
  rw [textOfLine, ht, ok_bind, Option.map_some, Span.textOf, hlow, hhigh, pure_eq_ok,
    Text.lineText]

/-- Other numbers have no line. -/
theorem spanOfLine_eq_none {s : Source} {line : Int} (h : line < 0 ∨ s.lineCount ≤ line) :
    s.spanOfLine line = .ok none :=
  LineTable.spanOfLine_eq_none h

theorem textOfLine_eq_none {s : Source} {line : Int} (h : line < 0 ∨ s.lineCount ≤ line) :
    s.textOfLine line = .ok none := by
  rw [textOfLine, spanOfLine_eq_none h, ok_bind, Option.map_none, pure_eq_ok]

end Source

end LineMap
