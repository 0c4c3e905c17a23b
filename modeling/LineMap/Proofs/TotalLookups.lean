import LineMap.Proofs.Lookup
/-!
# Total look-ups — nothing is refused once a source is there

The length of a text is checked once, when its source is made. That check
is just strong enough for all that comes later: the starts of the lines,
the columns and the ends of the lines are at most the length, so each of
them fits, even where the last line starts at the greatest offset.
`Sound` says of a table what its look-ups rely on, and the table of every
text that fits is sound.
-/

namespace LineMap

variable {text : Text} {origin : Origin} {fault : Fault}

namespace LineTable

/-- **What look-ups rely on.** -/
structure Sound (t : LineTable) : Prop where
  /-- The search finds a line of the table for every offset inside the text.
  The line starts at the offset or before it, and the column fits. -/
  column : ∀ offset < t.length, ∃ k, ∃ h : k < t.starts.size, t.linesUpTo offset = k + 1 ∧
    t.starts[k] ≤ offset ∧ offset - t.starts[k] ≤ maxOffset
  /-- Every line of the table has an end, not before its start, and the end
  fits. The span of the line has the two as they come. -/
  ends : ∀ k (h : k < t.starts.size), ∃ stop : Nat, t.endOf k = .ok (stop : Int) ∧
    t.starts[k] ≤ stop ∧ stop ≤ maxOffset ∧
    ∃ u, t.spanOfLine k = .ok (some u) ∧ u.low.offset = t.starts[k] ∧ u.high.offset = stop

/-- **The table of a text that fits is sound.** -/
theorem sound_ofText (hlen : text.length ≤ maxOffset) : (ofText text).Sound where
  column offset h := by
    rw [length_ofText] at h
    have hline : text.lineOf offset < text.lineStarts.size := by
      rw [Text.size_lineStarts]
      exact Nat.lt_succ_of_le (text.lineOf_le offset)
    have hstart : text.lineStarts[text.lineOf offset] ≤ offset := by
      rw [Text.getElem_lineStarts, Text.lineStart_le_iff h.le]
    refine ⟨text.lineOf offset, hline, linesUpTo_ofText h.le, hstart, ?_⟩
    omega
  ends k hk := by
    have hcount : k ≤ text.count '\n' := by
      have hsize : k < text.lineStarts.size := hk
      rw [Text.size_lineStarts] at hsize
      omega
    have hstart : (ofText text).starts[k] = text.lineStart k := Text.getElem_lineStarts hk
    have hstep := Text.lineStart_lt_succ hcount
    have hnext := text.lineStart_le (k + 1)
    rw [hstart]
    exact ⟨_, endOf_ofText hcount, by omega, by omega, spanOfLine_ofText hlen hcount⟩

end LineTable

namespace Source

/-- **Only a text that is too long has no source**, and its length is what
the refusal quotes. -/
theorem ofText_eq_error_iff :
    ofText origin text = .error fault ↔
      maxOffset < text.length ∧ fault = .outOfRange (.int text.length) "source length" := by
  rcases Nat.lt_or_ge maxOffset text.length with h | h
  · have hrefused : (LineTable.ofText text).checkLength =
        .error (.outOfRange (.int text.length) "source length") := dif_neg (Nat.not_le.2 h)
    rw [ofText, hrefused, error_bind, Except.error.injEq]
    exact ⟨fun hf => ⟨h, hf.symm⟩, fun hf => hf.2.symm⟩
  · obtain ⟨s, hs, -⟩ := ofText_of_le origin h
    rw [hs]
    exact ⟨fun hf => (by cases hf), fun hf => absurd hf.1 (Nat.not_lt.2 h)⟩

/-- The table of a source is sound. -/
theorem sound_table (s : Source) : s.table.Sound := by
  rw [s.table_eq]
  exact LineTable.sound_ofText s.length_text_le

/-- A source that was made of a text has that text. -/
theorem text_of_ofText {s : Source} (h : ofText origin text = .ok s) : s.text = text :=
  (ofText_eq_ok_iff.1 h).2

theorem exists_spanOfLine (s : Source) (line : Int) : ∃ t, s.spanOfLine line = .ok t := by
  by_cases h : line < 0 ∨ s.lineCount ≤ line
  · exact ⟨none, spanOfLine_eq_none h⟩
  · obtain ⟨k, rfl⟩ := Int.eq_ofNat_of_zero_le (by omega : 0 ≤ line)
    obtain ⟨t, ht, -⟩ := s.spanOfLine_natCast (by omega : k < s.lineCount)
    exact ⟨some t, ht⟩

theorem exists_textOfLine (s : Source) (line : Int) : ∃ x, s.textOfLine line = .ok x := by
  obtain ⟨t, ht⟩ := s.exists_spanOfLine line
  exact ⟨_, by rw [textOfLine, ht, ok_bind, pure_eq_ok]⟩

/-- **Making a source is refused only for the length of the text, and nothing
is refused afterwards.** Whatever the position, the span and the line, each
look-up of a source goes through; it reads its table in bounds, the column
that it computes fits, and the ends of a line come in order and fit. -/
theorem ofText_total_lookups (origin : Origin) (text : Text) :
    (∀ fault, ofText origin text = .error fault ↔
      maxOffset < text.length ∧ fault = .outOfRange (.int text.length) "source length") ∧
    ∀ s, ofText origin text = .ok s →
      (∀ p, (∃ l, s.locate p = .ok l) ∧ ∃ c, s.cite p = .ok c) ∧
      (∀ t, ∃ a b, s.locateSpan t = .ok (a, b)) ∧
      (∀ line, (∃ t, s.spanOfLine line = .ok t) ∧ ∃ x, s.textOfLine line = .ok x) ∧
      s.table = .ofText text ∧ s.table.Sound := by
  refine ⟨fun fault => ofText_eq_error_iff, ?_⟩
  intro s hs
  refine ⟨?_, fun t => ⟨_, _, s.locateSpan_eq t⟩, ?_, ?_, s.sound_table⟩
  · intro p
    exact ⟨⟨_, s.locate_eq p⟩, ⟨_, s.cite_eq p⟩⟩
  · intro line
    exact ⟨s.exists_spanOfLine line, s.exists_textOfLine line⟩
  · rw [s.table_eq, text_of_ofText hs]

/-- In a text of the greatest length that ends in a newline, the last line
starts at the greatest offset and has its span there. -/
theorem ofText_total_lookups_of_greatest :
    ∃ s, ofText .unknown (List.replicate 4294967294 'a' ++ ['\n']) = .ok s ∧
      s.length = maxOffset ∧
      ∃ h : 1 < s.table.starts.size, s.table.starts[1] = maxOffset ∧
        ∃ u, s.spanOfLine 1 = .ok (some u) ∧ u.low.offset = maxOffset ∧
          u.high.offset = maxOffset := by
  have hlen : (List.replicate 4294967294 'a').length = 4294967294 := List.length_replicate
  have hmem : '\n' ∉ List.replicate 4294967294 'a' := by
    intro h
    exact absurd (List.eq_of_mem_replicate h) (by decide)
  -- from here on only the length counts, and the text is not to be unfolded
  generalize List.replicate 4294967294 'a' = a at hlen hmem ⊢
  have hfit : (a ++ ['\n']).length = maxOffset := by
    rw [List.length_append, hlen, List.length_singleton]
  obtain ⟨s, hs, -⟩ := ofText_of_le .unknown hfit.le
  obtain ⟨-, -, -, htable, hsound⟩ := (ofText_total_lookups .unknown (a ++ ['\n'])).2 s hs
  have hcount : (a ++ ['\n']).count '\n' = 1 := by
    rw [List.count_append, List.count_eq_zero.2 hmem, List.count_singleton_self]
  have hsize : 1 < s.table.starts.size := by
    rw [htable]
    show 1 < (Text.lineStarts (a ++ ['\n'])).size
    rw [Text.size_lineStarts, hcount]
    omega
  have hstart : s.table.starts[1] = maxOffset := by
    simp only [htable, LineTable.ofText]
    rw [Text.getElem_lineStarts, Text.lineStart_append_newline hmem, Text.lineStart_zero, hlen]
  obtain ⟨stop, -, hle, hstop, u, hu, hlow, hhigh⟩ := hsound.ends 1 hsize
  refine ⟨s, hs, ?_, hsize, hstart, u, hu, hlow.trans hstart, ?_⟩
  · rw [length, htable, LineTable.length_ofText, hfit]
  · omega

end Source

end LineMap
