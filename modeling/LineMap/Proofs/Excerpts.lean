import LineMap.Proofs.MadeSpans
import LineMap.Proofs.SpanEnds
/-!
# Excerpts — parts of a text, cut out by spans

An excerpt is refused only for a high end past the text, and otherwise it is
as long as its span is wide, so nothing is ever cut short in silence. Cuts
that meet are one cut, and so the excerpts from each of a row of points to
the next are the text again, once they start and end where it does. The text
of a line is cut out with no check at all. It needs none: no line ends past
the text, and the checked excerpt of its span is the same.
-/

namespace LineMap

namespace Text

variable {low mid high : Nat}

/-- **Two cuts that meet are one cut.** -/
theorem slice_append_slice (text : Text) (h₁ : low ≤ mid) (h₂ : mid ≤ high) :
    text.slice low mid ++ text.slice mid high = text.slice low high := by
  have hmid : low + (mid - low) = mid := by omega
  have hwidth : high - low = (mid - low) + (high - mid) := by omega
  have hdrop : text.drop mid = (text.drop low).drop (mid - low) := by
    rw [List.drop_drop, hmid]
  unfold slice
  rw [hwidth, List.take_add, hdrop]

end Text

namespace Source

variable {s : Source} {t : Span} {fault : Fault} {low high k : Nat} {cuts : List Nat}

/-- **Only a span that goes past the end has no excerpt**, wherever it
starts. -/
theorem excerpt_eq_error_iff :
    s.excerpt t = .error fault ↔
      s.text.length < t.high.offset ∧ fault = .outOfRange (.int t.high.offset) "span end" := by
  rcases Nat.lt_or_ge s.text.length t.high.offset with h | h
  · have hrefused : s.excerpt t = .error (.outOfRange (.int t.high.offset) "span end") := by
      rw [excerpt, length_eq, if_pos h]
    rw [hrefused, Except.error.injEq]
    exact ⟨fun hf => ⟨h, hf.symm⟩, fun hf => hf.2.symm⟩
  · rw [excerpt_of_le h]
    constructor
    · intro hf
      cases hf
    · rintro ⟨hlt, -⟩
      omega

/-- An excerpt has as many characters as its span is wide. -/
theorem exists_excerpt_of_le (h : t.high.offset ≤ s.text.length) :
    ∃ e, s.excerpt t = .ok e ∧ e.length = t.width :=
  ⟨_, excerpt_of_le h, Text.length_slice h⟩

/-! ## Between cut points -/

/-- The excerpt from one cut point to another. -/
def excerptBetween (s : Source) (low high : Nat) : Except Fault Text := do
  s.excerpt (← Span.ofArguments (.int low) (.int high))

theorem excerptBetween_eq (hle : low ≤ high) (hhigh : high ≤ s.text.length) :
    s.excerptBetween low high = .ok (s.text.slice low high) := by
  have hfit := s.length_text_le
  have hoffsets : Span.AreOffsets low high := ⟨by omega, by omega⟩
  obtain ⟨t, ht⟩ := hoffsets.exists_liesBetween
  have hmade : Span.ofArguments (.int low) (.int high) = .ok t :=
    Span.ofArguments_eq_ok_iff.2 ⟨low, high, rfl, rfl, ht⟩
  obtain ⟨htlow, hthigh⟩ := ht
  have hl : t.low.offset = low := by omega
  have hh : t.high.offset = high := by omega
  rw [excerptBetween, hmade, ok_bind, excerpt_of_le (by omega), hl, hh]

/-- **The excerpts from each point of a row to the next join to one cut**, from
the first point to the last. By induction on the points behind the first. -/
theorem exists_mapM_excerptBetween (hsorted : (low :: cuts).Pairwise (· ≤ ·))
    (hlast : (low :: cuts).getLast? = some high) (hhigh : high ≤ s.text.length) :
    ∃ pieces, ((low :: cuts).zip cuts).mapM (fun c => s.excerptBetween c.1 c.2) = .ok pieces ∧
      pieces.flatten = s.text.slice low high := by
  induction cuts generalizing low with
  | nil =>
    obtain rfl : low = high := Option.some.inj hlast
    exact ⟨[], rfl, (Text.slice_self _ _).symm⟩
  | cons next cuts ih =>
    rw [List.getLast?_cons_cons] at hlast
    have hnext : low ≤ next := List.rel_of_pairwise_cons hsorted List.mem_cons_self
    have hle : next ≤ high := by
      rcases List.mem_cons.1 (List.mem_of_getLast? hlast) with rfl | hmem
      · exact Nat.le_refl _
      · exact List.rel_of_pairwise_cons hsorted.of_cons hmem
    obtain ⟨pieces, hpieces, hjoin⟩ := ih hsorted.of_cons hlast
    refine ⟨s.text.slice low next :: pieces, ?_, ?_⟩
    · rw [List.zip_cons_cons, List.mapM_cons, excerptBetween_eq hnext (by omega), ok_bind, hpieces]
      rfl
    · rw [List.flatten_cons, hjoin, Text.slice_append_slice s.text hnext hle]

/-! ## Lines -/

/-- No line ends past the text, so its text is the checked excerpt. -/
theorem exists_textOfLine_eq_excerpt (h : k < s.lineCount) :
    ∃ t e, s.spanOfLine k = .ok (some t) ∧ t.high.offset ≤ s.text.length ∧
      s.textOfLine k = .ok (some e) ∧ s.excerpt t = .ok e := by
  obtain ⟨t, ht, hlow, hhigh⟩ := s.spanOfLine_natCast h
  have hend := s.text.lineStart_le (k + 1)
  have hle : t.high.offset ≤ s.text.length := by omega
  refine ⟨t, _, ht, hle, s.textOfLine_natCast h, ?_⟩
  rw [excerpt_of_le hle, hlow, hhigh, Text.lineText]

/-- **Excerpts neither lose nor cut short.** A span has no excerpt exactly if
its high end is past the text, and that end is what the refusal quotes;
otherwise the excerpt is as long as the span is wide. Excerpts between the
points of a row that ascends from the start of the text to its end are
together the text. And the text of a line is the excerpt of its span, which
ends inside the text. -/
theorem excerpts_join_text (s : Source) :
    (∀ t fault, s.excerpt t = .error fault ↔
      s.text.length < t.high.offset ∧ fault = .outOfRange (.int t.high.offset) "span end") ∧
    (∀ t : Span, t.high.offset ≤ s.text.length → ∃ e, s.excerpt t = .ok e ∧ e.length = t.width) ∧
    (∀ cuts : List Nat, cuts.head? = some 0 → cuts.getLast? = some s.text.length →
      cuts.Pairwise (· ≤ ·) →
      ∃ pieces, (cuts.zip cuts.tail).mapM (fun c => s.excerptBetween c.1 c.2) = .ok pieces ∧
        pieces.flatten = s.text) ∧
    ∀ line : Int, 0 ≤ line → line < s.lineCount →
      ∃ t e, s.spanOfLine line = .ok (some t) ∧ t.high.offset ≤ s.text.length ∧
        s.textOfLine line = .ok (some e) ∧ s.excerpt t = .ok e := by
  refine ⟨fun t fault => excerpt_eq_error_iff, fun t ht => exists_excerpt_of_le ht, ?_, ?_⟩
  · intro cuts hhead hlast hsorted
    obtain ⟨rest, rfl⟩ := List.head?_eq_some_iff.1 hhead
    obtain ⟨pieces, hpieces, hjoin⟩ := exists_mapM_excerptBetween hsorted hlast (Nat.le_refl _)
    exact ⟨pieces, hpieces, by rw [hjoin, Text.slice_all]⟩
  · intro line hlow hhigh
    obtain ⟨k, rfl⟩ := Int.eq_ofNat_of_zero_le hlow
    exact exists_textOfLine_eq_excerpt (by omega)

/-- Points that repeat, in the text and at its end; a span that ends with the
text and one that ends past it; and the empty line behind the last newline. -/
theorem excerpts_join_text_at_repeated_points :
    ∃ s, ofText .unknown ['a', '\n', 'b', '\n'] = .ok s ∧
      (∃ pieces, [(0, 2), (2, 2), (2, 4), (4, 4)].mapM (fun c => s.excerptBetween c.1 c.2) =
        .ok pieces ∧ pieces.flatten = ['a', '\n', 'b', '\n']) ∧
      (∃ e, s.excerpt (.between ⟨1, by decide⟩ ⟨4, by decide⟩) = .ok e ∧ e.length = 3) ∧
      s.excerpt (.between ⟨1, by decide⟩ ⟨5, by decide⟩) =
        .error (.outOfRange (.int 5) "span end") ∧
      ∃ t e, s.spanOfLine 2 = .ok (some t) ∧ s.textOfLine 2 = .ok (some e) ∧
        s.excerpt t = .ok e := by
  obtain ⟨s, hs, -, htext⟩ := ofText_of_le .unknown
    (by decide : (['a', '\n', 'b', '\n'] : Text).length ≤ maxOffset)
  have hlen : s.text.length = 4 := by rw [htext]; rfl
  have hcount : s.lineCount = 3 := by rw [lineCount_eq, htext]; rfl
  obtain ⟨hrefused, hfits, hjoin, hlines⟩ := excerpts_join_text s
  obtain ⟨pieces, hpieces, hflat⟩ := hjoin [0, 2, 2, 4, 4] rfl (by rw [hlen]; rfl) (by decide)
  obtain ⟨t, e, ht, -, he, hexcerpt⟩ := hlines 2 (by decide) (by rw [hcount]; decide)
  refine ⟨s, hs, ⟨pieces, hpieces, hflat.trans htext⟩, ?_, ?_, t, e, ht, he, hexcerpt⟩
  · exact hfits (.between ⟨1, by decide⟩ ⟨4, by decide⟩) (by rw [hlen]; decide)
  · exact (hrefused _ _).2 ⟨by rw [hlen]; decide, rfl⟩

end Source

end LineMap
