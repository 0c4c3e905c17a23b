import LineMap.Proofs.Lookup
/-!
# Scan agreement — the table answers like the scan

The search in the table and the scan of the text share no step, and both
arrive at the location that the text gives a position. So they agree
wherever either of them is asked.
-/

namespace LineMap

namespace Source

/-- A source and the scan of its text give every position one answer. -/
theorem locate_eq_locateByScan (s : Source) (p : Position) :
    s.locate p = s.text.locateByScan p.offset := by
  rw [locate_eq, Text.locateByScan_eq]

/-- **Every offset that fits is located as by the scan**: at the end of the
text and past it there is nothing, and in front of the end both find one
location. -/
theorem locateArgument_eq_locateByScan (origin : Origin) (text : Text) (offset : Int)
    (hlen : text.length ≤ maxOffset) (h0 : 0 ≤ offset) (h1 : offset ≤ maxOffset) :
    ∃ s, ofText origin text = .ok s ∧
      s.locateArgument (.int offset) = text.locateByScan offset ∧
      if text.length ≤ offset then text.locateByScan offset = .ok none
      else ∃ l, text.locateByScan offset = .ok (some l) := by
  obtain ⟨s, hs, -, rfl⟩ := ofText_of_le origin hlen
  obtain ⟨n, rfl⟩ := Int.eq_ofNat_of_zero_le h0
  have hn : n ≤ maxOffset := by omega
  have hscan := s.text.locateByScan_eq ⟨n, hn⟩
  refine ⟨s, hs, ?_, ?_⟩
  · rw [locateArgument_natCast s hn, locate_eq_locateByScan]
  · dsimp only at hscan
    rw [hscan]
    split
    · rw [if_neg (by omega)]
    · exact ⟨_, by rw [if_pos (by omega)]⟩

/-- Right after two newlines in a row both find the start of the third
line. -/
theorem locateArgument_eq_locateByScan_after_newlines :
    (['a', 'b', '\n', '\n', 'c'] : Text).length ≤ maxOffset ∧ (0 : Int) ≤ 4 ∧
      (4 : Int) ≤ maxOffset ∧
      ∃ s, ofText .unknown ['a', 'b', '\n', '\n', 'c'] = .ok s ∧
        s.locateArgument (.int 4) = .ok (some ⟨2, .start⟩) := by
  obtain ⟨s, hs, hscan, -⟩ := locateArgument_eq_locateByScan .unknown
    ['a', 'b', '\n', '\n', 'c'] 4 (by decide) (by decide) (by decide)
  exact ⟨by decide, by decide, by decide, s, hs, hscan.trans rfl⟩

end Source

end LineMap
