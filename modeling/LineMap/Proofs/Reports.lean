import LineMap.Cli.Run
import LineMap.FileSystem.Tree
import LineMap.Proofs.JsonRoundTrip
import LineMap.Proofs.Offsets
import LineMap.Proofs.RequestArguments
import LineMap.Proofs.ScanAgreement
/-!
# Reports — the two forms of an answer say the same

A file that can be loaded and offsets that fit are always answered. The
plain report has a line and the JSON report an entry for every offset, in
the order in which they were asked, and both are made of the place that
the text has for the offset. The JSON report is looked at as a program
does that reads it back, and not as the value that it was written from.
-/

namespace LineMap.Cli

variable {fs : FileSystem} {home : Option String} {file : String} {request : Request}
  {outcome : Outcome} {s : Source} {offsets : List Int} {positions : List Position}

/-! ## What is answered -/

/-- **A request is answered with an outcome**: by itself, and in a run with
any arguments that ask for it. -/
def Answers (fs : FileSystem) (home : Option String) (request : Request) (outcome : Outcome) :
    Prop :=
  answer fs home request = .ok outcome ∧
    ∀ arguments, Command.ofArguments arguments = .ok (.locate request) →
      run fs home arguments = .ok outcome

theorem answers_of_answer (h : answer fs home request = .ok outcome) :
    Answers fs home request outcome := by
  refine ⟨h, fun arguments harguments => ?_⟩
  rw [run, harguments]
  exact h

/-- Where no offset has too many digits, there are such arguments. -/
theorem Answers.run_arguments (h : Answers fs home request outcome) (hne : request.offsets ≠ [])
    (hshort : ∀ o ∈ request.offsets, Decimal.digitCount o ≤ Decimal.digitLimit) :
    run fs home request.arguments = .ok outcome :=
  h.2 _ (ofArguments_of_short hne hshort)

/-- A request is prepared once the file is loaded and all offsets fit. -/
theorem prepare_eq_ok (hload : Source.load fs home file = .ok s)
    (hpositions : offsets.mapM (fun o => Position.ofSize (.int o)) = .ok positions) (json : Bool) :
    prepare fs home ⟨file, offsets, json⟩ = .ok (s, positions) := by
  rw [prepare, hload, ok_bind, hpositions]
  rfl

/-! ## What is reported -/

/-- The place of a position in a source, if it has one there. -/
def placeOf (s : Source) (p : Position) : Option Location :=
  if p.offset < s.text.length then some (s.text.locationOf p) else none

theorem locate_eq_placeOf (s : Source) (p : Position) : s.locate p = .ok (placeOf s p) :=
  s.locate_eq p

theorem locateByScan_eq_placeOf (s : Source) (p : Position) :
    s.text.locateByScan p.offset = .ok (placeOf s p) :=
  s.text.locateByScan_eq p

/-- The line of a position. -/
def lineFor (s : Source) (p : Position) : String :=
  s.origin.text ++ ":" ++ Source.placeText (placeOf s p)

theorem lineFor_of_none {p : Position} (h : placeOf s p = none) :
    lineFor s p = s.origin.text ++ ":<eof>" := by
  rw [lineFor, h, String.append_assoc]
  rfl

theorem lineFor_of_some {p : Position} {l : Location} (h : placeOf s p = some l) :
    lineFor s p = s.origin.text ++ ":" ++ toString (l.line + 1) ++ ":" ++
      toString (l.column.offset + 1) := by
  rw [lineFor, h, Source.placeText, Location.text_eq, ← String.append_assoc,
    ← String.append_assoc]

/-- **The plain report** never fails. -/
theorem plainReport_eq (s : Source) (positions : List Position) :
    plainReport s positions = .ok (String.join ((positions.map (lineFor s)).map (· ++ "\n"))) := by
  have hlines : positions.mapM s.cite = .ok (positions.map (lineFor s)) :=
    mapM_eq_ok fun p _ => s.cite_eq p
  rw [plainReport, hlines]
  rfl

/-- **The JSON report** never fails, and it is read back as its value. -/
theorem exists_jsonReport_eq (s : Source) (positions : List Position) :
    ∃ report, jsonReport s positions = .ok report ∧
      JsonValue.ofText? report = some (.object
        [("locations", .array (positions.map fun p => entry p (placeOf s p))),
          ("origin", .text s.origin.text)]) := by
  have hentries : positions.mapM (fun p => (s.locate p).map (entry p)) =
      .ok (positions.map fun p => entry p (placeOf s p)) := by
    refine mapM_eq_ok fun p _ => ?_
    rw [locate_eq_placeOf]
    rfl
  have hbreak : ∀ c ∈ "\n".toList, JsonValue.isBlank c := List.all_eq_true.1 rfl
  refine ⟨_, ?_, JsonValue.ofText?_render _ hbreak⟩
  rw [jsonReport, reportValue, hentries]
  rfl

/-! ## What both reports say -/

/-- An entry is null exactly if the line names the end of the text. -/
theorem entry_eq_null_iff {p : Position} {place : Option Location} {origin : String} :
    entry p place = .null ↔ origin ++ ":" ++ Source.placeText place = origin ++ ":<eof>" := by
  have hend : origin ++ ":<eof>" = origin ++ ":" ++ Source.placeText none := by
    rw [String.append_assoc]
    rfl
  rw [hend, Source.append_placeText_inj]
  cases place with
  | none => exact ⟨fun _ => ⟨rfl, rfl⟩, fun _ => rfl⟩
  | some l => exact ⟨fun h => (by cases h), fun h => (by cases h.2)⟩

/-- **A line and an entry tell the place that a scan of the text finds** for
an offset: they name the end of the text together, and otherwise the entry
has the offset, and both have one line and one column, counted from one. -/
def TellPlace (s : Source) (o : Int) (line : String) (entry : JsonValue) : Prop :=
  (entry = .null ↔ line = s.origin.text ++ ":<eof>") ∧
  (entry = .null ↔ s.text.locateByScan o = .ok none) ∧
  (entry ≠ .null → ∃ l : Location, s.text.locateByScan o = .ok (some l) ∧
    entry = .object [("column", .number (l.column.offset + 1)), ("line", .number (l.line + 1)),
      ("offset", .number o)] ∧
    line = s.origin.text ++ ":" ++ toString (l.line + 1) ++ ":" ++
      toString (l.column.offset + 1))

theorem tellPlace_entry (s : Source) (p : Position) :
    TellPlace s p.offset (lineFor s p) (entry p (placeOf s p)) := by
  rw [TellPlace, locateByScan_eq_placeOf]
  refine ⟨entry_eq_null_iff, ?_, fun hne => ?_⟩
  · cases placeOf s p with
    | none => exact ⟨fun _ => rfl, fun _ => rfl⟩
    | some l => exact ⟨fun h => (by cases h), fun h => (by cases h)⟩
  · cases hplace : placeOf s p with
    | none =>
      rw [hplace] at hne
      exact absurd rfl hne
    | some l => exact ⟨l, rfl, rfl, lineFor_of_some hplace⟩

/-- The answer in plain mode. -/
theorem answer_plain (hload : Source.load fs home file = .ok s)
    (hpositions : offsets.mapM (fun o => Position.ofSize (.int o)) = .ok positions) :
    answer fs home ⟨file, offsets, false⟩ =
      .ok ⟨0, String.join ((positions.map (lineFor s)).map (· ++ "\n")), ""⟩ := by
  rw [answer, prepare_eq_ok hload hpositions]
  dsimp only
  rw [if_neg (by decide), plainReport_eq]
  rfl

/-- The answer in JSON mode. -/
theorem exists_answer_json (hload : Source.load fs home file = .ok s)
    (hpositions : offsets.mapM (fun o => Position.ofSize (.int o)) = .ok positions) :
    ∃ report, answer fs home ⟨file, offsets, true⟩ = .ok ⟨0, report, ""⟩ ∧
      JsonValue.ofText? report = some (.object
        [("locations", .array (positions.map fun p => entry p (placeOf s p))),
          ("origin", .text s.origin.text)]) := by
  obtain ⟨report, hreport, hread⟩ := exists_jsonReport_eq s positions
  refine ⟨report, ?_, hread⟩
  rw [answer, prepare_eq_ok hload hpositions]
  dsimp only
  rw [if_pos rfl, hreport]
  rfl

/-- **Both reports agree, and with a scan of the text.** If a file can be
loaded, offsets that fit are answered in both modes, with nothing else but
the report: as many lines and as many entries as offsets, the entries under
the name of the origin, and for each offset, in its turn, a line and an
entry that tell its place. -/
theorem reports_agree (hload : Source.load fs home file = .ok s)
    (hoffsets : ∀ o ∈ offsets, 0 ≤ o ∧ o ≤ maxOffset) :
    ∃ (lines : List String) (entries : List JsonValue) (report : String),
      Answers fs home ⟨file, offsets, false⟩ ⟨0, String.join (lines.map (· ++ "\n")), ""⟩ ∧
      Answers fs home ⟨file, offsets, true⟩ ⟨0, report, ""⟩ ∧
      JsonValue.ofText? report =
        some (.object [("locations", .array entries), ("origin", .text s.origin.text)]) ∧
      lines.length = offsets.length ∧ entries.length = offsets.length ∧
      ∀ (i : Nat) (o : Int), offsets[i]? = some o →
        ∃ line entry, lines[i]? = some line ∧ entries[i]? = some entry ∧
          TellPlace s o line entry := by
  obtain ⟨positions, hpositions⟩ := Position.exists_mapM_ofSize_iff.2 hoffsets
  obtain ⟨report, hjson, hread⟩ := exists_answer_json hload hpositions
  have hplain := answer_plain hload hpositions
  have hmap : offsets = positions.map fun p => (p.offset : Int) :=
    (mapM_eq_ok_iff fun _ _ => Position.ofSize_int_eq_ok_iff).1 hpositions
  refine ⟨positions.map (lineFor s), positions.map fun p => entry p (placeOf s p), report,
    answers_of_answer hplain, answers_of_answer hjson, hread, ?_, ?_, fun i o ho => ?_⟩
  · rw [hmap, List.length_map, List.length_map]
  · rw [hmap, List.length_map, List.length_map]
  · rw [hmap, List.getElem?_map, Option.map_eq_some_iff] at ho
    obtain ⟨p, hp, rfl⟩ := ho
    refine ⟨lineFor s p, entry p (placeOf s p), ?_, ?_, tellPlace_entry s p⟩
    · rw [List.getElem?_map, hp, Option.map_some]
    · rw [List.getElem?_map, hp, Option.map_some]

/-- Offsets that are not sorted, one of them asked for twice and one past
the end. -/
theorem reports_agree_of_repeated :
    let tree := (FileTree.mk [] []).insert (Path.ofString "a.txt")
      (.file [0x61, 0x62, 0x0A, 0x0D, 0x63])
    ∃ (lines : List String) (entries : List JsonValue) (report : String),
      run tree.toFileSystem none ["a.txt", "4", "0", "4", "9"] =
        .ok ⟨0, String.join (lines.map (· ++ "\n")), ""⟩ ∧
      run tree.toFileSystem none ["--json", "a.txt", "4", "0", "4", "9"] = .ok ⟨0, report, ""⟩ ∧
      JsonValue.ofText? report =
        some (.object [("locations", .array entries), ("origin", .text "a.txt")]) ∧
      lines[2]? = some "a.txt:2:2" ∧ lines[3]? = some "a.txt:<eof>" ∧ entries[3]? = some .null := by
  intro tree
  have hload : Source.load tree.toFileSystem none "a.txt" =
      .ok ⟨.file (Path.ofString "a.txt"), ['a', 'b', '\n', '\r', 'c'], .ofText _, rfl, by decide⟩ :=
    rfl
  obtain ⟨lines, entries, report, hplain, hjson, hread, -, -, htell⟩ :=
    reports_agree hload (by decide : ∀ o ∈ [4, 0, 4, 9], 0 ≤ o ∧ o ≤ (maxOffset : Int))
  obtain ⟨line, entry, hline, -, heof, hnone, hplace⟩ := htell 2 4 rfl
  obtain ⟨line', entry', hline', hentry', heof', hnone', -⟩ := htell 3 9 rfl
  have hnull : entry' = .null := hnone'.2 rfl
  have hinside : entry ≠ .null := fun h => by cases hnone.1 h
  obtain ⟨l, hscan, -, htext⟩ := hplace hinside
  have hl : l = ⟨1, ⟨1, by decide⟩⟩ := (Option.some.inj (Except.ok.inj hscan)).symm
  refine ⟨lines, entries, report, hplain.2 _ rfl, hjson.2 _ rfl, hread, ?_, ?_, ?_⟩
  · rw [hline, htext, hl]
    rfl
  · rw [hline', heof'.1 hnull]
    rfl
  · rw [hentry', hnull]

end LineMap.Cli
