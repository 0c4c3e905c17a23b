import LineMap.Proofs.HomePaths
import LineMap.Proofs.Reports
import LineMap.Proofs.TotalLookups
/-!
# All or nothing — a request is reported in full or refused in full

The command loads the file and checks every offset before it prints
anything. So a request either has a report of all its offsets on one
stream, or one failure and nothing else on the other, and no failure is
left that could come in the middle of a report. The failure is that of the
file, if the file cannot be loaded, and otherwise that of the first offset
that does not fit (`Ends`). An offset can be as great as its numeral is
read: one digit more, and the arguments ask for nothing.
-/

namespace LineMap.Cli

variable {fs : FileSystem} {home : Option String} {file : String} {request : Request}
  {outcome : Outcome} {s : Source} {p : Path} {fault : Fault} {offsets front back : List Int}
  {o : Int}

/-! ## What is printed -/

/-- **What a line and a JSON entry show of an offset**, by the place that a scan
finds. -/
inductive Shows (s : Source) (o : Int) : String → JsonValue → Prop
  /-- From the end of the text on there is no place, and the entry is null. -/
  | past (h : s.text.locateByScan o = .ok none) : Shows s o (s.origin.text ++ ":<eof>") .null
  /-- Before that, both have the line and the column, counted from one, and the
  entry has the offset. -/
  | inside {l : Location} (h : s.text.locateByScan o = .ok (some l)) :
      Shows s o
        (s.origin.text ++ ":" ++ toString (l.line + 1) ++ ":" ++ toString (l.column.offset + 1))
        (.object [("column", .number (l.column.offset + 1)), ("line", .number (l.line + 1)),
          ("offset", .number o)])

/-- A scan finds one place, so there is one line and one entry for it. -/
theorem Shows.unique {line line' : String} {entry entry' : JsonValue} (h : Shows s o line entry)
    (h' : Shows s o line' entry') : line = line' ∧ entry = entry' := by
  cases h with
  | past hscan =>
    cases h' with
    | past => exact ⟨rfl, rfl⟩
    | inside hscan' => cases hscan.symm.trans hscan'
  | inside hscan =>
    cases h' with
    | past hscan' => cases hscan.symm.trans hscan'
    | inside hscan' =>
      cases hscan.symm.trans hscan'
      exact ⟨rfl, rfl⟩

/-- **What is printed reports every offset** in its turn: as a line of its
own, or as an entry of the JSON value that is read back. -/
def ReportsAll (s : Source) (offsets : List Int) (json : Bool) (stdout : String) : Prop :=
  ∃ shown : List (String × JsonValue),
    List.Forall₂ (fun o item => Shows s o item.1 item.2) offsets shown ∧
      if json then
        JsonValue.ofText? stdout =
          some (.object [("locations", .array (shown.map Prod.snd)),
            ("origin", .text s.origin.text)])
      else stdout = String.join (shown.map fun item => item.1 ++ "\n")

/-- **What is printed of a failure**, whole. -/
inductive FailureShows : Fault → String → Prop
  /-- A file that gives no text is named, with the cause. -/
  | unreadable (path : String) (cause : ReadFailure) :
      FailureShows (.unreadable path cause)
        ("srcloc: error: " ++ path ++ ": cannot read source: " ++ cause.message path ++ "\n")
  /-- A number that does not fit is quoted. -/
  | outOfRange (value : Int) (what : String) :
      FailureShows (.outOfRange (.int value) what)
        ("srcloc: error: " ++ what ++ " out of range: " ++ toString value ++ "\n")

/-- The failure that an offset out of range is. -/
def misfit (o : Int) : Fault :=
  .outOfRange (.int o) (if maxOffset < o then "size" else "offset")

/-- A position is shown by its line and its entry. -/
theorem shows_placeOf (s : Source) (p : Position) :
    Shows s p.offset (lineFor s p) (entry p (placeOf s p)) := by
  have hscan := locateByScan_eq_placeOf s p
  cases hplace : placeOf s p with
  | none =>
    rw [hplace] at hscan
    rw [lineFor_of_none hplace]
    exact .past hscan
  | some l =>
    rw [hplace] at hscan
    rw [lineFor_of_some hplace]
    exact .inside hscan

theorem failureShows_unreadable (path : String) (cause : ReadFailure) :
    FailureShows (.unreadable path cause) (failure (Fault.unreadable path cause).message) := by
  have htext : failure (Fault.unreadable path cause).message =
      "srcloc: error: " ++ (path ++ ": cannot read source: " ++ cause.message path) ++ "\n" := rfl
  rw [htext, ← String.append_assoc, ← String.append_assoc]
  exact .unreadable path cause

theorem failureShows_outOfRange (value : Int) (what : String) :
    FailureShows (.outOfRange (.int value) what)
      (failure (Fault.outOfRange (.int value) what).message) := by
  have htext : failure (Fault.outOfRange (.int value) what).message =
      "srcloc: error: " ++ (what ++ " out of range: " ++ toString value) ++ "\n" := rfl
  rw [htext, ← String.append_assoc, ← String.append_assoc]
  exact .outOfRange value what

/-- A failure that is printed is one that is reported. -/
theorem FailureShows.isReported {stderr : String} (h : FailureShows fault stderr) :
    isReported fault = true := by
  cases h with
  | unreadable => rfl
  | outOfRange => rfl

/-- A path with a null character is refused before it is looked up. -/
theorem ofFile_of_hasNull (h : p.hasNull = true) : Source.ofFile fs p = .error .pathNull :=
  if_pos h

/-- Any other path fails in two ways, and both are reported: it gives no text, or
a text that is too long. -/
theorem failureShows_of_ofFile (h : p.hasNull = false)
    (hfault : Source.ofFile fs p = .error fault) : FailureShows fault (failure fault.message) := by
  rw [Source.ofFile, h, if_neg Bool.false_ne_true] at hfault
  split at hfault
  · obtain ⟨-, rfl⟩ := Source.ofText_eq_error_iff.1 hfault
    exact failureShows_outOfRange _ _
  · cases hfault
    exact failureShows_unreadable _ _

/-- So does loading: nothing else that can be wrong with a path is reported. -/
theorem failureShows_of_load (hload : Source.load fs home file = .error fault)
    (hreported : isReported fault = true) : FailureShows fault (failure fault.message) := by
  rcases bind_eq_error_iff.1 hload with hexpand | ⟨path, -, hfile⟩
  · have hexpansion := (Path.ofString file).expansion_expandHome (fs.directory? home)
    rw [hexpand] at hexpansion
    cases hexpansion <;> cases hreported
  · cases hnull : path.hasNull with
    | true =>
      rw [ofFile_of_hasNull hnull] at hfile
      cases hfile
      cases hreported
    | false => exact failureShows_of_ofFile hnull hfile

/-- A file that is loaded has no failure to report. -/
theorem isReported_of_load_eq_ok (hload : Source.load fs home file = .ok s) :
    ∀ fault, Source.load fs home file = .error fault → isReported fault = true := by
  intro fault hfault
  rw [hload] at hfault
  cases hfault

/-! ## The three ways out -/

/-- **How a request ends** with a file that is loaded or not, and with offsets
that fit or not. -/
inductive Ends (loaded : Except Fault Source) (offsets : List Int) (json : Bool) : Outcome → Prop
  /-- A file that cannot be loaded comes before all offsets. -/
  | lost {fault : Fault} {stderr : String} (hload : loaded = .error fault)
      (hshows : FailureShows fault stderr) : Ends loaded offsets json ⟨1, "", stderr⟩
  /-- The first offset that does not fit comes next. -/
  | refused {s : Source} {front back : List Int} {o : Int} {stderr : String}
      (hload : loaded = .ok s) (hoffsets : offsets = front ++ o :: back)
      (hfront : ∀ x ∈ front, 0 ≤ x ∧ x ≤ maxOffset) (ho : o < 0 ∨ maxOffset < o)
      (hshows : FailureShows (misfit o) stderr) : Ends loaded offsets json ⟨1, "", stderr⟩
  /-- Otherwise all offsets are reported. -/
  | reported {s : Source} {stdout : String} (hload : loaded = .ok s)
      (hfits : ∀ x ∈ offsets, 0 ≤ x ∧ x ≤ maxOffset) (hall : ReportsAll s offsets json stdout) :
      Ends loaded offsets json ⟨0, stdout, ""⟩

/-- A failure that is reported is all that a run gives. -/
theorem answer_of_prepare_error (h : prepare fs home request = .error fault)
    (hreported : isReported fault = true) :
    answer fs home request = .ok ⟨1, "", failure fault.message⟩ := by
  rw [answer, h]
  exact if_pos hreported

theorem prepare_of_load_error (h : Source.load fs home request.file = .error fault) :
    prepare fs home request = .error fault := by
  rw [prepare, h]
  rfl

theorem prepare_of_misfit (hload : Source.load fs home request.file = .ok s)
    (hoffsets : request.offsets = front ++ o :: back)
    (hfront : ∀ x ∈ front, 0 ≤ x ∧ x ≤ maxOffset) (ho : o < 0 ∨ maxOffset < o) :
    prepare fs home request = .error (misfit o) := by
  have hmap : request.offsets.mapM (fun x => Position.ofSize (.int x)) = .error (misfit o) := by
    rw [hoffsets]
    exact mapM_eq_error (fun x hx => Position.exists_ofSize_int (hfront x hx))
      (Position.ofSize_int_eq_error ho)
  rw [prepare, hload, ok_bind, hmap]
  rfl

/-- **If the file is loaded and all offsets fit, all are reported.** -/
theorem exists_answer_of_fits (hload : Source.load fs home file = .ok s)
    (hfits : ∀ x ∈ offsets, 0 ≤ x ∧ x ≤ maxOffset) (json : Bool) :
    ∃ stdout, answer fs home ⟨file, offsets, json⟩ = .ok ⟨0, stdout, ""⟩ ∧
      ReportsAll s offsets json stdout := by
  obtain ⟨positions, hpositions⟩ := Position.exists_mapM_ofSize_iff.2 hfits
  have hmap : offsets = positions.map fun p => (p.offset : Int) :=
    (mapM_eq_ok_iff fun _ _ => Position.ofSize_int_eq_ok_iff).1 hpositions
  have hshown : List.Forall₂ (fun o item => Shows s o item.1 item.2) offsets
      (positions.map fun p => (lineFor s p, entry p (placeOf s p))) := by
    rw [hmap, List.forall₂_map_left_iff, List.forall₂_map_right_iff, List.forall₂_same]
    exact fun p _ => shows_placeOf s p
  cases json with
  | false =>
    refine ⟨_, answer_plain hload hpositions, _, hshown, ?_⟩
    rw [if_neg Bool.false_ne_true, List.map_map, List.map_map]
    rfl
  | true =>
    obtain ⟨report, hreport, hread⟩ := exists_answer_json hload hpositions
    refine ⟨report, hreport, _, hshown, ?_⟩
    rw [if_pos rfl, hread, List.map_map]
    rfl

/-- Offsets that do not all fit have a first one that does not. -/
theorem exists_first_misfit (h : ¬ ∀ x ∈ offsets, 0 ≤ x ∧ x ≤ maxOffset) :
    ∃ (front : List Int) (o : Int) (back : List Int), offsets = front ++ o :: back ∧
      (∀ x ∈ front, 0 ≤ x ∧ x ≤ maxOffset) ∧ (o < 0 ∨ maxOffset < o) := by
  induction offsets with
  | nil => exact absurd (fun _ hx => nomatch hx) h
  | cons x rest ih =>
    by_cases hx : 0 ≤ x ∧ x ≤ maxOffset
    · have hrest : ¬ ∀ y ∈ rest, 0 ≤ y ∧ y ≤ maxOffset :=
        fun hall => h (List.forall_mem_cons.2 ⟨hx, hall⟩)
      obtain ⟨front, o, back, rfl, hfront, ho⟩ := ih hrest
      exact ⟨x :: front, o, back, rfl, List.forall_mem_cons.2 ⟨hx, hfront⟩, ho⟩
    · exact ⟨[], x, rest, rfl, fun _ hy => (nomatch hy), by omega⟩

/-- And only one offset is the first of them. -/
theorem first_misfit_unique {front' back' : List Int} {o' : Int}
    (h : front ++ o :: back = front' ++ o' :: back')
    (hfront : ∀ x ∈ front, 0 ≤ x ∧ x ≤ maxOffset) (ho : o < 0 ∨ maxOffset < o)
    (hfront' : ∀ x ∈ front', 0 ≤ x ∧ x ≤ maxOffset) (ho' : o' < 0 ∨ maxOffset < o') :
    o = o' := by
  induction front generalizing front' with
  | nil =>
    cases front' with
    | nil => exact (List.cons.inj h).1
    | cons x rest =>
      obtain ⟨rfl, -⟩ := List.cons.inj h
      have := hfront' o List.mem_cons_self
      omega
  | cons x front ih =>
    cases front' with
    | nil =>
      obtain ⟨rfl, -⟩ := List.cons.inj h
      have := hfront x List.mem_cons_self
      omega
    | cons y rest =>
      exact ih (List.cons.inj h).2 (fun z hz => hfront z (List.mem_cons_of_mem x hz))
        fun z hz => hfront' z (List.mem_cons_of_mem y hz)

/-- **Every request ends in one of the three ways**, if the failure of its file
is the command's to report. -/
theorem exists_answer_ends (offsets : List Int) (json : Bool)
    (h : ∀ fault, Source.load fs home file = .error fault → isReported fault = true) :
    ∃ outcome, answer fs home ⟨file, offsets, json⟩ = .ok outcome ∧
      Ends (Source.load fs home file) offsets json outcome := by
  cases hload : Source.load fs home file with
  | error fault =>
    have hreported := h fault hload
    exact ⟨_, answer_of_prepare_error (prepare_of_load_error hload) hreported,
      .lost rfl (failureShows_of_load hload hreported)⟩
  | ok s =>
    by_cases hfits : ∀ x ∈ offsets, 0 ≤ x ∧ x ≤ maxOffset
    · obtain ⟨stdout, hanswer, hall⟩ := exists_answer_of_fits hload hfits json
      exact ⟨_, hanswer, .reported rfl hfits hall⟩
    · obtain ⟨front, o, back, hoffsets, hfront, ho⟩ := exists_first_misfit hfits
      have hprepare : prepare fs home ⟨file, offsets, json⟩ = .error (misfit o) :=
        prepare_of_misfit hload hoffsets hfront ho
      exact ⟨_, answer_of_prepare_error hprepare rfl,
        .refused rfl hoffsets hfront ho (failureShows_outOfRange _ _)⟩

/-! ## The command -/

/-- **All or nothing.** Let the file be one that is loaded, or whose failure
is the command's to report, and let there be offsets, none of which has more
digits than are read. Then there are arguments that ask for a report in
either mode, and whatever they are, the run has one outcome. It exits with
one, and prints nothing, exactly if the file cannot be loaded or some offset
does not fit; the failure that is printed is that of the file, or else that
of the first offset that does not fit. In every other case it exits with
zero, prints no failure, and reports every offset. -/
theorem answers_all_or_nothing (file : String) (offsets : List Int) (json : Bool)
    (hne : offsets ≠ []) (hshort : ∀ o ∈ offsets, Decimal.digitCount o ≤ 4300)
    (h : ∀ fault, Source.load fs home file = .error fault → isReported fault = true) :
    ∃ outcome, run fs home (Request.arguments ⟨file, offsets, json⟩) = .ok outcome ∧
      (∀ arguments, Command.ofArguments arguments = .ok (.locate ⟨file, offsets, json⟩) →
        run fs home arguments = .ok outcome) ∧
      ((outcome.exit = 1 ∧ outcome.stdout = "") ↔
        (∃ fault, Source.load fs home file = .error fault) ∨
          ∃ o ∈ offsets, o < 0 ∨ maxOffset < o) ∧
      (∀ fault, Source.load fs home file = .error fault → FailureShows fault outcome.stderr) ∧
      (∀ (front : List Int) (o : Int) (back : List Int),
        (∃ s, Source.load fs home file = .ok s) → offsets = front ++ o :: back →
        (∀ x ∈ front, 0 ≤ x ∧ x ≤ maxOffset) → (o < 0 ∨ maxOffset < o) →
        FailureShows (misfit o) outcome.stderr) ∧
      (∀ s, Source.load fs home file = .ok s → (∀ x ∈ offsets, 0 ≤ x ∧ x ≤ maxOffset) →
        outcome.exit = 0 ∧ outcome.stderr = "" ∧ ReportsAll s offsets json outcome.stdout) := by
  obtain ⟨outcome, hanswer, hends⟩ := exists_answer_ends offsets json h
  have hanswers := answers_of_answer hanswer
  refine ⟨outcome, hanswers.run_arguments hne hshort, hanswers.2, ?_⟩
  revert hends
  generalize Source.load fs home file = loaded
  intro hends
  cases hends with
  | lost hload hshows =>
    subst hload
    refine ⟨⟨fun _ => .inl ⟨_, rfl⟩, fun _ => ⟨rfl, rfl⟩⟩, ?_, ?_, nofun⟩
    · rintro _ ⟨⟩
      exact hshows
    · rintro _ _ _ ⟨s, ⟨⟩⟩
  | @refused s front back o stderr hload hoffsets hfront ho hshows =>
    subst hload
    have hmem : o ∈ offsets := hoffsets ▸ List.mem_append_cons_self
    refine ⟨⟨fun _ => .inr ⟨o, hmem, ho⟩, fun _ => ⟨rfl, rfl⟩⟩, nofun, ?_, ?_⟩
    · intro front' o' back' _ hoffsets' hfront' ho'
      have hsame := first_misfit_unique (hoffsets.symm.trans hoffsets') hfront ho hfront' ho'
      rwa [← hsame]
    · intro _ _ hfits
      have := hfits o hmem
      omega
  | reported hload hfits hall =>
    subst hload
    refine ⟨⟨nofun, ?_⟩, nofun, ?_, ?_⟩
    · rintro (⟨_, ⟨⟩⟩ | ⟨o, ho, hmisfit⟩)
      have := hfits o ho
      omega
    · intro front o back _ hoffsets _ ho
      have := hfits o (hoffsets ▸ List.mem_append_cons_self)
      omega
    · rintro _ ⟨⟩ _
      exact ⟨rfl, rfl, hall⟩

/-- Two offsets that do not fit, of which the first counts; a missing file, which
counts before an offset; and a text with a place and its end, in both modes. -/
theorem answers_all_or_nothing_of_misfits :
    let tree := (FileTree.mk [] []).insert (Path.ofString "a.txt") (.file [0x61, 0x0A])
    let fs := tree.toFileSystem
    run fs none ["--", "a.txt", "0", "-1", "4294967296"] =
      .ok ⟨1, "", "srcloc: error: offset out of range: -1\n"⟩ ∧
    run fs none ["--json", "--", "b.txt", "4294967296"] =
      .ok ⟨1, "", "srcloc: error: b.txt: cannot read source: " ++
        "[Errno 2] No such file or directory: 'b.txt'\n"⟩ ∧
    run fs none ["--", "a.txt", "0", "7"] = .ok ⟨0, "a.txt:1:1\na.txt:<eof>\n", ""⟩ ∧
    ∃ stdout, run fs none ["--json", "--", "a.txt", "0", "7"] = .ok ⟨0, stdout, ""⟩ ∧
      JsonValue.ofText? stdout = some (.object [
        ("locations", .array [
          .object [("column", .number 1), ("line", .number 1), ("offset", .number 0)], .null]),
        ("origin", .text "a.txt")]) := by
  intro tree fs
  have hload : Source.load fs none "a.txt" =
      .ok ⟨.file (Path.ofString "a.txt"), ['a', '\n'], .ofText _, rfl, by decide⟩ := rfl
  have hmissing : Source.load fs none "b.txt" = .error (.unreadable "b.txt" .missing) := rfl
  have hfound := isReported_of_load_eq_ok hload
  have hlost : ∀ fault, Source.load fs none "b.txt" = .error fault → isReported fault = true := by
    intro fault hfault
    rw [hmissing] at hfault
    cases hfault
    rfl
  have hitems : ∀ shown : List (String × JsonValue), List.Forall₂ (fun o item =>
      Shows ⟨.file (Path.ofString "a.txt"), ['a', '\n'], .ofText _, rfl, by decide⟩ o item.1 item.2)
        [0, 7] shown →
      shown = [("a.txt:1:1",
        .object [("column", .number 1), ("line", .number 1), ("offset", .number 0)]),
        ("a.txt:<eof>", .null)] := by
    intro shown hshown
    obtain ⟨⟨line, entry⟩, rest, hfirst, hrest, rfl⟩ := List.forall₂_cons_left_iff.1 hshown
    obtain ⟨⟨line', entry'⟩, rest', hlast, hnone, rfl⟩ := List.forall₂_cons_left_iff.1 hrest
    obtain rfl := List.forall₂_nil_left_iff.1 hnone
    obtain ⟨rfl, rfl⟩ := hfirst.unique (.inside rfl)
    obtain ⟨rfl, rfl⟩ := hlast.unique (.past rfl)
    rfl
  refine ⟨?_, ?_, ?_, ?_⟩
  · obtain ⟨⟨exit, stdout, stderr⟩, hrun, -, hnothing, -, hfirst, -⟩ :=
      answers_all_or_nothing "a.txt" [0, -1, 4294967296] false (by decide) (by decide) hfound
    obtain ⟨rfl, rfl⟩ := hnothing.2 (.inr ⟨-1, by decide, by decide⟩)
    cases hfirst [0] (-1) [4294967296] ⟨_, hload⟩ rfl (by decide) (by decide)
    exact hrun
  · obtain ⟨⟨exit, stdout, stderr⟩, hrun, -, hnothing, hfailure, -⟩ :=
      answers_all_or_nothing "b.txt" [4294967296] true (by decide) (by decide) hlost
    obtain ⟨rfl, rfl⟩ := hnothing.2 (.inl ⟨_, hmissing⟩)
    cases hfailure _ hmissing
    have hquote := Text.quote_of_plain "b.txt" (by simp)
    have hcause : ReadFailure.message "b.txt" .missing =
        "[Errno 2] No such file or directory: " ++ Text.quote "b.txt" := rfl
    rw [hcause, hquote] at hrun
    exact hrun
  · obtain ⟨⟨exit, stdout, stderr⟩, hrun, -, -, -, -, hall⟩ :=
      answers_all_or_nothing "a.txt" [0, 7] false (by decide) (by decide) hfound
    obtain ⟨rfl, rfl, shown, hshown, hlines⟩ := hall _ hload (by decide)
    obtain rfl := hitems shown hshown
    cases hlines
    exact hrun
  · obtain ⟨⟨exit, stdout, stderr⟩, hrun, -, -, -, -, hall⟩ :=
      answers_all_or_nothing "a.txt" [0, 7] true (by decide) (by decide) hfound
    obtain ⟨rfl, rfl, shown, hshown, hread⟩ := hall _ hload (by decide)
    obtain rfl := hitems shown hshown
    exact ⟨stdout, hrun, hread⟩

/-- **Not every offset can be asked for.** The least one with a digit too many is
a mistake in the usage: the run prints nothing, as it does for an offset that
does not fit, but it exits with two. -/
theorem not_answers_of_long_offset :
    ¬ ∀ (fs : FileSystem) (home : Option String) (file : String) (offsets : List Int) (json : Bool),
      offsets ≠ [] →
      (∀ fault, Source.load fs home file = .error fault → isReported fault = true) →
      ∃ outcome, run fs home (Request.arguments ⟨file, offsets, json⟩) = .ok outcome ∧
        ((outcome.exit = 1 ∧ outcome.stdout = "") ↔
          (∃ fault, Source.load fs home file = .error fault) ∨
            ∃ o ∈ offsets, o < 0 ∨ maxOffset < o) := by
  intro h
  let tree := (FileTree.mk [] []).insert (Path.ofString "a.txt") (.file [0x61, 0x0A])
  have hload : Source.load tree.toFileSystem none "a.txt" =
      .ok ⟨.file (Path.ofString "a.txt"), ['a', '\n'], .ofText _, rfl, by decide⟩ := rfl
  have hlong : Decimal.digitLimit < Decimal.digitCount (10 ^ 4300) :=
    Decimal.lt_digitCount_pow (by decide)
  have harguments : Command.ofArguments (Request.arguments ⟨"a.txt", [10 ^ 4300], false⟩) =
      .error (.invalidOffset (toString ((10 : Int) ^ 4300))) := by
    refine ofArguments_of_long (List.nil_append _).symm ?_ hlong
    exact fun _ hx => nomatch hx
  have hgreat : (maxOffset : Int) < 10 ^ 4300 :=
    calc (maxOffset : Int) < 10 ^ 10 := by decide
      _ ≤ 10 ^ 4300 := pow_le_pow_right₀ (by decide) (by decide)
  obtain ⟨outcome, hrun, hnothing⟩ :=
    h tree.toFileSystem none "a.txt" [10 ^ 4300] false (List.cons_ne_nil _ _)
      (isReported_of_load_eq_ok hload)
  rw [run, harguments] at hrun
  obtain rfl := Except.ok.inj hrun
  obtain ⟨hexit, -⟩ := hnothing.2 (.inr ⟨10 ^ 4300, List.mem_cons_self, .inr hgreat⟩)
  exact absurd hexit (by decide)

end LineMap.Cli
