import LineMap.Proofs.FileTexts
import LineMap.Proofs.HomePaths
import LineMap.Proofs.TotalLookups
/-!
# Written paths — a path is read back from what it is written as

Reading a text normalises it, and what a path is written as is in normal
form already: its names are the parts of that text that are kept, and its
root is told by the slashes in front of the first name (`ofString_text`).
So no two paths are written alike, and a path that a report names leads to
the file that the report is about.
-/

namespace LineMap

namespace Path

variable {p q : Path} {names : List String} {name : String} {part : List Char}

/-- Paths with one root and the same names are one path. -/
@[ext] theorem ext (hroot : p.root = q.root) (hnames : p.names = q.names) : p = q := by
  obtain ⟨_, _, _⟩ := p
  obtain ⟨_, _, _⟩ := q
  cases hroot; cases hnames; rfl

/-! ## Names and parts -/

/-- The parts of a text are the text split at its slashes. -/
theorem parts_eq_splitOn (text : List Char) : parts text = text.splitOn '/' := by
  induction text with
  | nil => rfl
  | cons c rest ih =>
    rw [parts, ih, List.splitOn_cons_eq_if_modifyHead]
    by_cases hc : c = '/'
    · rw [if_pos hc, if_pos (beq_iff_eq.2 hc)]
    · rw [if_neg hc, if_neg (mt beq_iff_eq.1 hc)]
      split
      · next hparts => exact absurd hparts (List.splitOn_ne_nil _ _)
      · next hparts => rw [hparts]; rfl

/-- A text with a slash in front has an empty part and those of the rest. -/
theorem parts_slash (text : List Char) : parts ('/' :: text) = [] :: parts text :=
  if_pos rfl

theorem toList_joined (names : List String) :
    (joined names).toList = ['/'].intercalate (names.map String.toList) := by
  fun_induction joined names with
  | case1 => rfl
  | case2 name => exact List.intercalate_singleton.symm
  | case3 name next rest ih =>
    rw [String.toList_append, String.toList_append, ih]
    exact List.intercalate_cons_cons.symm

/-- **Names that are joined are the parts again**, because none has a slash. -/
theorem parts_joined (hne : names ≠ []) (h : ∀ name ∈ names, IsName name) :
    parts (joined names).toList = names.map String.toList := by
  rw [parts_eq_splitOn, toList_joined]
  refine List.splitOn_intercalate '/' ?_ (mt List.map_eq_nil_iff.1 hne)
  intro part hpart
  obtain ⟨name, hname, rfl⟩ := List.mem_map.1 hpart
  exact (h name hname).2.2

/-- And a part that is a name is kept. -/
theorem isKept_of_isName (h : IsName name) : isKept name.toList = true := by
  unfold isKept
  rw [Bool.and_eq_true, decide_eq_true_eq, decide_eq_true_eq]
  constructor
  · intro hnil
    exact h.1 (String.toList_inj.1 hnil)
  · intro hdot
    exact h.2.1 (String.toList_inj.1 hdot)

/-- So the names of a path are what is kept of them when they are joined. -/
theorem kept_parts_joined (h : ∀ name ∈ names, IsName name) :
    (parts (joined names).toList).filter isKept = names.map String.toList := by
  by_cases hne : names = []
  · subst hne
    rfl
  · rw [parts_joined hne h, List.filter_eq_self]
    intro part hpart
    obtain ⟨name, hname, rfl⟩ := List.mem_map.1 hpart
    exact isKept_of_isName (h name hname)

/-! ## Roots and slashes -/

/-- Joined names do not start with a slash. -/
theorem head?_joined (h : ∀ name ∈ names, IsName name) :
    (joined names).toList.head? ≠ some '/' := by
  intro hslash
  -- else the first part were empty, and the first name is not
  obtain ⟨rest, hrest⟩ := List.head?_eq_some_iff.1 hslash
  have hne : names ≠ [] := by
    rintro rfl
    cases hrest
  have hparts := parts_joined hne h
  rw [hrest, parts_slash] at hparts
  obtain ⟨name, hname, hnil⟩ := List.mem_map.1 (hparts ▸ List.mem_cons_self)
  exact (h name hname).1 (String.toList_inj.1 hnil)

/-- **The slashes of a root are read as that root** in front of a text that
starts with none. -/
theorem rootOf_append {text : List Char} (root : Root) (h : text.head? ≠ some '/') :
    rootOf (root.text.toList ++ text) = root := by
  have hslash : ∀ rest, text ≠ '/' :: rest := by
    rintro rest rfl
    exact h rfl
  cases root with
  | none =>
    change rootOf text = .none
    unfold rootOf
    split
    · exact absurd rfl (hslash _)
    · exact absurd rfl (hslash _)
    · exact absurd rfl (hslash _)
    · rfl
  | slash =>
    change rootOf ('/' :: text) = .slash
    unfold rootOf
    split
    · rfl
    · next htext => exact absurd (List.cons.inj htext).2 (hslash _)
    · rfl
    · next hnone => exact absurd rfl (hnone text)
  | twoSlashes =>
    change rootOf ('/' :: '/' :: text) = .twoSlashes
    unfold rootOf
    split
    · next htext => exact absurd (List.cons.inj (List.cons.inj htext).2).2 (hslash _)
    · rfl
    · next hother htext => exact (hother text (List.cons.inj htext).2.symm).elim
    · next hother => exact absurd rfl (hother ('/' :: text))

/-- A slash in front adds an empty part, which is not kept. -/
theorem kept_parts_slash (text : List Char) :
    (parts ('/' :: text)).filter isKept = (parts text).filter isKept := by
  rw [parts_slash]
  rfl

/-- So the slashes of a root are no names. -/
theorem kept_parts_append (root : Root) (text : List Char) :
    (parts (root.text.toList ++ text)).filter isKept = (parts text).filter isKept := by
  cases root with
  | none => rfl
  | slash => exact kept_parts_slash text
  | twoSlashes => exact (kept_parts_slash ('/' :: text)).trans (kept_parts_slash text)

/-! ## Reading what is written -/

/-- **A path is read back from its text.** -/
theorem ofString_text (p : Path) : ofString p.text = p := by
  have hname := p.names_isName
  unfold text
  split
  · -- the dot is no name, and it is read as the path that has none
    next hempty => exact (ext hempty.1 hempty.2).symm
  · refine ext ?_ ?_
    · change rootOf (p.root.text ++ joined p.names).toList = p.root
      rw [String.toList_append, rootOf_append p.root (head?_joined hname)]
    · change ((parts (p.root.text ++ joined p.names).toList).filter isKept).map String.ofList =
        p.names
      rw [String.toList_append, kept_parts_append, kept_parts_joined hname, List.map_map]
      exact List.map_id'' (fun name => String.ofList_toList) p.names

/-- So no two paths are written alike. -/
theorem text_injective : Function.Injective text :=
  Function.LeftInverse.injective ofString_text

end Path

namespace Source

variable {fs : FileSystem} {path : Path}

/-- **What an outcome tells of the file that was asked for.** -/
inductive TellsOf (written : String) : Except Fault Source → Prop
  /-- A source has the path for its origin. -/
  | source {s : Source} (h : s.origin.text = written) : TellsOf written (.ok s)
  /-- A file that gives no text is reported with the path. -/
  | unreadable (cause : ReadFailure) : TellsOf written (.error (.unreadable written cause))
  /-- Of a text that is too long only the length is reported. -/
  | tooLong {text : Text} (h : maxOffset < text.length) :
      TellsOf written (.error (.outOfRange (.int text.length) "source length"))

/-- A path without a null character is told of as it is written. -/
theorem tellsOf_ofFile (h : path.hasNull = false) : TellsOf path.text (ofFile fs path) := by
  unfold ofFile
  rw [h, if_neg Bool.false_ne_true]
  cases readText fs path with
  | error cause => exact .unreadable cause
  | ok text =>
    change TellsOf path.text (ofText (.file path) text)
    cases hs : ofText (.file path) text with
    | ok s => exact .source (congrArg Origin.text (ofText_eq_ok_iff.1 hs).1)
    | error fault =>
      obtain ⟨hlong, rfl⟩ := ofText_eq_error_iff.1 hs
      exact .tooLong hlong

/-- **A written path leads back.** Two texts give one origin exactly if their
origins are written alike, and what an origin is written as gives that origin
again. So a file is loaded by the written path with the outcome that it has by
the text that was asked for: the same source, or the same fault. Unless the
text has a null character, that outcome names the written path. -/
theorem written_path_leads_back (fs : FileSystem) (p q : String) :
    (Origin.file (.ofString p) = .file (.ofString q) ↔
      (Origin.file (.ofString p)).text = (Origin.file (.ofString q)).text) ∧
    Origin.file (.ofString (Origin.file (.ofString p)).text) = .file (.ofString p) ∧
    ofFileNamed fs (Path.ofString p).text = ofFileNamed fs p ∧
    ('\x00' ∉ p.toList → TellsOf (Path.ofString p).text (ofFileNamed fs p)) := by
  have hback := Path.ofString_text (Path.ofString p)
  refine ⟨?_, congrArg Origin.file hback, congrArg (ofFile fs) hback, ?_⟩
  · constructor
    · intro horigin
      rw [horigin]
    · intro htext
      exact congrArg Origin.file (Path.text_injective htext)
  · intro hnull
    exact tellsOf_ofFile (Bool.eq_false_iff.2 (mt (Path.hasNull_ofString p).1 hnull))

/-- A path with empty parts, single dots and two dots on it gives the file that
its written form gives, and two slashes at the front are not read as three. -/
theorem written_path_leads_back_of_detour :
    let tree := (FileTree.mk [] []).insert (Path.ofString "data/notes.txt") (.file [0x61, 0x0A])
    let detour := "data//.././data/notes.txt/"
    '\x00' ∉ detour.toList ∧ (Path.ofString detour).text = "data/../data/notes.txt" ∧
      (∃ s, ofFileNamed tree.toFileSystem detour = .ok s ∧ s.text = ['a', '\n'] ∧
        ofFileNamed tree.toFileSystem "data/../data/notes.txt" = .ok s) ∧
      TellsOf "data/../data/notes.txt" (ofFileNamed tree.toFileSystem detour) ∧
      Origin.file (.ofString "//data") ≠ .file (.ofString "///data") := by
  intro tree detour
  have hnull : '\x00' ∉ detour.toList := by decide
  have hwritten : (Path.ofString detour).text = "data/../data/notes.txt" := by decide
  have hread : tree.toFileSystem.read (.ofString "data//.././data/notes.txt/") =
      .ok [0x61, 0x0A] := rfl
  obtain ⟨s, -, horigin, htext⟩ := ofText_of_le (.file (.ofString detour))
    (by decide : (['a', '\n'] : Text).length ≤ maxOffset)
  have hs : ofFileNamed tree.toFileSystem detour = .ok s :=
    (ofFile_eq_ok_iff ⟨by decide, hread⟩).2 ⟨horigin, by rw [htext]; rfl⟩
  obtain ⟨-, -, hload, htells⟩ :=
    written_path_leads_back tree.toFileSystem detour "data/../data/notes.txt"
  obtain ⟨hslashes, -⟩ := written_path_leads_back tree.toFileSystem "//data" "///data"
  rw [hwritten] at hload htells
  refine ⟨hnull, hwritten, ⟨s, hs, htext, hload.trans hs⟩, htells hnull, fun horigin => ?_⟩
  exact absurd (hslashes.1 horigin) (by decide)

end Source

end LineMap
