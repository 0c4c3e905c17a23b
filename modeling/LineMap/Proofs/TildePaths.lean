import LineMap.Proofs.LoadFaults
import LineMap.Proofs.WrittenPaths
/-!
# Tilde paths — where the home directory makes a difference

A path is in normal form before its first name is looked at, so a text can
have a tilde there that is not its first character: single dots in front of
it, and the slashes after them, are passed over (`ReachesTilde`). For every
other text, loading the file that a user names is loading the file of that
name, whatever the home directory is.
-/

namespace LineMap

/-- **A text reaches a tilde** if that is its first character, or the first one
behind single dots that have slashes after them. -/
inductive ReachesTilde : List Char → Prop
  /-- The tilde comes first. -/
  | tilde (rest : List Char) : ReachesTilde ('~' :: rest)
  /-- A single dot is passed over, with all slashes after it. -/
  | dot {rest : List Char} (h : ReachesTilde (rest.dropWhile (· = '/'))) :
      ReachesTilde ('.' :: '/' :: rest)

namespace Path

variable {p q base : Path} {text : List Char} {c : Char} {home name : String}
  {directory? : String → Option String}

/-! ## The first name of a text -/

/-- A character that is no slash belongs to the first part. -/
theorem exists_parts_cons (hc : c ≠ '/') (text : List Char) :
    ∃ part others, parts text = part :: others ∧ parts (c :: text) = (c :: part) :: others := by
  rw [parts, if_neg hc]
  cases hparts : parts text with
  | nil =>
    rw [parts_eq_splitOn] at hparts
    exact absurd hparts (List.splitOn_ne_nil _ _)
  | cons part others => exact ⟨part, others, rfl, rfl⟩

/-- Slashes at the front do not change what is kept. -/
theorem kept_parts_dropWhile (text : List Char) :
    (parts (text.dropWhile (· = '/'))).filter isKept = (parts text).filter isKept := by
  induction text with
  | nil => rfl
  | cons c rest ih =>
    by_cases hc : c = '/'
    · subst hc
      rw [List.dropWhile_cons_of_pos (by decide), ih, kept_parts_slash]
    · rw [List.dropWhile_cons_of_neg (by simpa using hc)]

/-- Nor does a single dot with a slash after it. -/
theorem kept_parts_dot (text : List Char) :
    (parts ('.' :: '/' :: text)).filter isKept = (parts text).filter isKept := by
  obtain ⟨part, others, hparts, hdot⟩ := exists_parts_cons (by decide : '.' ≠ '/') ('/' :: text)
  rw [parts_slash] at hparts
  obtain ⟨rfl, rfl⟩ := List.cons.inj hparts
  rw [hdot]
  rfl

/-- **The first character of a text is that of its first name**, unless it is a
slash or the single dot of a part that is not kept. -/
theorem kept_parts_cons (hc : c ≠ '/') (text : List Char) :
    (∃ part others, (parts (c :: text)).filter isKept = (c :: part) :: others) ∨
      c = '.' ∧ (text = [] ∨ ∃ rest, text = '/' :: rest) := by
  obtain ⟨part, others, htext, hparts⟩ := exists_parts_cons hc text
  by_cases hkept : isKept (c :: part) = true
  · left
    refine ⟨part, others.filter isKept, ?_⟩
    rw [hparts, List.filter_cons_of_pos hkept]
  · right
    have hdot : c :: part = ['.'] := by
      by_contra hne
      refine hkept ?_
      unfold isKept
      rw [Bool.and_eq_true, decide_eq_true_eq, decide_eq_true_eq]
      exact ⟨List.cons_ne_nil _ _, hne⟩
    obtain ⟨rfl, rfl⟩ := List.cons.inj hdot
    refine ⟨rfl, ?_⟩
    -- the part ends behind the dot, so the text ends there or goes on with a slash
    cases text with
    | nil => exact .inl rfl
    | cons d rest =>
      by_cases hd : d = '/'
      · exact .inr ⟨rest, congrArg (· :: rest) hd⟩
      · obtain ⟨part, others, -, hrest⟩ := exists_parts_cons hd rest
        rw [hrest] at htext
        cases htext

theorem root_ofString (text : String) : (ofString text).root = rootOf text.toList := rfl

theorem rootOf_eq_none_iff : rootOf text = .none ↔ text.head? ≠ some '/' := by
  constructor
  · intro hroot hslash
    obtain ⟨rest, rfl⟩ := List.head?_eq_some_iff.1 hslash
    unfold rootOf at hroot
    split at hroot
    · cases hroot
    · cases hroot
    · cases hroot
    · next hother => exact hother rest rfl
  · exact rootOf_append .none

/-- The first name of a text that reaches a tilde starts with it, and no root
is in front of that name. -/
theorem kept_parts_of_reachesTilde (h : ReachesTilde text) :
    text.head? ≠ some '/' ∧
      ∃ part others, (parts text).filter isKept = ('~' :: part) :: others := by
  induction h with
  | tilde rest =>
    have htilde : ('~' :: rest).head? ≠ some '/' := by simp
    exact ⟨htilde, (kept_parts_cons (by decide) rest).resolve_right fun h => absurd h.1 (by decide)⟩
  | @dot rest _ ih =>
    have hdot : ('.' :: '/' :: rest).head? ≠ some '/' := by simp
    rw [kept_parts_dot, ← kept_parts_dropWhile]
    exact ⟨hdot, ih.2⟩

/-- The other way round by induction on the length, because a dot and the
slashes after it leave a shorter text. -/
theorem reachesTilde_of_kept_parts {others : List (List Char)} {part : List Char}
    (hslash : text.head? ≠ some '/')
    (hkept : (parts text).filter isKept = ('~' :: part) :: others) : ReachesTilde text := by
  induction hlen : text.length using Nat.strong_induction_on generalizing text with
  | _ n ih =>
    cases text with
    | nil => cases hkept
    | cons c text =>
      have hc : c ≠ '/' := fun hc => hslash (congrArg some hc)
      rcases kept_parts_cons hc text with ⟨first, behind, hfirst⟩ | ⟨rfl, rfl | ⟨rest, rfl⟩⟩
      · rw [hfirst] at hkept
        obtain rfl : c = '~' := (List.cons.inj (List.cons.inj hkept).1).1
        exact .tilde text
      · cases hkept
      · rw [kept_parts_dot, ← kept_parts_dropWhile] at hkept
        refine .dot (ih _ ?_ ?_ hkept rfl)
        · have hle := (List.dropWhile_sublist (· = '/') (l := rest)).length_le
          rw [← hlen, List.length_cons, List.length_cons]
          omega
        · intro hhead
          have hstop := List.head?_dropWhile_not (· = '/') rest
          rw [hhead] at hstop
          exact absurd hstop (by decide)

/-- **So a text reaches a tilde exactly if its path starts at a home
directory.** -/
theorem exists_startsAtHome_iff {text : String} :
    (∃ name, (ofString text).StartsAtHome name) ↔ ReachesTilde text.toList := by
  constructor
  · rintro ⟨name, hroot, hname, htilde⟩
    obtain ⟨rest, hrest⟩ := List.head?_eq_some_iff.1 hname
    obtain ⟨first, others, hkept, rfl, -⟩ := List.map_eq_cons_iff.1 hrest
    rw [String.toList_ofList] at htilde
    obtain ⟨part, rfl⟩ := List.head?_eq_some_iff.1 htilde
    exact reachesTilde_of_kept_parts (rootOf_eq_none_iff.1 hroot) hkept
  · intro h
    obtain ⟨hslash, part, others, hkept⟩ := kept_parts_of_reachesTilde h
    have hroot := rootOf_eq_none_iff.2 hslash
    refine ⟨String.ofList ('~' :: part), hroot, ?_, ?_⟩
    · change (((parts text.toList).filter isKept).map String.ofList).head? = _
      rw [hkept]
      rfl
    · rw [String.toList_ofList]
      rfl

/-! ## Roots of expanded paths -/

/-- A path that starts at no home directory is not expanded. -/
theorem expandHome_of_not_startsAtHome (h : ∀ name, ¬ p.StartsAtHome name) :
    p.expandHome directory? = .ok p := by
  have hexpansion := p.expansion_expandHome directory?
  revert hexpansion
  generalize p.expandHome directory? = expanded
  intro hexpansion
  cases hexpansion with
  | same => rfl
  | null h' => exact absurd h' (h _)
  | unknown h' => exact absurd h' (h _)
  | homeless h' => exact absurd h' (h _)
  | home h' => exact absurd h' (h _)

/-- Any other path gets the root of the home directory, and null characters only
from the directory and from the path. -/
theorem exists_directory_of_expandHome (h : p.StartsAtHome name)
    (hq : p.expandHome directory? = .ok q) :
    ∃ home base, directory? name = some home ∧ homePath home = .ok base ∧ q.root = base.root ∧
      (q.hasNull = true ↔ '\x00' ∈ home.toList ∨ p.hasNull = true) := by
  have hexpansion := p.expansion_expandHome directory?
  rw [hq] at hexpansion
  cases hexpansion with
  | same hnone => exact absurd h (hnone name)
  | home h' hclear hname htilde hbase hroot hnames =>
    obtain rfl := h.unique h'
    obtain ⟨_, hbase', hnull⟩ := exists_homePath htilde
    obtain rfl := Except.ok.inj (hbase'.symm.trans hbase)
    refine ⟨_, _, hname, hbase, hroot, ?_⟩
    rw [Cli.hasNull_of_names h hclear hnames, hnull]

/-- The path of a home directory has a root if its text does. -/
theorem root_homePath (h : home.toList.head? = some '/') (hbase : homePath home = .ok base) :
    base.root ≠ .none := by
  have hpath : homePath home =
      if (home.toList.rdropWhile (· = '/')).head? = some '~' then .error .homeUnknown
      else if home.toList.rdropWhile (· = '/') = [] then .ok (ofString "/")
      else .ok (ofString (String.ofList (home.toList.rdropWhile (· = '/')))) := rfl
  rw [hpath] at hbase
  split at hbase
  · cases hbase
  · split at hbase
    · obtain rfl := Except.ok.inj hbase
      decide
    · next htrimmed =>
      obtain rfl := Except.ok.inj hbase
      rw [root_ofString, Ne, rootOf_eq_none_iff, not_not]
      -- what is left of the text is not empty, so it starts as the text does
      obtain ⟨rest, hrest⟩ := List.rdropWhile_prefix (· = '/') home.toList
      rw [String.toList_ofList, ← h]
      conv_rhs => rw [← hrest]
      rw [List.head?_append_of_ne_nil _ htrimmed]

/-- **So an expanded path is written differently** if the home directory has a
root. -/
theorem text_ne_of_root (h : p.StartsAtHome name) (hroot : home.toList.head? = some '/')
    (hbase : homePath home = .ok base) (hq : q.root = base.root) : q.text ≠ p.text := by
  intro htext
  obtain rfl := text_injective htext
  exact root_homePath hroot hbase (hq.symm.trans h.1)

end Path

namespace Source

variable {fs : FileSystem} {home : Option String} {path : String}

/-- A text that reaches no tilde is the name of one file in either way. -/
theorem load_of_not_reachesTilde (h : ¬ ReachesTilde path.toList) :
    load fs home path = ofFileNamed fs path := by
  have hexpand : (Path.ofString path).expandHome (fs.directory? home) = .ok (.ofString path) := by
    refine Path.expandHome_of_not_startsAtHome ?_
    intro name hname
    exact h (Path.exists_startsAtHome_iff.1 ⟨name, hname⟩)
  rw [load, hexpand, ok_bind, ofFileNamed]

/-- Where there are no files, every path that has no null character is reported
as it is written. -/
theorem ofFile_of_missing {p : Path} (h : p.hasNull = false) :
    ofFile { read := fun _ => .error .missing } p = .error (.unreadable p.text .missing) := by
  unfold ofFile
  rw [h, if_neg Bool.false_ne_true]
  rfl

/-- **A text that reaches a tilde names two files**: with a home directory that
has a root, and no others, the missing file is reported with different paths,
or not looked for at all. -/
theorem exists_load_ne {home : String} (h : ReachesTilde path.toList) (hnull : '\x00' ∉ path.toList)
    (hroot : home.toList.head? = some '/') (hhome : '\x00' ∉ home.toList) :
    ∃ fs, load fs (some home) path ≠ ofFileNamed fs path := by
  let fs : FileSystem := { read := fun _ => .error .missing }
  refine ⟨fs, ?_⟩
  obtain ⟨name, hname⟩ := Path.exists_startsAtHome_iff.2 h
  have hclear : (Path.ofString path).hasNull = false :=
    Bool.eq_false_iff.2 (mt (Path.hasNull_ofString path).1 hnull)
  have hexpansion := (Path.ofString path).expansion_expandHome (fs.directory? (some home))
  rw [ofFileNamed, ofFile_of_missing hclear, load]
  cases hexpanded : (Path.ofString path).expandHome (fs.directory? (some home)) with
  | error fault =>
    rw [hexpanded] at hexpansion
    cases hexpansion with
    | null => exact nofun
    | unknown => exact nofun
    | homeless => exact nofun
  | ok q =>
    obtain ⟨text, base, htext, hbase, hq, hqnull⟩ :=
      Path.exists_directory_of_expandHome hname hexpanded
    have hown : text = home := by
      unfold FileSystem.directory? at htext
      split at htext
      · exact (Option.some.inj htext).symm
      · cases htext
    subst hown
    have hqclear : q.hasNull = false := by
      rw [Bool.eq_false_iff, Ne, hqnull, hclear]
      rintro (hmem | hmem)
      · exact hhome hmem
      · exact absurd hmem Bool.false_ne_true
    rw [ok_bind, ofFile_of_missing hqclear]
    intro hsame
    exact Path.text_ne_of_root hname hroot hbase hq
      (Fault.unreadable.inj (Except.error.inj hsame)).1

/-- **Only a text that reaches a tilde is expanded.** Any other text names one
file, whether it is loaded as a user names it or as it stands, whatever the
home directory and the files are. And no more can be said: a text that reaches
a tilde, be it behind single dots, names two files as soon as the home
directory has a root. -/
theorem load_agrees_unless_reachesTilde (path : String) :
    (¬ ReachesTilde path.toList → ∀ fs home, load fs home path = ofFileNamed fs path) ∧
    (ReachesTilde path.toList → '\x00' ∉ path.toList →
      ∀ home : String, home.toList.head? = some '/' → '\x00' ∉ home.toList →
        ∃ fs, load fs (some home) path ≠ ofFileNamed fs path) := by
  constructor
  · intro h fs home
    exact load_of_not_reachesTilde h
  · intro h hnull home hroot hhome
    exact exists_load_ne h hnull hroot hhome

/-- A tilde further on is a character like others, and one behind single dots
is not. -/
theorem load_agrees_unless_reachesTilde_of_dots :
    (¬ ReachesTilde "./notes~/~a.txt".toList ∧
      ∀ fs home, load fs home "./notes~/~a.txt" = ofFileNamed fs "./notes~/~a.txt") ∧
    ReachesTilde ".//./~/a.txt".toList ∧
      ∃ fs, load fs (some "/me") ".//./~/a.txt" ≠ ofFileNamed fs ".//./~/a.txt" := by
  have hnotes : ¬ ReachesTilde "./notes~/~a.txt".toList := by
    intro h
    cases h with
    | dot h => cases h
  have htilde : ReachesTilde ".//./~/a.txt".toList :=
    .dot (.dot (.tilde ['/', 'a', '.', 't', 'x', 't']))
  obtain ⟨hagree, -⟩ := load_agrees_unless_reachesTilde "./notes~/~a.txt"
  obtain ⟨-, hdiffer⟩ := load_agrees_unless_reachesTilde ".//./~/a.txt"
  exact ⟨⟨hnotes, hagree hnotes⟩, htilde,
    hdiffer htilde (by decide) "/me" (by decide) (by decide)⟩

/-- **Not only a text that starts with a tilde is expanded.** A single dot in
front of it is not part of the path, so the file in a directory with that name
is not found. -/
theorem not_load_agrees_of_dot_tilde :
    ¬ ∀ (fs : FileSystem) (home : Option String) (path : String), path.toList.head? ≠ some '~' →
      load fs home path = ofFileNamed fs path := by
  intro h
  let fs : FileSystem := { read := fun _ => .error .missing }
  have hsame := h fs (some "/me") "./~/a.txt" (by decide)
  have hload : load fs (some "/me") "./~/a.txt" =
      .error (.unreadable "/me/a.txt" .missing) := rfl
  have hfile : ofFileNamed fs "./~/a.txt" =
      .error (.unreadable "~/a.txt" .missing) := rfl
  rw [hload, hfile] at hsame
  exact absurd (Fault.unreadable.inj (Except.error.inj hsame)).1 (by decide)

end Source

end LineMap
