import LineMap.FileSystem.Basic
import LineMap.Proofs.Outcomes
import Mathlib.Data.List.DropRight
/-!
# Home paths — what becomes of a path that starts at a home directory

Two things can be wrong with a path before any file is looked for. It may
have a null character, which is in one of its names exactly if it is in the
text that was read (`hasNull_ofString`). And it may start at a home directory
that is not known. `Expansion` says once what putting in the home directory
does, case by case; the decision is taken on the first name of the path and
not on the first character of its text. Which directory a name stands for is
up to the surroundings and the table of users (`StandsFor`).
-/

namespace LineMap

namespace Path

variable {text part : List Char} {c : Char} {p : Path} {home name name' : String}
  {directory? : String → Option String}

/-! ## Null characters -/

/-- The parts of a text have no characters but its own. -/
theorem mem_of_mem_parts (h : part ∈ parts text) (hc : c ∈ part) : c ∈ text := by
  induction text generalizing part with
  | nil =>
    obtain rfl : part = [] := List.mem_singleton.1 h
    cases hc
  | cons d rest ih =>
    rw [parts] at h
    split at h
    · rcases List.mem_cons.1 h with rfl | h
      · cases hc
      · exact List.mem_cons_of_mem d (ih h hc)
    · split at h
      · obtain rfl : part = [d] := List.mem_singleton.1 h
        obtain rfl : c = d := List.mem_singleton.1 hc
        exact List.mem_cons_self
      · next first others hparts =>
        rw [hparts] at ih
        rcases List.mem_cons.1 h with rfl | h
        · rcases List.mem_cons.1 hc with rfl | hc
          · exact List.mem_cons_self
          · exact List.mem_cons_of_mem d (ih List.mem_cons_self hc)
        · exact List.mem_cons_of_mem d (ih (List.mem_cons_of_mem first h) hc)

/-- And they have all of them, but for the slashes. -/
theorem exists_mem_parts (h : c ∈ text) (hc : c ≠ '/') : ∃ part ∈ parts text, c ∈ part := by
  induction text with
  | nil => cases h
  | cons d rest ih =>
    rw [parts]
    split
    · next hd =>
      have hrest : c ∈ rest := (List.mem_cons.1 h).resolve_left fun hcd => hc (hcd.trans hd)
      obtain ⟨part, hpart, hmem⟩ := ih hrest
      exact ⟨part, List.mem_cons_of_mem _ hpart, hmem⟩
    · split
      · next hparts =>
        rw [hparts] at ih
        rcases List.mem_cons.1 h with rfl | h
        · exact ⟨[c], List.mem_cons_self, List.mem_cons_self⟩
        · obtain ⟨part, hpart, -⟩ := ih h
          cases hpart
      · next first others hparts =>
        rw [hparts] at ih
        rcases List.mem_cons.1 h with rfl | h
        · exact ⟨c :: first, List.mem_cons_self, List.mem_cons_self⟩
        · obtain ⟨part, hpart, hmem⟩ := ih h
          rcases List.mem_cons.1 hpart with rfl | hpart
          · exact ⟨d :: part, List.mem_cons_self, List.mem_cons_of_mem d hmem⟩
          · exact ⟨part, List.mem_cons_of_mem _ hpart, hmem⟩

theorem hasNull_iff : p.hasNull = true ↔ ∃ name ∈ p.names, '\x00' ∈ name.toList := by
  unfold hasNull
  simp only [List.any_eq_true, List.contains_iff_mem]

/-- **A path has a null character exactly if its text does**: a part with one
in it is kept. -/
theorem hasNull_ofString (text : String) :
    (ofString text).hasNull = true ↔ '\x00' ∈ text.toList := by
  rw [hasNull_iff]
  constructor
  · rintro ⟨name, hname, hnull⟩
    obtain ⟨part, hpart, rfl⟩ := List.mem_map.1 hname
    rw [String.toList_ofList] at hnull
    exact mem_of_mem_parts (List.mem_of_mem_filter hpart) hnull
  · intro hnull
    obtain ⟨part, hpart, hmem⟩ := exists_mem_parts hnull (by decide)
    have hkept : isKept part = true := by
      unfold isKept
      rw [Bool.and_eq_true, decide_eq_true_eq, decide_eq_true_eq]
      constructor
      · rintro rfl
        cases hmem
      · rintro rfl
        exact absurd hmem (by decide)
    refine ⟨String.ofList part, List.mem_map.2 ⟨part, List.mem_filter.2 ⟨hpart, hkept⟩, rfl⟩, ?_⟩
    rw [String.toList_ofList]
    exact hmem

/-! ## The home directory -/

/-- Without the slashes at its end, a text starts as before unless it was all
slashes. -/
theorem head?_rdropWhile_eq_tilde :
    (text.rdropWhile (· = '/')).head? = some '~' ↔ text.head? = some '~' := by
  have hsplit := List.rdropWhile_append_rtakeWhile (p := (· = '/')) (l := text)
  cases htrimmed : text.rdropWhile (· = '/') with
  | nil =>
    have hslashes := List.rdropWhile_eq_nil_iff.1 htrimmed
    constructor
    · intro h
      cases h
    · intro h
      exact absurd (hslashes '~' (List.mem_of_head? h)) (by decide)
  | cons d rest =>
    rw [htrimmed] at hsplit
    rw [← hsplit]
    rfl

/-- A home directory is not known if its own text starts with a tilde. -/
theorem homePath_eq_error (h : home.toList.head? = some '~') :
    homePath home = .error .homeUnknown :=
  if_pos (head?_rdropWhile_eq_tilde.2 h)

/-- Any other text gives a path, with null characters only where it has
some. -/
theorem exists_homePath (h : home.toList.head? ≠ some '~') :
    ∃ base, homePath home = .ok base ∧ (base.hasNull = true ↔ '\x00' ∈ home.toList) := by
  have hhead : (home.toList.rdropWhile (· = '/')).head? ≠ some '~' :=
    mt head?_rdropWhile_eq_tilde.1 h
  have hsplit := List.rdropWhile_append_rtakeWhile (p := (· = '/')) (l := home.toList)
  have hslash : '\x00' ∉ home.toList.rtakeWhile (· = '/') := by
    intro hmem
    exact absurd (List.mem_rtakeWhile_imp hmem) (by decide)
  have hmem : '\x00' ∈ home.toList ↔ '\x00' ∈ home.toList.rdropWhile (· = '/') := by
    rw [← hsplit, List.mem_append, hsplit]
    exact or_iff_left hslash
  have hpath : homePath home =
      if home.toList.rdropWhile (· = '/') = [] then .ok (ofString "/")
      else .ok (ofString (String.ofList (home.toList.rdropWhile (· = '/')))) := if_neg hhead
  rw [hpath, hmem]
  split
  · next hnil =>
    refine ⟨_, rfl, ?_⟩
    rw [hnil, hasNull_ofString]
    decide
  · refine ⟨_, rfl, ?_⟩
    rw [hasNull_ofString, String.toList_ofList]

/-! ## Expansion -/

/-- **A path starts at a home directory** if it is relative and its first
name, which is that of the directory, starts with a tilde. -/
def StartsAtHome (p : Path) (name : String) : Prop :=
  p.root = .none ∧ p.names.head? = some name ∧ name.toList.head? = some '~'

/-- It starts at one home directory only. -/
theorem StartsAtHome.unique (h : p.StartsAtHome name) (h' : p.StartsAtHome name') :
    name = name' :=
  Option.some.inj (h.2.1.symm.trans h'.2.1)

/-- **What becomes of a path** once a home directory is put in. -/
inductive Expansion (directory? : String → Option String) (p : Path) : Except Fault Path → Prop
  /-- A path that starts at no home directory stays as it is. -/
  | same (h : ∀ name, ¬ p.StartsAtHome name) : Expansion directory? p (.ok p)
  /-- A name with a null character is not even looked up. -/
  | null {name : String} (h : p.StartsAtHome name) (hnull : '\x00' ∈ name.toList) :
      Expansion directory? p (.error .pathNull)
  /-- A name may stand for no directory. -/
  | unknown {name : String} (h : p.StartsAtHome name) (hnull : '\x00' ∉ name.toList)
      (hname : directory? name = none) : Expansion directory? p (.error .homeUnknown)
  /-- Nor is the directory known if its text starts with a tilde again. -/
  | homeless {name home : String} (h : p.StartsAtHome name) (hnull : '\x00' ∉ name.toList)
      (hname : directory? name = some home) (hhome : home.toList.head? = some '~') :
      Expansion directory? p (.error .homeUnknown)
  /-- Otherwise the path starts where the home directory does, and its names
  behind the first follow those of the home directory. -/
  | home {name home : String} {base q : Path} (h : p.StartsAtHome name)
      (hnull : '\x00' ∉ name.toList) (hname : directory? name = some home)
      (hhome : home.toList.head? ≠ some '~') (hbase : homePath home = .ok base)
      (hroot : q.root = base.root) (hnames : q.names = base.names ++ p.names.tail) :
      Expansion directory? p (.ok q)

theorem expansion_expandHome (p : Path) (directory? : String → Option String) :
    Expansion directory? p (p.expandHome directory?) := by
  unfold expandHome
  split
  · next hn =>
    refine .same ?_
    rintro name ⟨-, hname, -⟩
    rw [hn] at hname
    cases hname
  · next first rest hn =>
    split
    · next hfirst =>
      have hstarts : p.StartsAtHome first := ⟨hfirst.1, by rw [hn]; rfl, hfirst.2⟩
      split
      · next hnull => exact .null hstarts (List.contains_iff_mem.1 hnull)
      · next hnull =>
        have hnull : '\x00' ∉ first.toList := mt List.contains_iff_mem.2 hnull
        split
        · next hname => exact .unknown hstarts hnull hname
        · next home hname =>
          by_cases hhome : home.toList.head? = some '~'
          · rw [homePath_eq_error hhome]
            exact .homeless hstarts hnull hname hhome
          · obtain ⟨base, hbase, -⟩ := exists_homePath hhome
            have htail : p.names.tail = rest := by rw [hn]; rfl
            rw [hbase]
            exact .home hstarts hnull hname hhome hbase rfl (congrArg (base.names ++ ·) htail.symm)
    · next hfirst =>
      refine .same ?_
      rintro name ⟨hroot, hname, htilde⟩
      rw [hn] at hname
      obtain rfl : first = name := Option.some.inj hname
      exact hfirst ⟨hroot, htilde⟩

end Path

/-! ## Users -/

namespace FileSystem

variable {fs : FileSystem} {home : Option String} {name text text' : String}

end FileSystem

end LineMap
