import LineMap.Fault
/-!
# Paths — names of files, normalised

A path is kept in one normal form: a root, and the names below it.
Reading a path drops empty parts and parts that are a single dot, keeps
parts that are two dots, and takes three or more slashes at the front for
one; exactly two slashes are a root of their own. Writing a path joins its
names with slashes, and a path without root and names is a single dot. The
text of a path has scalar values for its characters, as every text has; a
name that is no text in this sense, with a surrogate alone in it, is not
among the paths.

A relative path whose first name starts with a tilde can be expanded: that
name stands for a home directory, which is looked up by the name.
-/

namespace LineMap

/-- Where a path starts. -/
inductive Path.Root
  | none
  | slash
  | twoSlashes
deriving DecidableEq

/-- Whether a text may be a name on a path: it is not empty, it is not a
single dot, and it has no slash. -/
def Path.IsName (name : String) : Prop :=
  name ≠ "" ∧ name ≠ "." ∧ '/' ∉ name.toList

/-- A path in normal form. -/
structure Path where
  root : Path.Root
  names : List String
  names_isName : ∀ name ∈ names, Path.IsName name
deriving DecidableEq

namespace Path

/-- The parts of a text between its slashes. -/
def parts : List Char → List (List Char)
  | [] => [[]]
  | c :: rest =>
    if c = '/' then [] :: parts rest
    else
      match parts rest with
      | [] => [[c]]
      | part :: others => (c :: part) :: others

/-- No part has a slash. -/
theorem slash_not_mem_parts {text part : List Char} (h : part ∈ parts text) : '/' ∉ part := by
  induction text generalizing part with
  | nil => simp only [parts, List.mem_singleton] at h; simp [h]
  | cons c rest ih =>
    rw [parts] at h
    split at h
    · rcases List.mem_cons.1 h with rfl | h
      · simp
      · exact ih h
    · next hc =>
      split at h
      · simp only [List.mem_singleton] at h
        simp [h, Ne.symm hc]
      · next part' others hp =>
        rcases List.mem_cons.1 h with rfl | h
        · simp only [List.mem_cons, not_or]
          exact ⟨Ne.symm hc, ih (by rw [hp]; exact List.mem_cons_self)⟩
        · exact ih (by rw [hp]; exact List.mem_cons_of_mem _ h)

/-- Whether a part is kept. -/
def isKept (part : List Char) : Bool :=
  part ≠ [] && part ≠ ['.']

/-- The root of a path, by the slashes at its front. -/
def rootOf : List Char → Root
  | '/' :: '/' :: '/' :: _ => .slash
  | '/' :: '/' :: _ => .twoSlashes
  | '/' :: _ => .slash
  | _ => .none

/-- **The path that a text writes.** -/
def ofString (text : String) : Path where
  root := rootOf text.toList
  names := ((parts text.toList).filter isKept).map String.ofList
  names_isName name h := by
    obtain ⟨part, hp, rfl⟩ := List.mem_map.1 h
    obtain ⟨hmem, hkept⟩ := List.mem_filter.1 hp
    simp only [isKept, Bool.and_eq_true, ne_eq, decide_not,
      Bool.not_eq_true', decide_eq_false_iff_not] at hkept
    refine ⟨fun he => hkept.1 ?_, fun he => hkept.2 ?_, ?_⟩
    · simpa using congrArg String.toList he
    · simpa using congrArg String.toList he
    · simpa using slash_not_mem_parts hmem

/-- Names joined with slashes. -/
def joined : List String → String
  | [] => ""
  | [name] => name
  | name :: next :: rest => name ++ "/" ++ joined (next :: rest)

/-- How a root is written. -/
def Root.text : Root → String
  | none => ""
  | slash => "/"
  | twoSlashes => "//"

/-- **How a path is written.** -/
def text (p : Path) : String :=
  if p.root = .none ∧ p.names = [] then "." else p.root.text ++ joined p.names

/-- Whether a path has a null character, which no file system takes. -/
def hasNull (p : Path) : Bool :=
  p.names.any fun name => name.toList.contains '\x00'

/-- The path of a home directory. Slashes at the end of its text do not
count, and nothing but slashes is the root. -/
def homePath (home : String) : Except Fault Path :=
  let trimmed := (home.toList.reverse.dropWhile (· = '/')).reverse
  if trimmed.head? = some '~' then .error .homeUnknown
  else if trimmed = [] then .ok (ofString "/")
  else .ok (ofString (String.ofList trimmed))

/-- **The path with a home directory in place of its first name**, if that
name starts with a tilde. The lookup `directory?` gives the text of the
directory that a name stands for, if there is one; a name with a null
character is not looked up. -/
def expandHome (p : Path) (directory? : String → Option String) : Except Fault Path :=
  match hn : p.names with
  | [] => .ok p
  | first :: rest =>
    if p.root = .none ∧ first.toList.head? = some '~' then
      if first.toList.contains '\x00' then .error .pathNull
      else
        match directory? first with
        | none => .error .homeUnknown
        | some home => do
          let base ← homePath home
          return { base with
            names := base.names ++ rest
            names_isName := fun name h => by
              rcases List.mem_append.1 h with h | h
              · exact base.names_isName name h
              · exact p.names_isName name (by rw [hn]; exact List.mem_cons_of_mem _ h) }
    else .ok p

end Path

end LineMap
