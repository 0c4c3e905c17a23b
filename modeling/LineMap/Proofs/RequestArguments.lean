import LineMap.Cli.Arguments
import LineMap.Proofs.Numerals
import LineMap.Proofs.Outcomes
/-!
# Request arguments — what can be asked for

A request can be put into arguments: the flag, if it has one, a `--`, the
file, and the offsets as plain numerals. Behind the `--` all arguments are
words, so neither the file nor a negative offset is taken for a flag. What is
read of these arguments is the request again, unless a numeral has more digits
than are read; then the first one that does is a mistake in the usage.
-/

namespace LineMap.Cli

open Decimal (digitCount digitLimit)

variable {request : Request} {offsets front back : List Int} {o : Int}

/-- **The arguments that ask for a request.** -/
def Request.arguments (request : Request) : List String :=
  (if request.json then ["--json"] else []) ++
    "--" :: request.file :: request.offsets.map toString

/-! ## Offsets -/

/-- What is read of an offset in its plain form. -/
def readWritten (o : Int) : Except UsageError Int :=
  if digitLimit < digitCount o then .error (.invalidOffset (toString o)) else .ok o

theorem readWritten_of_short (h : digitCount o ≤ digitLimit) : readWritten o = .ok o :=
  if_neg (Nat.not_lt.2 h)

theorem readWritten_of_long (h : digitLimit < digitCount o) :
    readWritten o = .error (.invalidOffset (toString o)) :=
  if_pos h

/-- The words that offsets are written as. -/
def offsetWords (offsets : List Int) : List Token :=
  (offsets.map toString).map .word

theorem countP_isWord_offsetWords (offsets : List Int) :
    (offsetWords offsets).countP Token.isWord = offsets.length := by
  have hwords : ∀ token ∈ offsetWords offsets, token.isWord = true := by
    intro token htoken
    obtain ⟨text, -, rfl⟩ := List.mem_map.1 htoken
    rfl
  rw [List.countP_eq_length.2 hwords, offsetWords, List.length_map, List.length_map]

/-- Offsets are read one by one: none of them is written as the `--` that does
not count. -/
theorem readOffsets_offsetWords (offsets : List Int) :
    readOffsets (offsetWords offsets) = offsets.mapM readWritten := by
  have htexts : (offsetWords offsets).map Token.text = offsets.map toString := by
    rw [offsetWords, List.map_map]
    exact List.map_id _
  have hdashes : "--" ∉ offsets.map toString := by
    intro hmem
    obtain ⟨o, -, ho⟩ := List.mem_map.1 hmem
    exact toString_ne_dashes o ho
  rw [readOffsets, htexts, List.erase_of_not_mem hdashes, List.mapM_map]
  congr 1
  funext o
  rw [Function.comp_apply, Decimal.integer?_toString]
  by_cases hlong : digitLimit < digitCount o
  · rw [if_pos hlong, readWritten_of_long hlong]
  · rw [if_neg hlong, readWritten_of_short (Nat.not_lt.1 hlong)]

theorem mapM_readWritten_of_short (h : ∀ o ∈ offsets, digitCount o ≤ digitLimit) :
    offsets.mapM readWritten = .ok offsets := by
  have hread : offsets.mapM readWritten = .ok (offsets.map id) :=
    mapM_eq_ok fun o ho => readWritten_of_short (h o ho)
  rwa [List.map_id] at hread

/-- The first offset with too many digits is the mistake. -/
theorem mapM_readWritten_of_long (hfront : ∀ x ∈ front, digitCount x ≤ digitLimit)
    (ho : digitLimit < digitCount o) :
    (front ++ o :: back).mapM readWritten = .error (.invalidOffset (toString o)) :=
  mapM_eq_error (fun x hx => ⟨x, readWritten_of_short (hfront x hx)⟩) (readWritten_of_long ho)

/-! ## Arguments -/

/-- Words are gathered up to the end. By induction on them, with the run so
far. -/
theorem consume_words (state : Intake) (run : List Token) (words : List String) :
    consume state run (words.map .word) =
      (state.takeRun (run ++ words.map .word) >>= Intake.finish) := by
  induction words generalizing run with
  | nil =>
    rw [List.map_nil, List.append_nil]
    rfl
  | cons word words ih =>
    have hstep : consume state run ((word :: words).map .word) =
        consume state (run ++ [.word word]) (words.map .word) := rfl
    rw [hstep, ih, List.append_assoc]
    rfl

/-- A run of the file and the offsets fills both. -/
theorem takeRun_of_request (json : Bool) (file : String) (hne : offsets ≠ []) :
    ({ json := json } : Intake).takeRun (.separator :: .word file :: offsetWords offsets) =
      (readOffsets (offsetWords offsets) >>= fun read =>
        .ok { file := some file, offsets := some read, json := json }) := by
  have hcount : 2 ≤ (.separator :: .word file :: offsetWords offsets).countP Token.isWord := by
    have hlength := List.length_pos_iff.2 hne
    rw [List.countP_cons_of_neg (by decide), List.countP_cons_of_pos rfl,
      countP_isWord_offsetWords]
    omega
  rw [Intake.takeRun]
  dsimp only
  rw [if_pos hcount]
  rfl

theorem tokens_arguments (request : Request) :
    tokens request.arguments = .ok ((if request.json then [.long .json none] else []) ++
      .separator :: .word request.file :: offsetWords request.offsets) := by
  obtain ⟨file, offsets, json⟩ := request
  have hwords : tokens ("--" :: file :: offsets.map toString) =
      .ok (.separator :: .word file :: offsetWords offsets) := if_pos rfl
  cases json with
  | false => exact hwords
  | true =>
    have hflag : classify "--json" = .ok (.long .json none) := rfl
    change tokens ("--json" :: "--" :: file :: offsets.map toString) = _
    rw [tokens, if_neg (by decide), hflag, ok_bind, hwords]
    rfl

/-- **What is read of the arguments that ask for a request** hangs on its
offsets alone. -/
theorem ofArguments_arguments (hne : request.offsets ≠ []) :
    Command.ofArguments request.arguments =
      (request.offsets.mapM readWritten >>= fun read =>
        .ok (.locate { request with offsets := read })) := by
  obtain ⟨file, offsets, json⟩ := request
  have hflag : Command.ofArguments (Request.arguments ⟨file, offsets, json⟩) =
      consume { json := json } [.separator] ((file :: offsets.map toString).map .word) := by
    rw [Command.ofArguments, tokens_arguments, ok_bind]
    cases json <;> rfl
  have hrun : [Token.separator] ++ (file :: offsets.map toString).map .word =
      .separator :: .word file :: offsetWords offsets := rfl
  rw [hflag, consume_words, hrun, takeRun_of_request json file hne, readOffsets_offsetWords]
  cases offsets.mapM readWritten <;> rfl

/-- **Short offsets are read as they are.** -/
theorem ofArguments_of_short (hne : request.offsets ≠ [])
    (hshort : ∀ o ∈ request.offsets, digitCount o ≤ digitLimit) :
    Command.ofArguments request.arguments = .ok (.locate request) := by
  rw [ofArguments_arguments hne, mapM_readWritten_of_short hshort]
  rfl

/-- The first offset that is not short is refused, in the words of its
numeral. -/
theorem ofArguments_of_long (hoffsets : request.offsets = front ++ o :: back)
    (hfront : ∀ x ∈ front, digitCount x ≤ digitLimit) (ho : digitLimit < digitCount o) :
    Command.ofArguments request.arguments = .error (.invalidOffset (toString o)) := by
  have hne : request.offsets ≠ [] := by
    rw [hoffsets]
    exact List.append_ne_nil_of_right_ne_nil _ (List.cons_ne_nil _ _)
  rw [ofArguments_arguments hne, hoffsets, mapM_readWritten_of_long hfront ho]
  rfl

end LineMap.Cli
