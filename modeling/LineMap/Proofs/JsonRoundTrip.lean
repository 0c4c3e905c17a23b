import LineMap.Proofs.Citations
import LineMap.Proofs.JsonReader
/-!
# JSON round trips — a value is read back from its text

The text of a JSON value says that value and no other. The reader of
characters takes the text to the tokens of the value (`reads_renderAt`):
what stands between gaps is read on its own, and only a word, such as a
numeral, needs the next character to know that it has ended. The builder
takes these tokens back to the value, whatever arrays and objects are open
around it (`foldlM_tokensOf`).
-/

namespace LineMap.JsonValue

variable {chars more : List Char} {ts us : List Token} {c : Char}

/-- A run over a list goes on where a run over its front has come to. -/
theorem foldlM_append_of_eq {α σ : Type} {f : σ → α → Option σ} {front back : List α} {st st' : σ}
    (h : front.foldlM f st = some st') : (front ++ back).foldlM f st = back.foldlM f st' := by
  rw [List.foldlM_append, h]
  rfl

/-! ## Numbers -/

/-- Every digit is read back. -/
theorem hexValue?_digitChar {n : Nat} (h : n < 0x10) : hexValue? (Nat.digitChar n) = some n := by
  have hall : ∀ m < 0x10, hexValue? (Nat.digitChar m) = some m := by decide
  exact hall n h

/-- A number that is not zero does not start with one. -/
theorem head?_toDigits_ne {n : Nat} (h : 0 < n) : (Nat.toDigits 10 n).head? ≠ some '0' := by
  induction n using Nat.base_induction 10 (by decide) with
  | single m hm =>
    have hall : ∀ m < 10, 0 < m → Nat.digitChar m ≠ '0' := by decide
    rw [Nat.toDigits_of_lt_base hm]
    exact fun hzero => hall m hm h (Option.some.inj hzero)
  | digit m k hk hm ih =>
    rw [← Nat.toDigits_append_toDigits (by decide) hm hk]
    cases hfront : Nat.toDigits 10 m with
    | nil => exact absurd hfront Nat.toDigits_ne_nil
    | cons c cs =>
      rw [hfront] at ih
      exact ih hm

/-- A numeral is read back. -/
theorem natural?_toString (n : Nat) : Token.natural? (toString n).toList = some n := by
  rw [Nat.toString_eq_repr, Nat.toList_repr]
  have hdigits : (Nat.toDigits 10 n).all Char.isDigit := by
    rw [List.all_eq_true]
    exact fun c hc => Nat.isDigit_of_mem_toDigits (by decide) (by decide) hc
  unfold Token.natural?
  split
  next hnil => exact absurd hnil Nat.toDigits_ne_nil
  next hzero =>
    rcases Nat.eq_zero_or_pos n with rfl | hpos
    · cases hzero
    · exact absurd (congrArg List.head? hzero) (head?_toDigits_ne hpos)
  next => rw [if_pos hdigits, Nat.ofDigitChars_ten_toDigits]

/-- A sign in front of a numeral is read back, and so is its absence. -/
theorem ofWord?_toString (n : Int) : Token.ofWord? (toString n).toList = some (.number n) := by
  cases n with
  | ofNat n =>
    have htext : toString (Int.ofNat n) = toString n := rfl
    have hread := natural?_toString n
    obtain ⟨c, rest, hlist, hc⟩ := exists_toList_toString n
    rw [htext]
    rw [hlist] at hread ⊢
    unfold Token.ofWord?
    -- the cases of the reader that a digit at the front rules out
    rw [if_neg (fun h => by cases h; exact absurd hc (by decide))]
    split
    next h =>
      cases h
      exact absurd hc (by decide)
    next =>
      rw [hread]
      rfl
  | negSucc n =>
    rw [toList_toString_negSucc, Token.ofWord?, if_neg (fun h => by cases h), natural?_toString]
    rfl

/-! ## Texts -/

/-- The four digits of a unit, zeros at the front included. -/
theorem hexDigits_four {n : Nat} (h : n < 0x10000) :
    Text.hexDigits 4 n = [Nat.digitChar (n / 0x1000), Nat.digitChar (n / 0x100 % 0x10),
      Nat.digitChar (n / 0x10 % 0x10), Nat.digitChar (n % 0x10)] := by
  have hdigit : ∀ m < 0x10, Nat.toDigits 16 m = [Nat.digitChar m] :=
    fun m hm => Nat.toDigits_of_lt_base hm
  have hmore : ∀ m, 0x10 ≤ m →
      Nat.toDigits 16 m = Nat.toDigits 16 (m / 0x10) ++ [Nat.digitChar (m % 0x10)] :=
    fun m hm => Nat.toDigits_of_base_le (by decide) hm
  unfold Text.hexDigits
  rcases Nat.lt_or_ge n 0x10 with h1 | h1
  · have h0 : n / 0x1000 = 0 ∧ n / 0x100 % 0x10 = 0 ∧ n / 0x10 % 0x10 = 0 ∧ n % 0x10 = n := by omega
    rw [h0.1, h0.2.1, h0.2.2.1, h0.2.2.2, hdigit n h1]
    rfl
  rw [hmore n h1]
  rcases Nat.lt_or_ge n 0x100 with h2 | h2
  · rw [hdigit (n / 0x10) (by omega)]
    have h0 : n / 0x1000 = 0 ∧ n / 0x100 % 0x10 = 0 ∧ n / 0x10 % 0x10 = n / 0x10 := by omega
    rw [h0.1, h0.2.1, h0.2.2]
    rfl
  rw [hmore (n / 0x10) (by omega), Nat.div_div_eq_div_mul]
  rcases Nat.lt_or_ge n 0x1000 with h3 | h3
  · rw [hdigit _ (by omega)]
    have h0 : n / 0x1000 = 0 ∧ n / 0x100 % 0x10 = n / (0x10 * 0x10) := by omega
    rw [h0.1, h0.2]
    rfl
  rw [hmore _ (by omega), Nat.div_div_eq_div_mul, hdigit _ (by omega)]
  rfl

/-- The units of a character. -/
def unitsOf (c : Char) : List Nat :=
  if c.toNat < 0x10000 then [c.toNat]
  else [0xd800 + (c.toNat - 0x10000) / 0x400, 0xdc00 + (c.toNat - 0x10000) % 0x400]

/-- **The four digits of a unit** are put together again. -/
theorem foldlM_unitEscape {n : Nat} (h : n < 0x10000) (done : List Token) (units : List Nat) :
    (unitEscape n).foldlM lexStep (done, .text units) = some (done, .text (n :: units)) := by
  have hopen : ∀ rest : List Char, ('\\' :: 'u' :: rest).foldlM lexStep (done, .text units) =
      rest.foldlM lexStep (done, .unit units 0 4) := fun rest => rfl
  have hmore : ∀ value due m rest, m < 0x10 →
      (Nat.digitChar m :: rest).foldlM lexStep (done, .unit units value (due + 2)) =
        rest.foldlM lexStep (done, .unit units (value * 16 + m) (due + 1)) := by
    intro value due m rest hm
    rw [List.foldlM_cons, lexStep, hexValue?_digitChar hm]
    rfl
  have hlast : ∀ value m, m < 0x10 →
      [Nat.digitChar m].foldlM lexStep (done, .unit units value 1) =
        some (done, .text ((value * 16 + m) :: units)) := by
    intro value m hm
    rw [List.foldlM_cons, lexStep, hexValue?_digitChar hm]
    rfl
  have hsum : (((0 * 16 + n / 0x1000) * 16 + n / 0x100 % 0x10) * 16 + n / 0x10 % 0x10) * 16 +
      n % 0x10 = n := by omega
  rw [unitEscape, hexDigits_four h, hopen, hmore _ _ _ _ (by omega), hmore _ _ _ _ (by omega),
    hmore _ _ _ _ (by omega), hlast _ _ (by omega), hsum]

/-- **What a character is written with** is read as its units. -/
theorem foldlM_escape (c : Char) (done : List Token) (units : List Nat) :
    (escape c).foldlM lexStep (done, .text units) =
      some (done, .text ((unitsOf c).reverse ++ units)) := by
  have hvalid : c.toNat < 0xD800 ∨ 0xDFFF < c.toNat ∧ c.toNat < 0x110000 := c.valid
  unfold escape
  -- the seven characters that have an escape of their own
  iterate 7
    split
    next h => subst h; rfl
  split
  next hquote hslash _ _ _ _ _ hplain =>
    have hle : c.toNat ≤ 0x7E := hplain.2
    rw [List.foldlM_cons, lexStep, if_neg hquote, if_neg hslash, if_neg (Char.not_lt.2 hplain.1),
      unitsOf, if_pos (by omega)]
    rfl
  split
  next h => rw [foldlM_unitEscape h, unitsOf, if_pos h]; rfl
  next h =>
    dsimp only
    rw [foldlM_append_of_eq (foldlM_unitEscape (by omega) done units),
      foldlM_unitEscape (by omega), unitsOf, if_neg h]
    rfl

/-- The same for all characters of a text. -/
theorem foldlM_flatMap_escape (value : List Char) (done : List Token) (units : List Nat) :
    (value.flatMap escape).foldlM lexStep (done, .text units) =
      some (done, .text ((value.flatMap unitsOf).reverse ++ units)) := by
  induction value generalizing units with
  | nil => rfl
  | cons c rest ih =>
    rw [List.flatMap_cons, foldlM_append_of_eq (foldlM_escape c done units), List.flatMap_cons,
      List.reverse_append, List.append_assoc]
    exact ih _

theorem char?_toNat (c : Char) : char? c.toNat = some c := by
  have hvalid : c.toNat.isValidChar := c.valid
  rw [char?, if_pos hvalid, Char.ofNat_toNat]

/-- **A text is read back from its units.** -/
theorem ofUnits?_flatMap (value : List Char) : ofUnits? (value.flatMap unitsOf) = some value := by
  induction value with
  | nil => rfl
  | cons c rest ih =>
    have hvalid : c.toNat < 0xD800 ∨ 0xDFFF < c.toNat ∧ c.toNat < 0x110000 := c.valid
    rw [List.flatMap_cons]
    by_cases h : c.toNat < 0x10000
    · rw [unitsOf, if_pos h, List.singleton_append]
      cases hrest : rest.flatMap unitsOf with
      | nil =>
        rw [hrest] at ih
        cases ih
        rw [ofUnits?, char?_toNat]
        rfl
      | cons low tail =>
        rw [ofUnits?, if_neg (by omega), ← hrest, ih, char?_toNat]
        rfl
    · have hsum : 0x10000 + (0xd800 + (c.toNat - 0x10000) / 0x400 - 0xd800) * 0x400 +
          (0xdc00 + (c.toNat - 0x10000) % 0x400 - 0xdc00) = c.toNat := by omega
      rw [unitsOf, if_neg h, List.cons_append, List.singleton_append, ofUnits?, if_pos (by omega),
        hsum, char?_toNat, ih]
      rfl

/-! ## From gap to gap -/

/-- The reader has these tokens, and it takes any character that does not go
on with a word as if it stood between tokens. -/
def Settles (st : Lexing) (done : List Token) : Prop :=
  (∀ c, isPlain c = false → lexStep st c = some (enter done c)) ∧ st.finish? = some done.reverse

/-- From one gap to another, the characters are read as these tokens. -/
def Spans (chars : List Char) (ts : List Token) : Prop :=
  ∀ done, chars.foldlM lexStep (done, .gap) = some (ts.reverse ++ done, .gap)

/-- The characters are read as these tokens, the last of which may be a word
that has not ended yet. -/
def Reads (chars : List Char) (ts : List Token) : Prop :=
  ∀ done, ∃ st, chars.foldlM lexStep (done, .gap) = some st ∧ Settles st (ts.reverse ++ done)

/-- A gap at the end is no word that has not ended. -/
theorem Spans.reads (h : Spans chars ts) : Reads chars ts :=
  fun done => ⟨_, h done, fun _ _ => rfl, rfl⟩

/-- Behind a gap anything may come. -/
theorem Spans.append (ha : Spans chars ts) (hb : Reads more us) :
    Reads (chars ++ more) (ts ++ us) := by
  intro done
  obtain ⟨st, hst, hsettles⟩ := hb (ts.reverse ++ done)
  refine ⟨st, ?_, ?_⟩
  · rw [foldlM_append_of_eq (ha done)]
    exact hst
  · rw [List.reverse_append, List.append_assoc]
    exact hsettles

/-- Behind a word has to come a character that ends it. -/
theorem Reads.append_cons (ha : Reads chars ts) (hc : isPlain c = false)
    (hb : Reads (c :: more) us) : Reads (chars ++ c :: more) (ts ++ us) := by
  intro done
  obtain ⟨st, hst, hend, -⟩ := ha done
  obtain ⟨st', hst', hsettles⟩ := hb (ts.reverse ++ done)
  refine ⟨st', ?_, ?_⟩
  · rw [foldlM_append_of_eq hst, List.foldlM_cons, hend c hc, ← hst', List.foldlM_cons]
    rfl
  · rw [List.reverse_append, List.append_assoc]
    exact hsettles

/-- A text is read as one token. -/
theorem spans_quoted (value : String) : Spans (quoted value) [.text value] := by
  intro done
  have hopen : ('"' :: value.toList.flatMap escape ++ ['"']).foldlM lexStep (done, .gap) =
      (value.toList.flatMap escape ++ ['"']).foldlM lexStep (done, .text []) := rfl
  rw [quoted, hopen, foldlM_append_of_eq (foldlM_flatMap_escape value.toList done []),
    List.append_nil, List.foldlM_cons, lexStep, if_pos rfl, List.reverse_reverse,
    ofUnits?_flatMap, Option.map_some, String.ofList_toList]
  rfl

/-- Blanks make no token. -/
theorem spans_blanks (h : ∀ c ∈ chars, isBlank c) : Spans chars [] := by
  intro done
  induction chars with
  | nil => rfl
  | cons c rest ih =>
    have hc : isBlank c := h c List.mem_cons_self
    have hstep : lexStep (done, .gap) c = some (done, .gap) := by
      rw [lexStep, enter, if_neg (fun hquote => by subst hquote; cases hc), if_pos hc]
    rw [List.foldlM_cons, hstep]
    exact ih fun d hd => h d (List.mem_cons_of_mem _ hd)

/-- Blanks behind the characters change nothing. -/
theorem Reads.append_blanks (ha : Reads chars ts) (h : ∀ c ∈ more, isBlank c) :
    Reads (chars ++ more) ts := by
  cases more with
  | nil =>
    rw [List.append_nil]
    exact ha
  | cons c rest =>
    have hc : isPlain c = false := by
      rw [isPlain, h c List.mem_cons_self]
      rfl
    rw [← List.append_nil ts]
    exact ha.append_cons hc (spans_blanks h).reads

theorem spans_lineBreak (level : Nat) : Spans (lineBreak level) [] := by
  refine spans_blanks fun c hc => ?_
  rcases List.mem_cons.1 hc with rfl | hc
  · rfl
  · rw [List.eq_of_mem_replicate hc]
    rfl

/-- A plain character starts a word. -/
theorem enter_of_isPlain (h : isPlain c) (done : List Token) : enter done c = (done, .word [c]) := by
  simp only [isPlain, Bool.and_eq_true, Bool.not_eq_true', Option.isNone_iff_eq_none,
    ne_eq, decide_not, decide_eq_false_iff_not] at h
  obtain ⟨⟨hblank, hmark⟩, hquote⟩ := h
  rw [enter, if_neg hquote, if_neg (by rw [hblank]; decide), hmark]

/-- Plain characters go on with a word. -/
theorem foldlM_word (h : ∀ d ∈ chars, isPlain d) (done : List Token) (w : List Char) :
    chars.foldlM lexStep (done, .word w) = some (done, .word (chars.reverse ++ w)) := by
  induction chars generalizing w with
  | nil => rfl
  | cons d rest ih =>
    rw [List.foldlM_cons, lexStep, if_pos (h d List.mem_cons_self), List.reverse_cons,
      List.append_assoc]
    exact ih (fun e he => h e (List.mem_cons_of_mem _ he)) _

/-- **A word is read as its token** as soon as it has ended. -/
theorem reads_word {token : Token} (hplain : ∀ d ∈ c :: chars, isPlain d)
    (h : Token.ofWord? (c :: chars) = some token) : Reads (c :: chars) [token] := by
  intro done
  have hword : Token.ofWord? (chars.reverse ++ [c]).reverse = some token := by
    rw [List.reverse_append, List.reverse_reverse]
    exact h
  refine ⟨(done, .word (chars.reverse ++ [c])), ?_, fun d hd => ?_, ?_⟩
  · rw [List.foldlM_cons, lexStep, enter_of_isPlain (hplain c List.mem_cons_self)]
    exact foldlM_word (fun d hd => hplain d (List.mem_cons_of_mem _ hd)) done [c]
  · rw [lexStep, if_neg (by rw [hd]; decide), hword]
    rfl
  · rw [Lexing.finish?, hword]
    rfl

/-- Digits go on with a word. -/
theorem isPlain_of_isDigit (h : c.isDigit) : isPlain c := by
  have hall : ∀ n < 10, isPlain (Char.ofNat (0x30 + n)) := by decide
  have hc : 0x30 ≤ c.toNat ∧ c.toNat ≤ 0x39 := Char.isDigit_iff_toNat.1 h
  rw [← Char.ofNat_toNat c, ← Nat.add_sub_of_le hc.1]
  exact hall _ (by omega)

/-- So does all of a numeral. -/
theorem isPlain_of_mem_toString {n : Int} (h : c ∈ (toString n).toList) : isPlain c := by
  cases n with
  | ofNat n => exact isPlain_of_isDigit (isDigit_of_mem_toString h)
  | negSucc n =>
    rw [toList_toString_negSucc, List.mem_cons] at h
    rcases h with rfl | h
    · rfl
    · exact isPlain_of_isDigit (isDigit_of_mem_toString h)

/-- A number is read back. -/
theorem reads_number (n : Int) : Reads (toString n).toList [.number n] := by
  have hplain : ∀ d ∈ (toString n).toList, isPlain d := fun d hd => isPlain_of_mem_toString hd
  have hread := ofWord?_toString n
  cases hword : (toString n).toList with
  | nil =>
    rw [hword] at hread
    cases hread
  | cons c rest =>
    rw [hword] at hplain hread
    exact reads_word hplain hread

/-! ## Values -/

mutual

/-- The tokens that a value is written with. -/
def tokensOf : JsonValue → List Token
  | null => [.null]
  | number value => [.number value]
  | text value => [.text value]
  | array items => .openArray :: itemTokens items ++ [.closeArray]
  | object fields => .openObject :: fieldTokens fields ++ [.closeObject]

/-- The tokens of items, with commas between them. -/
def itemTokens : List JsonValue → List Token
  | [] => []
  | [item] => tokensOf item
  | item :: next :: rest => tokensOf item ++ .comma :: itemTokens (next :: rest)

/-- The tokens of fields, with commas between them. -/
def fieldTokens : List (String × JsonValue) → List Token
  | [] => []
  | [(name, value)] => .text name :: .colon :: tokensOf value
  | (name, value) :: next :: rest =>
    .text name :: .colon :: tokensOf value ++ .comma :: fieldTokens (next :: rest)

end

/-- A field is read as its name, the colon and its value. -/
theorem reads_field (level : Nat) (name : String) (h : Reads chars ts) :
    Reads (lineBreak level ++ quoted name ++ [':', ' '] ++ chars) (.text name :: .colon :: ts) := by
  have hcolon : Spans [':', ' '] [.colon] := fun done => rfl
  simp only [List.append_assoc]
  exact (spans_lineBreak level).append ((spans_quoted name).append (hcolon.append h))

mutual

/-- **The text of a value is read as its tokens.** -/
theorem reads_renderAt (level : Nat) : (v : JsonValue) → Reads (renderAt level v) (tokensOf v)
  | null => by
    have hplain : ∀ d ∈ ['n', 'u', 'l', 'l'], isPlain d := List.all_eq_true.1 rfl
    rw [renderAt, tokensOf]
    exact reads_word hplain rfl
  | number n => by
    rw [renderAt, tokensOf]
    exact reads_number n
  | text value => by
    rw [renderAt, tokensOf]
    exact (spans_quoted value).reads
  | array [] => by
    rw [renderAt, tokensOf, itemTokens]
    exact Spans.reads fun done => rfl
  | array (item :: rest) => by
    have hopen : Spans ['['] [.openArray] := fun done => rfl
    have hclose : Reads (lineBreak level ++ [']']) [.closeArray] :=
      (spans_lineBreak level).append (Spans.reads fun done => rfl)
    have hitems := reads_renderItems (level + 1) (item :: rest) (List.cons_ne_nil _ _)
    rw [renderAt, tokensOf, List.append_assoc]
    · exact hopen.append (hitems.append_cons rfl hclose)
    · exact List.cons_ne_nil _ _
  | object [] => by
    rw [renderAt, tokensOf, fieldTokens]
    exact Spans.reads fun done => rfl
  | object (field :: rest) => by
    have hopen : Spans ['\x7b'] [.openObject] := fun done => rfl
    have hclose : Reads (lineBreak level ++ ['\x7d']) [.closeObject] :=
      (spans_lineBreak level).append (Spans.reads fun done => rfl)
    have hfields := reads_renderFields (level + 1) (field :: rest) (List.cons_ne_nil _ _)
    rw [renderAt, tokensOf, List.append_assoc]
    · exact hopen.append (hfields.append_cons rfl hclose)
    · exact List.cons_ne_nil _ _

/-- The same for items. -/
theorem reads_renderItems (level : Nat) :
    (items : List JsonValue) → items ≠ [] → Reads (renderItems level items) (itemTokens items)
  | [], h => absurd rfl h
  | [item], _ => by
    rw [renderItems, itemTokens]
    exact (spans_lineBreak level).append (reads_renderAt level item)
  | item :: next :: rest, _ => by
    have hcomma : Spans [','] [.comma] := fun done => rfl
    rw [renderItems, itemTokens]
    exact ((spans_lineBreak level).append (reads_renderAt level item)).append_cons rfl
      (hcomma.append (reads_renderItems level (next :: rest) (List.cons_ne_nil _ _)))

/-- The same for fields. -/
theorem reads_renderFields (level : Nat) : (fields : List (String × JsonValue)) → fields ≠ [] →
    Reads (renderFields level fields) (fieldTokens fields)
  | [], h => absurd rfl h
  | [(name, value)], _ => by
    rw [renderFields, fieldTokens]
    exact reads_field level name (reads_renderAt level value)
  | (name, value) :: next :: rest, _ => by
    have hcomma : Spans [','] [.comma] := fun done => rfl
    rw [renderFields, fieldTokens]
    exact (reads_field level name (reads_renderAt level value)).append_cons rfl
      (hcomma.append (reads_renderFields level (next :: rest) (List.cons_ne_nil _ _)))

end

/-! ## From tokens to a value -/

/-- The tokens of a value start with one that starts a value. -/
theorem exists_tokensOf_eq_cons (v : JsonValue) :
    ∃ t ts, tokensOf v = t :: ts ∧ t ≠ .closeArray := by
  cases v with
  | null => exact ⟨_, _, tokensOf.eq_def _, Token.noConfusion⟩
  | number n => exact ⟨_, _, tokensOf.eq_def _, Token.noConfusion⟩
  | text value => exact ⟨_, _, tokensOf.eq_def _, Token.noConfusion⟩
  | array items => exact ⟨_, _, tokensOf.eq_def _, Token.noConfusion⟩
  | object fields => exact ⟨_, _, tokensOf.eq_def _, Token.noConfusion⟩

/-- Where an item may stand, a value is one. -/
theorem foldlM_tokensOf_item (stack : List Frame) (done : List JsonValue) (v : JsonValue) :
    (tokensOf v).foldlM buildStep (stack, .item done) =
      (tokensOf v).foldlM buildStep (.items done :: stack, .value) := by
  obtain ⟨t, ts, hv, ht⟩ := exists_tokensOf_eq_cons v
  have hstep : buildStep (stack, .item done) t = startValue (.items done :: stack) t := by
    cases done with
    | nil =>
      cases t with
      | closeArray => exact absurd rfl ht
      | _ => rfl
    | cons item rest => rfl
  rw [hv, List.foldlM_cons, List.foldlM_cons, hstep]
  rfl

/-- A name and a colon open a field. -/
theorem foldlM_fieldName (stack : List Frame) (done : List (String × JsonValue)) (name : String)
    (ts : List Token) :
    (Token.text name :: Token.colon :: ts).foldlM buildStep (stack, .name done) =
      ts.foldlM buildStep (.fields done name :: stack, .value) := by
  cases done <;> rfl

mutual

/-- **The tokens of a value build it**, whatever is open. -/
theorem foldlM_tokensOf (stack : List Frame) :
    (v : JsonValue) → (tokensOf v).foldlM buildStep (stack, .value) = some (stack, .mark v)
  | null => by rw [tokensOf]; rfl
  | number n => by rw [tokensOf]; rfl
  | text value => by rw [tokensOf]; rfl
  | array [] => by rw [tokensOf, itemTokens]; rfl
  | array (item :: rest) => by
    have hopen : ∀ ts, (Token.openArray :: ts).foldlM buildStep (stack, .value) =
        ts.foldlM buildStep (stack, .item []) := fun ts => rfl
    rw [tokensOf, List.cons_append, hopen]
    exact foldlM_itemTokens stack [] (item :: rest) (List.cons_ne_nil _ _)
  | object [] => by rw [tokensOf, fieldTokens]; rfl
  | object (field :: rest) => by
    have hopen : ∀ ts, (Token.openObject :: ts).foldlM buildStep (stack, .value) =
        ts.foldlM buildStep (stack, .name []) := fun ts => rfl
    rw [tokensOf, List.cons_append, hopen]
    exact foldlM_fieldTokens stack [] (field :: rest) (List.cons_ne_nil _ _)

/-- The tokens of items complete the array that is open. -/
theorem foldlM_itemTokens (stack : List Frame) (done : List JsonValue) :
    (items : List JsonValue) → items ≠ [] →
      (itemTokens items ++ [Token.closeArray]).foldlM buildStep (stack, .item done) =
        some (stack, .mark (.array (done.reverse ++ items)))
  | [], h => absurd rfl h
  | [item], _ => by
    have hitem := (foldlM_tokensOf_item stack done item).trans (foldlM_tokensOf _ item)
    rw [itemTokens, foldlM_append_of_eq hitem, ← List.reverse_cons]
    rfl
  | item :: next :: rest, _ => by
    have hrest := foldlM_itemTokens stack (item :: done) (next :: rest) (List.cons_ne_nil _ _)
    have hitem := (foldlM_tokensOf_item stack done item).trans (foldlM_tokensOf _ item)
    rw [List.reverse_cons, List.append_assoc] at hrest
    rw [itemTokens, List.append_assoc, foldlM_append_of_eq hitem]
    exact hrest

/-- The tokens of fields complete the object that is open. -/
theorem foldlM_fieldTokens (stack : List Frame) (done : List (String × JsonValue)) :
    (fields : List (String × JsonValue)) → fields ≠ [] →
      (fieldTokens fields ++ [Token.closeObject]).foldlM buildStep (stack, .name done) =
        some (stack, .mark (.object (done.reverse ++ fields)))
  | [], h => absurd rfl h
  | [(name, value)], _ => by
    rw [fieldTokens, List.cons_append, List.cons_append, foldlM_fieldName,
      foldlM_append_of_eq (foldlM_tokensOf _ value), ← List.reverse_cons]
    rfl
  | (name, value) :: next :: rest, _ => by
    have hrest := foldlM_fieldTokens stack ((name, value) :: done) (next :: rest)
      (List.cons_ne_nil _ _)
    rw [List.reverse_cons, List.append_assoc] at hrest
    rw [fieldTokens, List.append_assoc, List.cons_append, List.cons_append, foldlM_fieldName,
      foldlM_append_of_eq (foldlM_tokensOf _ value)]
    exact hrest

end

/-- **A value is read back from its text**, whatever blanks come behind. -/
theorem ofText?_render (v : JsonValue) {blanks : String} (h : ∀ c ∈ blanks.toList, isBlank c) :
    ofText? (v.render ++ blanks) = some v := by
  have hreads : Reads (v.render ++ blanks).toList (tokensOf v) := by
    rw [String.toList_append, render, String.toList_ofList]
    exact (reads_renderAt 0 v).append_blanks h
  obtain ⟨st, hst, -, hfinish⟩ := hreads []
  have htokens : tokens? (v.render ++ blanks).toList = some (tokensOf v) := by
    rw [tokens?, hst, Option.bind_eq_bind, Option.bind_some, hfinish, List.append_nil,
      List.reverse_reverse]
  rw [ofText?, htokens, Option.bind_eq_bind, Option.bind_some, ofTokens?, foldlM_tokensOf]
  rfl

end LineMap.JsonValue
