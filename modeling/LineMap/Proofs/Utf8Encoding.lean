import LineMap.Proofs.Outcomes
/-!
# UTF-8 encodings — the machine reads them and nothing else

The machine that reads bytes as a text keeps ranges, so that no overlong
form, no surrogate and no value above U+10FFFF gets through. Here the
bytes of one character are said once, as a sequence that the machine goes
through (`Sequence`). Such sequences are exactly what characters are
encoded with, so the bytes that are read as a text are its encoding
(`decode_eq_ok_iff`), and any others are refused.
-/

namespace LineMap.Text.Utf8

/-- **The bytes that are still due**: they complete a sequence under way to a
value, each in the range that the sequence has for it then. -/
inductive Pending.Completes : Pending → List UInt8 → Nat → Prop
  /-- The last byte that is due. -/
  | last {p : Pending} {b : UInt8} {v : Nat} (hb : p.least ≤ b ∧ b ≤ p.greatest)
      (hdue : (p.push b).due = 0) (hv : v = (p.push b).value) : p.Completes [b] v
  /-- A byte after which more are due. -/
  | more {p : Pending} {b : UInt8} {tail : List UInt8} {v : Nat}
      (hb : p.least ≤ b ∧ b ≤ p.greatest) (hdue : (p.push b).due ≠ 0)
      (h : (p.push b).Completes tail v) : p.Completes (b :: tail) v

/-- **The bytes of one character**, and its value. -/
inductive Sequence : List UInt8 → Nat → Prop
  /-- A byte below 0x80 stands for itself. -/
  | single {b : UInt8} {v : Nat} (hb : b < 0x80) (hv : v = b.toNat) : Sequence [b] v
  /-- Any other byte has to open a sequence. -/
  | opened {b : UInt8} {p : Pending} {tail : List UInt8} {v : Nat} (hb : ¬ b < 0x80)
      (hp : Pending.open? b = some p) (h : p.Completes tail v) : Sequence (b :: tail) v

variable {b : UInt8} {v position : Nat} {done : List Char} {bytes tail front : List UInt8}
  {p : Pending} {text t : Text}

/-! ## What the machine reads

Where the machine stands counts for faults only, so the lemmas leave it open. -/

/-- Bytes that complete the sequence under way add its character. -/
theorem decodeFrom_completes (h : p.Completes tail v) (position : Nat) (done : List Char)
    (rest : List UInt8) : ∃ next, decodeFrom position done (some p) (tail ++ rest) =
      decodeFrom next (Char.ofNat v :: done) none rest := by
  induction h generalizing position with
  | last hb hdue hv =>
    rw [List.singleton_append, decodeFrom, if_pos hb, hv]
    exact ⟨_, if_pos hdue⟩
  | more hb hdue h ih =>
    obtain ⟨next, hnext⟩ := ih (position + 1)
    refine ⟨next, Eq.trans ?_ hnext⟩
    rw [List.cons_append, decodeFrom, if_pos hb]
    exact if_neg hdue

/-- The bytes of a character add it. -/
theorem decodeFrom_sequence (h : Sequence front v) (position : Nat) (done : List Char)
    (rest : List UInt8) : ∃ next, decodeFrom position done none (front ++ rest) =
      decodeFrom next (Char.ofNat v :: done) none rest := by
  cases h with
  | single hb hv =>
    rw [List.singleton_append, decodeFrom, if_pos hb, hv]
    exact ⟨_, rfl⟩
  | opened hb hp h =>
    rw [List.cons_append, decodeFrom, if_neg hb, hp]
    exact decodeFrom_completes h _ _ _

/-- If the machine gets through with a sequence under way, then some bytes
complete it. -/
theorem exists_completes_of_decodeFrom (h : decodeFrom position done (some p) bytes = .ok t) :
    ∃ tail v rest next, bytes = tail ++ rest ∧ p.Completes tail v ∧
      decodeFrom next (Char.ofNat v :: done) none rest = .ok t := by
  induction bytes generalizing position p with
  | nil => cases h
  | cons b rest ih =>
    rw [decodeFrom] at h
    split at h
    next hb =>
      dsimp only at h
      split at h
      next hdue => exact ⟨[b], _, rest, _, rfl, .last hb hdue rfl, h⟩
      next hdue =>
        obtain ⟨tail, v, rest, next, rfl, hcompletes, hrest⟩ := ih h
        exact ⟨b :: tail, v, rest, next, rfl, .more hb hdue hcompletes, hrest⟩
    next => cases h

/-- If it gets through with none under way, the first bytes are those of a
character. -/
theorem exists_sequence_of_decodeFrom (h : decodeFrom position done none (b :: bytes) = .ok t) :
    ∃ front v rest next, b :: bytes = front ++ rest ∧ Sequence front v ∧
      decodeFrom next (Char.ofNat v :: done) none rest = .ok t := by
  rw [decodeFrom] at h
  split at h
  next hb => exact ⟨[b], _, bytes, _, rfl, .single hb rfl, h⟩
  next hb =>
    split at h
    next => cases h
    next p hp =>
      obtain ⟨tail, v, rest, next, rfl, hcompletes, hrest⟩ := exists_completes_of_decodeFrom h
      exact ⟨b :: tail, v, rest, next, rfl, .opened hb hp hcompletes, hrest⟩

/-! ## The bytes of a character -/

/-- **The leads.** No other byte opens a sequence. -/
theorem lead_of_open? (h : Pending.open? b = some p) :
    (0xC2 ≤ b.toNat ∧ b.toNat ≤ 0xDF) ∨ (0xE0 ≤ b.toNat ∧ b.toNat ≤ 0xEF) ∨
      (0xF0 ≤ b.toNat ∧ b.toNat ≤ 0xF4) := by
  unfold Pending.open? at h
  split at h
  next hb => exact .inl hb
  split at h
  next hb => exact .inr (.inl hb)
  split at h
  next hb => exact .inr (.inr hb)
  next => cases h

/-- A sequence of two bytes is in no need of a narrower range, because its
leads start at 0xC2. -/
theorem open?_of_two (h : 0xC2 ≤ b.toNat ∧ b.toNat ≤ 0xDF) :
    Pending.open? b = some ⟨b, 0, b.toNat % 0x20, 1, 0x80, 0xBF⟩ :=
  if_pos h

/-- One lead raises the least second byte, and another one lowers the
greatest. -/
theorem narrowed_iff {d e low high x : UInt8} (hlow : 0x80 ≤ low.toNat) (hhigh : high.toNat ≤ 0xBF) :
    (if b = d then low else 0x80) ≤ x ∧ x ≤ (if b = e then high else 0xBF) ↔
      (0x80 ≤ x.toNat ∧ x.toNat ≤ 0xBF) ∧
        (b.toNat = d.toNat → low.toNat ≤ x.toNat) ∧ (b.toNat = e.toNat → x.toNat ≤ high.toNat) := by
  simp only [← UInt8.toNat_inj, UInt8.le_iff_toNat_le, apply_ite UInt8.toNat, UInt8.reduceToNat]
  split <;> split <;> omega

/-- In a sequence of three bytes, the second one rules out overlong forms
and surrogates. -/
theorem open?_of_three (h : 0xE0 ≤ b.toNat ∧ b.toNat ≤ 0xEF) :
    ∃ least greatest, Pending.open? b = some ⟨b, 0, b.toNat % 0x10, 2, least, greatest⟩ ∧
      ∀ x : UInt8, least ≤ x ∧ x ≤ greatest ↔ (0x80 ≤ x.toNat ∧ x.toNat ≤ 0xBF) ∧
        (b.toNat = 0xE0 → 0xA0 ≤ x.toNat) ∧ (b.toNat = 0xED → x.toNat ≤ 0x9F) := by
  refine ⟨if b = 0xE0 then 0xA0 else 0x80, if b = 0xED then 0x9F else 0xBF, ?_,
    fun x => narrowed_iff (by decide) (by decide)⟩
  rw [Pending.open?, if_neg fun hb => ?_]
  · exact if_pos h
  · have hb : b.toNat ≤ 0xDF := hb.2
    omega

/-- In a sequence of four bytes, it rules out overlong forms and values
above 0x10FFFF. -/
theorem open?_of_four (h : 0xF0 ≤ b.toNat ∧ b.toNat ≤ 0xF4) :
    ∃ least greatest, Pending.open? b = some ⟨b, 0, b.toNat % 0x08, 3, least, greatest⟩ ∧
      ∀ x : UInt8, least ≤ x ∧ x ≤ greatest ↔ (0x80 ≤ x.toNat ∧ x.toNat ≤ 0xBF) ∧
        (b.toNat = 0xF0 → 0x90 ≤ x.toNat) ∧ (b.toNat = 0xF4 → x.toNat ≤ 0x8F) := by
  refine ⟨if b = 0xF0 then 0x90 else 0x80, if b = 0xF4 then 0x8F else 0xBF, ?_,
    fun x => narrowed_iff (by decide) (by decide)⟩
  rw [Pending.open?, if_neg fun hb => ?_, if_neg fun hb => ?_]
  · exact if_pos h
  · have hb : b.toNat ≤ 0xEF := hb.2
    omega
  · have hb : b.toNat ≤ 0xDF := hb.2
    omega

/-- One byte that is due. -/
theorem completes_one {lead least greatest : UInt8} {extra value : Nat} :
    Pending.Completes ⟨lead, extra, value, 1, least, greatest⟩ tail v ↔
      ∃ b, tail = [b] ∧ (least ≤ b ∧ b ≤ greatest) ∧ v = value * 0x40 + b.toNat % 0x40 := by
  constructor
  · intro h
    cases h with
    | last hb _ hv => exact ⟨_, rfl, hb, hv⟩
    | more _ hdue _ => exact absurd rfl hdue
  · rintro ⟨b, rfl, hb, hv⟩
    exact .last hb rfl hv

/-- Of several bytes that are due, only the first has a narrower range. -/
theorem completes_succ {lead least greatest : UInt8} {extra value due : Nat} :
    Pending.Completes ⟨lead, extra, value, due + 2, least, greatest⟩ tail v ↔
      ∃ b rest, tail = b :: rest ∧ (least ≤ b ∧ b ≤ greatest) ∧
        Pending.Completes ⟨lead, extra + 1, value * 0x40 + b.toNat % 0x40, due + 1, 0x80, 0xBF⟩
          rest v := by
  constructor
  · intro h
    cases h with
    | last _ hdue _ => cases hdue
    | more hb _ h => exact ⟨_, _, rfl, hb, h⟩
  · rintro ⟨b, rest, rfl, hb, h⟩
    exact .more hb (Nat.succ_ne_zero due) h

/-- **The bytes of a character are those that it is encoded with**, and they
are those of no other one. -/
theorem encodeChar_of_sequence (h : Sequence bytes v) :
    v.isValidChar ∧ ∀ c : Char, c.toNat = v → String.utf8EncodeChar c = bytes := by
  simp only [Nat.isValidChar, String.utf8EncodeChar, Char.toNat_val]
  cases h with
  | @single a _ ha hv =>
    have ha : a.toNat < 0x80 := ha
    refine ⟨by omega, fun c hc => ?_⟩
    rw [hc, if_pos (by omega), hv, UInt8.ofNat_toNat]
  | @opened a p tail _ _ hp h =>
    rcases lead_of_open? hp with ha | ha | ha
    · cases (open?_of_two ha).symm.trans hp
      obtain ⟨b, rfl, hb, hv⟩ := completes_one.1 h
      have hb : 0x80 ≤ b.toNat ∧ b.toNat ≤ 0xBF := hb
      refine ⟨by omega, fun c hc => ?_⟩
      rw [hc, if_neg (by omega), if_pos (by omega)]
      simp only [← UInt8.toNat_inj, UInt8.toNat_ofNat', Nat.reducePow, List.cons.injEq, and_true]
      omega
    · obtain ⟨least, greatest, hp', hrange⟩ := open?_of_three ha
      cases hp'.symm.trans hp
      obtain ⟨b, _, rfl, hb, h⟩ := completes_succ.1 h
      obtain ⟨c, rfl, hc, hv⟩ := completes_one.1 h
      have hc : 0x80 ≤ c.toNat ∧ c.toNat ≤ 0xBF := hc
      rw [hrange] at hb
      refine ⟨by omega, fun c hc => ?_⟩
      rw [hc, if_neg (by omega), if_neg (by omega), if_pos (by omega)]
      simp only [← UInt8.toNat_inj, UInt8.toNat_ofNat', Nat.reducePow, List.cons.injEq, and_true]
      omega
    · obtain ⟨least, greatest, hp', hrange⟩ := open?_of_four ha
      cases hp'.symm.trans hp
      obtain ⟨b, _, rfl, hb, h⟩ := completes_succ.1 h
      obtain ⟨c, _, rfl, hc, h⟩ := completes_succ.1 h
      obtain ⟨d, rfl, hd, hv⟩ := completes_one.1 h
      have hc : 0x80 ≤ c.toNat ∧ c.toNat ≤ 0xBF := hc
      have hd : 0x80 ≤ d.toNat ∧ d.toNat ≤ 0xBF := hd
      rw [hrange] at hb
      refine ⟨by omega, fun c hc => ?_⟩
      rw [hc, if_neg (by omega), if_neg (by omega), if_neg (by omega)]
      simp only [← UInt8.toNat_inj, UInt8.toNat_ofNat', Nat.reducePow, List.cons.injEq, and_true]
      omega

/-- The number of a byte that a number below 0x100 makes. -/
theorem exists_toNat_eq {n : Nat} (h : n < 0x100) : ∃ b : UInt8, UInt8.ofNat n = b ∧ b.toNat = n :=
  ⟨_, rfl, UInt8.toNat_ofNat_of_lt h⟩

theorem not_lt_of_le_toNat (h : 0x80 ≤ b.toNat) : ¬ b < 0x80 :=
  UInt8.not_lt.2 h

/-- What a character is encoded with are its bytes. -/
theorem sequence_encodeChar (c : Char) : Sequence (String.utf8EncodeChar c) c.toNat := by
  have hvalid : c.toNat < 0xD800 ∨ 0xDFFF < c.toNat ∧ c.toNat < 0x110000 := c.valid
  simp only [String.utf8EncodeChar, Char.toNat_val]
  generalize c.toNat = v at hvalid
  split
  next hv =>
    obtain ⟨a, ha, ha'⟩ := exists_toNat_eq (n := v) (by omega)
    rw [ha]
    exact .single (show a.toNat < 0x80 by omega) ha'.symm
  -- the bytes behind the first one carry six bits of the value each
  have hsix : ∀ n : Nat, ∃ x : UInt8, UInt8.ofNat (n % 0x40 + 0x80) = x ∧
      x.toNat = n % 0x40 + 0x80 ∧ 0x80 ≤ x ∧ x ≤ 0xBF := by
    intro n
    obtain ⟨x, hx, hx'⟩ := exists_toNat_eq (n := n % 0x40 + 0x80) (by omega)
    exact ⟨x, hx, hx', show 0x80 ≤ x.toNat by omega, show x.toNat ≤ 0xBF by omega⟩
  obtain ⟨x, hx, hx', hxrange⟩ := hsix v
  obtain ⟨y, hy, hy', hyrange⟩ := hsix (v / 64)
  obtain ⟨z, hz, hz', _⟩ := hsix (v / 4096)
  rw [hx, hy, hz]
  split
  next hv hv' =>
    obtain ⟨a, ha, ha'⟩ := exists_toNat_eq (n := v / 64 % 32 + 192) (by omega)
    rw [ha]
    exact .opened (not_lt_of_le_toNat (by omega)) (open?_of_two (by omega))
      (completes_one.2 ⟨x, rfl, hxrange, by omega⟩)
  split
  next hv =>
    obtain ⟨a, ha, ha'⟩ := exists_toNat_eq (n := v / 4096 % 16 + 224) (by omega)
    obtain ⟨least, greatest, hp, hfirst⟩ := open?_of_three (b := a) (by omega)
    rw [ha]
    exact .opened (not_lt_of_le_toNat (by omega)) hp
      (completes_succ.2 ⟨y, _, rfl, (hfirst y).2 (by omega),
        completes_one.2 ⟨x, rfl, hxrange, by omega⟩⟩)
  next hv =>
    obtain ⟨a, ha, ha'⟩ := exists_toNat_eq (n := v / 262144 % 8 + 240) (by omega)
    obtain ⟨least, greatest, hp, hfirst⟩ := open?_of_four (b := a) (by omega)
    rw [ha]
    exact .opened (not_lt_of_le_toNat (by omega)) hp
      (completes_succ.2 ⟨z, _, rfl, (hfirst z).2 (by omega),
        completes_succ.2 ⟨y, _, rfl, hyrange, completes_one.2 ⟨x, rfl, hxrange, by omega⟩⟩⟩)

/-! ## Reading what was encoded -/

@[simp] theorem encode_nil : encode [] = [] := rfl

@[simp] theorem encode_cons (c : Char) (text : Text) :
    encode (c :: text) = String.utf8EncodeChar c ++ encode text :=
  List.flatMap_cons

/-- Behind the characters done, the machine reads the rest of the text. -/
theorem decodeFrom_encode (position : Nat) (done : List Char) (text : Text) :
    decodeFrom position done none (encode text) = .ok (done.reverse ++ text) := by
  induction text generalizing position done with
  | nil => rw [encode_nil, decodeFrom, List.append_nil]
  | cons c rest ih =>
    obtain ⟨next, hnext⟩ := decodeFrom_sequence (sequence_encodeChar c) position done (encode rest)
    rw [encode_cons, hnext, ih, Char.ofNat_toNat, List.reverse_cons, List.append_assoc,
      List.singleton_append]

/-- **The machine reads nothing but encodings**: what it takes behind the
characters done is the encoding of the characters that it adds. -/
theorem exists_encode_of_decodeFrom (h : decodeFrom position done none bytes = .ok text) :
    ∃ rest, text = done.reverse ++ rest ∧ bytes = encode rest := by
  -- a character takes one byte or more, so the induction is on the number of bytes
  induction hn : bytes.length using Nat.strongRecOn generalizing bytes position done text with
  | ind n ih =>
    cases bytes with
    | nil =>
      rw [decodeFrom, Except.ok.injEq] at h
      exact ⟨[], by rw [List.append_nil, h], rfl⟩
    | cons b bytes =>
      obtain ⟨front, v, tail, next, hbytes, hfront, hrest⟩ := exists_sequence_of_decodeFrom h
      obtain ⟨hvalid, hchar⟩ := encodeChar_of_sequence hfront
      have hv : (Char.ofNat v).toNat = v := by
        rw [Char.ofNat, dif_pos hvalid]
        rfl
      have hlen : tail.length < n := by
        have hpos : 0 < front.length := by cases hfront <;> exact Nat.succ_pos _
        rw [← hn, hbytes, List.length_append]
        omega
      obtain ⟨rest, rfl, rfl⟩ := ih _ hlen hrest rfl
      refine ⟨Char.ofNat v :: rest, ?_, ?_⟩
      · rw [List.reverse_cons, List.append_assoc, List.singleton_append]
      · rw [encode_cons, hchar _ hv, hbytes]

/-- **Bytes are read as a text exactly if they are its encoding.** -/
theorem decode_eq_ok_iff : decode bytes = .ok text ↔ bytes = encode text := by
  constructor
  · intro h
    obtain ⟨rest, rfl, hbytes⟩ := exists_encode_of_decodeFrom h
    exact hbytes
  · rintro rfl
    exact decodeFrom_encode 0 [] text

/-- Texts with one encoding are one text. -/
theorem encode_inj : encode text = encode t ↔ text = t := by
  constructor
  · intro h
    exact Except.ok.inj ((decode_eq_ok_iff.2 rfl).symm.trans (decode_eq_ok_iff.2 h))
  · rintro rfl
    rfl

end LineMap.Text.Utf8
