import LineMap.Fault
/-!
# Outcomes — requests that go through

A checked request either goes through with a value or is refused with a
fault. A request made of several goes through if each of them does, and
the lemmas here peel off one of them at a time.
-/

namespace LineMap

variable {ε α β : Type}

@[simp] theorem ok_bind (a : α) (f : α → Except ε β) : (Except.ok a >>= f) = f a := rfl

theorem error_bind (e : ε) (f : α → Except ε β) : (Except.error e >>= f) = .error e := rfl

@[simp] theorem pure_eq_ok (a : α) : (pure a : Except ε α) = .ok a := rfl

/-- One request after another goes through exactly if both do. -/
theorem bind_eq_ok_iff {x : Except ε α} {f : α → Except ε β} {b : β} :
    (x >>= f) = .ok b ↔ ∃ a, x = .ok a ∧ f a = .ok b := by
  cases x with
  | error e => exact ⟨fun h => (by cases h), fun ⟨_, h, _⟩ => (by cases h)⟩
  | ok a => exact ⟨fun h => ⟨a, rfl, h⟩, fun ⟨_, ha, h⟩ => (by cases ha; exact h)⟩

/-- And it is refused with the refusal of the first of them that is. -/
theorem bind_eq_error_iff {x : Except ε α} {f : α → Except ε β} {e : ε} :
    (x >>= f) = .error e ↔ x = .error e ∨ ∃ a, x = .ok a ∧ f a = .error e := by
  cases x with
  | error e' =>
    rw [error_bind]
    simp
  | ok a => simp

/-- A request whose value is only passed on goes through exactly if it does. -/
theorem map_eq_ok_iff {x : Except ε α} {f : α → β} {b : β} :
    x.map f = .ok b ↔ ∃ a, x = .ok a ∧ f a = b := by
  cases x with
  | error e => exact ⟨fun h => (by cases h), fun ⟨_, h, _⟩ => (by cases h)⟩
  | ok a => simp [Except.map]

theorem map_eq_error_iff {x : Except ε α} {f : α → β} {e : ε} :
    x.map f = .error e ↔ x = .error e := by
  cases x <;> simp [Except.map]

/-- Requests that all go through go through as a list. -/
theorem mapM_eq_ok {f : α → Except ε β} {g : α → β} {items : List α}
    (h : ∀ a ∈ items, f a = .ok (g a)) : items.mapM f = .ok (items.map g) := by
  induction items with
  | nil => rfl
  | cons a items ih =>
    have hrest := ih fun b hb => h b (List.mem_cons_of_mem _ hb)
    rw [List.mapM_cons, h a List.mem_cons_self, ok_bind, hrest, ok_bind, pure_eq_ok,
      List.map_cons]

/-- Where the value of a request tells what was asked, the values of a list
tell the list. -/
theorem mapM_eq_ok_iff {f : α → Except ε β} {g : β → α} (h : ∀ a b, f a = .ok b ↔ a = g b)
    {items : List α} {values : List β} : items.mapM f = .ok values ↔ items = values.map g := by
  induction items generalizing values with
  | nil => cases values <;> simp
  | cons a items ih =>
    rw [List.mapM_cons, bind_eq_ok_iff]
    constructor
    · rintro ⟨b, hb, hrest⟩
      obtain ⟨bs, hbs, hvalues⟩ := bind_eq_ok_iff.1 hrest
      cases hvalues
      rw [List.map_cons, ← (h a b).1 hb, ← ih.1 hbs]
    · intro hmap
      cases values with
      | nil => cases hmap
      | cons b bs =>
        obtain ⟨ha, hitems⟩ := List.cons.inj hmap
        refine ⟨b, (h a b).2 ha, ?_⟩
        rw [ih.2 hitems]
        rfl

/-- **The first refusal of a list is its refusal.** -/
theorem mapM_eq_error {f : α → Except ε β} {front back : List α} {a : α} {e : ε}
    (hfront : ∀ b ∈ front, ∃ c, f b = .ok c) (ha : f a = .error e) :
    (front ++ a :: back).mapM f = .error e := by
  induction front with
  | nil =>
    rw [List.nil_append, List.mapM_cons, ha]
    rfl
  | cons b front ih =>
    obtain ⟨c, hc⟩ := hfront b List.mem_cons_self
    have hrest := ih fun d hd => hfront d (List.mem_cons_of_mem _ hd)
    rw [List.cons_append, List.mapM_cons, hc, ok_bind, hrest]
    rfl

/-- A list is refused only with the refusal of one of its items. -/
theorem exists_of_mapM_eq_error {f : α → Except ε β} {items : List α} {e : ε}
    (h : items.mapM f = .error e) : ∃ a ∈ items, f a = .error e := by
  induction items with
  | nil => cases h
  | cons a items ih =>
    rw [List.mapM_cons] at h
    cases ha : f a with
    | error e' =>
      rw [ha] at h
      cases h
      exact ⟨a, List.mem_cons_self, ha⟩
    | ok b =>
      rw [ha, ok_bind] at h
      cases hrest : items.mapM f with
      | ok bs =>
        rw [hrest] at h
        cases h
      | error e' =>
        rw [hrest] at h
        cases h
        obtain ⟨d, hd, hfault⟩ := ih hrest
        exact ⟨d, List.mem_cons_of_mem _ hd, hfault⟩

end LineMap
