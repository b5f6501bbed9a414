import Mathlib.Data.List.Forall2

/-!
# Steps that may fail

A step gives a value or an error.  These are the equations by which a chain of steps that has
given a value opens into its steps, and by which a traversal of a list opens into the steps on its
members.
-/

namespace Decouple

namespace Step

variable {ε δ α β γ : Type}

theorem map_eq_ok {x : Except ε α} {f : α → β} {b : β} :
    x.map f = .ok b ↔ ∃ a, x = .ok a ∧ f a = b := by
  cases x <;> simp [Except.map]

theorem mapError_eq_ok {x : Except ε α} {f : ε → δ} {a : α} :
    x.mapError f = .ok a ↔ x = .ok a := by
  cases x <;> simp [Except.mapError]

theorem bind_eq_ok {x : Except ε α} {f : α → Except ε β} {b : β} :
    x >>= f = .ok b ↔ ∃ a, x = .ok a ∧ f a = .ok b := by
  cases x <;> simp [bind, Except.bind]

theorem map_eq_error {x : Except ε α} {f : α → β} {e : ε} : x.map f = .error e ↔ x = .error e := by
  cases x <;> simp [Except.map]

theorem mapError_eq_error {x : Except ε α} {f : ε → δ} {e : δ} :
    x.mapError f = .error e ↔ ∃ e', x = .error e' ∧ f e' = e := by
  cases x <;> simp [Except.mapError]

theorem bind_eq_error {x : Except ε α} {f : α → Except ε β} {e : ε} :
    x >>= f = .error e ↔ x = .error e ∨ ∃ a, x = .ok a ∧ f a = .error e := by
  cases x <;> simp [bind, Except.bind]

theorem exists_of_isOk {x : Except ε α} (h : x.isOk = true) : ∃ a, x = .ok a := by
  cases x with
  | error e => cases h
  | ok a => exact ⟨a, rfl⟩

theorem isOk_map {x : Except ε α} {f : α → β} : (x.map f).isOk = x.isOk := by
  cases x <;> rfl

/-- Two steps, one after the other, go well exactly if both do. -/
theorem isOk_both {x : Except ε α} {y : Except ε β} {f : α → β → γ} :
    (do let a ← x; let b ← y; Except.ok (f a b) : Except ε γ).isOk = true ↔
      x.isOk = true ∧ y.isOk = true := by
  cases x <;> cases y <;> simp [bind, Except.bind, Except.isOk, Except.toBool]

theorem toOption_eq_some {x : Except ε α} {a : α} : x.toOption = some a ↔ x = .ok a := by
  cases x <;> simp [Except.toOption]

/-- A traversal gives a list exactly when each step gives the member in its place. -/
theorem mapM_eq_ok {f : α → Except ε β} {as : List α} {bs : List β} :
    as.mapM f = .ok bs ↔ List.Forall₂ (fun a b => f a = .ok b) as bs := by
  induction as generalizing bs with
  | nil =>
    rw [List.forall₂_nil_left_iff, List.mapM_nil]
    exact ⟨fun h => (Except.ok.inj h).symm, fun h => by rw [h]; rfl⟩
  | cons a as ih =>
    rw [List.mapM_cons, bind_eq_ok, List.forall₂_cons_left_iff]
    constructor
    · rintro ⟨b, hb, h⟩
      obtain ⟨bs', hbs', h⟩ := bind_eq_ok.1 h
      exact ⟨b, bs', hb, ih.1 hbs', (Except.ok.inj h).symm⟩
    · rintro ⟨b, bs', hb, hbs', rfl⟩
      exact ⟨b, hb, bind_eq_ok.2 ⟨bs', ih.2 hbs', rfl⟩⟩

/-- What a traversal gives is what its steps give. -/
theorem eq_filterMap_of_mapM {f : α → Except ε β} {as : List α} {bs : List β}
    (h : as.mapM f = .ok bs) : bs = as.filterMap fun a => (f a).toOption := by
  rw [mapM_eq_ok] at h
  induction h with
  | nil => rfl
  | cons hab _ ih => rw [List.filterMap_cons, toOption_eq_some.2 hab, ← ih]

/-- A traversal goes well exactly when each step does. -/
theorem isOk_mapM {f : α → Except ε β} {as : List α} :
    (as.mapM f).isOk = true ↔ ∀ a ∈ as, (f a).isOk = true := by
  induction as with
  | nil => exact iff_of_true rfl (List.forall_mem_nil _)
  | cons a as ih =>
    rw [List.mapM_cons, List.forall_mem_cons, ← ih]
    cases f a with
    | error e => simp [bind, Except.bind, Except.isOk, Except.toBool]
    | ok b => cases as.mapM f <;> simp [bind, Except.bind, pure, Except.pure, Except.isOk, Except.toBool]

end Step

/-! ## Lists whose members are related in place -/

namespace Related

variable {α β γ : Type} {R : α → β → Prop} {as : List α} {bs : List β}

/-- Lists that are related in place agree on what related members agree on. -/
theorem map_eq_map (h : List.Forall₂ R as bs) {f : α → γ} {g : β → γ}
    (same : ∀ a b, R a b → g b = f a) : bs.map g = as.map f := by
  induction h with
  | nil => rfl
  | cons hab _ ih => rw [List.map_cons, List.map_cons, same _ _ hab, ih]

/-- Relations in place compose. -/
theorem comp {S : β → γ → Prop} {cs : List γ} (h : List.Forall₂ R as bs)
    (k : List.Forall₂ S bs cs) : List.Forall₂ (fun a c => ∃ b, R a b ∧ S b c) as cs := by
  induction h generalizing cs with
  | nil =>
    cases k
    exact .nil
  | cons hab _ ih =>
    cases k with
    | cons hbc k => exact .cons ⟨_, hab, hbc⟩ (ih k)

/-- Lists that are related in place are the two sides of a list of related pairs. -/
theorem exists_pairs (h : List.Forall₂ R as bs) :
    ∃ ps : List (α × β), ps.map Prod.fst = as ∧ ps.map Prod.snd = bs ∧ ∀ p ∈ ps, R p.1 p.2 := by
  induction h with
  | nil => exact ⟨[], rfl, rfl, fun p hp => by cases hp⟩
  | @cons a b as bs hab _ ih =>
    obtain ⟨ps, rfl, rfl, hps⟩ := ih
    exact ⟨(a, b) :: ps, rfl, rfl, List.forall_mem_cons.2 ⟨hab, hps⟩⟩

/-- The two sides of a list of related pairs are related in place. -/
theorem of_pairs {f : γ → α} {g : γ → β} {cs : List γ} (h : ∀ c ∈ cs, R (f c) (g c)) :
    List.Forall₂ R (cs.map f) (cs.map g) := by
  induction cs with
  | nil => exact .nil
  | cons c cs ih =>
    rw [List.forall_mem_cons] at h
    exact .cons h.1 (ih h.2)

/-- Each member of the first list has its partner in the second. -/
theorem exists_right (h : List.Forall₂ R as bs) {a : α} (ha : a ∈ as) : ∃ b ∈ bs, R a b := by
  induction h with
  | nil => cases ha
  | cons hab _ ih =>
    rcases List.mem_cons.1 ha with rfl | ha
    · exact ⟨_, List.mem_cons_self .., hab⟩
    · obtain ⟨b, hb, hr⟩ := ih ha
      exact ⟨b, List.mem_cons_of_mem _ hb, hr⟩

/-- Each member of the second list has its partner in the first. -/
theorem exists_left (h : List.Forall₂ R as bs) {b : β} (hb : b ∈ bs) : ∃ a ∈ as, R a b := by
  induction h with
  | nil => cases hb
  | cons hab _ ih =>
    rcases List.mem_cons.1 hb with rfl | hb
    · exact ⟨_, List.mem_cons_self .., hab⟩
    · obtain ⟨a, ha, hr⟩ := ih hb
      exact ⟨a, List.mem_cons_of_mem _ ha, hr⟩

/-- Searches by tests that agree on related members find related members. -/
theorem exists_find? {p : α → Bool} {q : β → Bool} {b : β} (h : List.Forall₂ R as bs)
    (same : ∀ a b, R a b → q b = p a) (hb : bs.find? q = some b) :
    ∃ a, as.find? p = some a ∧ R a b := by
  induction h with
  | nil => cases hb
  | @cons a b' as bs hab _ ih =>
    rw [List.find?_cons] at hb ⊢
    rw [same a b' hab] at hb
    cases hp : p a with
    | true =>
      rw [hp] at hb
      exact ⟨a, rfl, Option.some.inj hb ▸ hab⟩
    | false =>
      rw [hp] at hb
      exact ih hb

end Related

end Decouple
