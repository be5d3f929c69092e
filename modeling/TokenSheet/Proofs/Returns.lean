import TokenSheet.Proofs.Steps

/-!
Computations that return.

A computation that may fail returns if it gives a value. What is built from computations that return
returns as well: a sequence, a choice, a run over a list. Where a later step returns only for the
values that an earlier one can give, `Returns.bind` hands it the equation of the earlier step. A
search may return without a result; `Finds P` says that it returns, and that a result has the
property `P`. The error of a computation that fails is `error?`, which can be evaluated where the
values it would give cannot be compared.
-/

namespace TokenSheet

section
variable {ε ε' α β : Type} {x : Except ε α}

/-- Whether a computation gives a value. -/
def Returns (x : Except ε α) : Prop :=
  ∃ a, x = .ok a

theorem returns_ok (a : α) : Returns (.ok a : Except ε α) := ⟨a, rfl⟩

theorem returns_pure (a : α) : Returns (pure a : Except ε α) := ⟨a, rfl⟩

theorem Returns.bind {f : α → Except ε β} (first : Returns x)
    (next : ∀ a, x = .ok a → Returns (f a)) : Returns (x >>= f) := by
  obtain ⟨a, rfl⟩ := first
  exact next a rfl

theorem Returns.map (first : Returns x) (f : α → β) : Returns (x >>= fun a => pure (f a)) :=
  first.bind fun a _ => returns_pure (f a)

theorem Returns.mapError (h : Returns x) (f : ε → ε') : Returns (x.mapError f) := by
  obtain ⟨a, rfl⟩ := h
  exact returns_ok a

theorem Returns.ite {p : Prop} [Decidable p] {y : Except ε α} (yes : p → Returns x)
    (no : ¬ p → Returns y) : Returns (if p then x else y) := by
  by_cases h : p
  · rw [if_pos h]
    exact yes h
  · rw [if_neg h]
    exact no h

theorem Returns.mapM {f : α → Except ε β} {xs : List α} (each : ∀ a ∈ xs, Returns (f a)) :
    Returns (xs.mapM f) := by
  induction xs with
  | nil => exact returns_pure []
  | cons a rest ih =>
      obtain ⟨here, there⟩ := List.forall_mem_cons.1 each
      rw [List.mapM_cons]
      exact here.bind fun b _ => (ih there).map (b :: ·)

theorem Returns.filterMapM {f : α → Except ε (Option β)} {xs : List α}
    (each : ∀ a ∈ xs, Returns (f a)) : Returns (xs.filterMapM f) :=
  ⟨_, filterMapM_eq_ok.2 ⟨each, rfl⟩⟩

/-- A run that carries a state returns if every step returns from every state. -/
theorem Returns.foldlM {f : β → α → Except ε β} {xs : List α}
    (each : ∀ a ∈ xs, ∀ b, Returns (f b a)) (b : β) : Returns (xs.foldlM f b) := by
  induction xs generalizing b with
  | nil => exact returns_pure b
  | cons a rest ih =>
      obtain ⟨here, there⟩ := List.forall_mem_cons.1 each
      rw [List.foldlM_cons]
      exact (here b).bind fun c _ => ih there c

/-! ## Searches -/

section
variable {P : α → Prop} {Q : β → Prop} {y : Except ε (Option α)}

/-- Whether a search returns, with nothing or with a result that has a property. -/
def Finds (P : α → Prop) (y : Except ε (Option α)) : Prop :=
  ∃ a?, y = .ok a? ∧ ∀ a, a? = some a → P a

theorem finds_none : Finds P (.ok none : Except ε (Option α)) :=
  ⟨none, rfl, by rintro _ ⟨⟩⟩

theorem finds_some {a : α} (h : P a) : Finds P (.ok (some a) : Except ε (Option α)) :=
  ⟨some a, rfl, fun _ same => Option.some.inj same ▸ h⟩

theorem Finds.returns (h : Finds P y) : Returns y := by
  obtain ⟨a?, run, -⟩ := h
  exact ⟨a?, run⟩

theorem Finds.of_eq_ok {a : α} (h : Finds P y) (run : y = .ok (some a)) : P a := by
  obtain ⟨a?, rfl, property⟩ := h
  exact property a (Except.ok.inj run)

/-- A search that goes on from the result of another one. -/
theorem Finds.bind {f : Option α → Except ε (Option β)} (h : Finds P y) (without : Finds Q (f none))
    (result : ∀ a, P a → Finds Q (f (some a))) : Finds Q (y >>= f) := by
  obtain ⟨a?, rfl, property⟩ := h
  cases a? with
  | none => exact without
  | some a => exact result a (property a rfl)

theorem Finds.returns_bind {f : Option α → Except ε β} (h : Finds P y) (without : Returns (f none))
    (result : ∀ a, P a → Returns (f (some a))) : Returns (y >>= f) := by
  obtain ⟨a?, rfl, property⟩ := h
  cases a? with
  | none => exact without
  | some a => exact result a (property a rfl)

theorem Finds.mapError (h : Finds P y) (f : ε → ε') : Finds P (y.mapError f) := by
  obtain ⟨a?, rfl, property⟩ := h
  exact ⟨a?, rfl, property⟩

end

/-! ## Failures -/

/-- The error of a computation that fails. -/
def error? : Except ε α → Option ε
  | .error e => some e
  | .ok _ => none

theorem returns_of_error? (none : error? x = none) : Returns x := by
  cases x with
  | ok a => exact returns_ok a
  | error e => cases none

/-- What is found in the result of a computation shows that there is one. -/
theorem exists_of_toOption_map {f : α → β} {b : β} (found : x.toOption.map f = some b) :
    ∃ a, x = .ok a ∧ f a = b := by
  cases x with
  | ok a => exact ⟨a, rfl, Option.some.inj found⟩
  | error e => cases found

theorem eq_error_of_error? {e : ε} (failed : error? x = some e) : x = .error e := by
  cases x with
  | ok a => cases failed
  | error e' => rw [Option.some.inj failed]

end

end TokenSheet
