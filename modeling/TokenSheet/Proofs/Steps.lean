import Mathlib.Data.List.Forall2

/-!
Computations that may fail, read backwards: what a success says about the steps that led to it.

Sections are built by `filterMapM`, `mapM` and `foldlM` over steps that may fail. A run that
succeeds is a plain `filterMap` over the outcomes of its steps, and the members of its result are
the values that single steps gave.
-/

namespace TokenSheet

section
variable {ε α β : Type}

theorem ok_bind (a : α) (f : α → Except ε β) : (.ok a : Except ε α) >>= f = f a := rfl

theorem error_bind (e : ε) (f : α → Except ε β) : (.error e : Except ε α) >>= f = .error e := rfl

theorem bind_eq_ok {x : Except ε α} {f : α → Except ε β} {b : β} :
    x >>= f = .ok b ↔ ∃ a, x = .ok a ∧ f a = .ok b := by
  cases x with
  | error e => simp [error_bind]
  | ok a => simp [ok_bind]

theorem pure_eq_ok {a b : α} : (pure a : Except ε α) = .ok b ↔ a = b := by
  simp [pure, Except.pure]

/-- A computation that goes on from a step or, where the step is left out, from a given value. -/
theorem ite_bind_eq_ok {p : Prop} [Decidable p] {x : Except ε α} {f : α → Except ε β} {a : α}
    {b : β} (run : (if p then x >>= f else f a) = .ok b) :
    ∃ a', (if p then x else .ok a) = .ok a' ∧ f a' = .ok b := by
  by_cases h : p
  · rw [if_pos h] at run ⊢
    exact bind_eq_ok.1 run
  · rw [if_neg h] at run ⊢
    exact ⟨a, rfl, run⟩

/-- What a step that may fail, and may give nothing, gives. -/
def outcome? (r : Except ε (Option β)) : Option β :=
  match r with
  | .ok o => o
  | .error _ => none

/-- A run over a list succeeds if all of its steps do, and then it is a plain run over their
outcomes. -/
theorem filterMapM_eq_ok {f : α → Except ε (Option β)} {xs : List α} {ys : List β} :
    xs.filterMapM f = .ok ys ↔
      (∀ x ∈ xs, ∃ r, f x = .ok r) ∧ xs.filterMap (fun x => outcome? (f x)) = ys := by
  induction xs generalizing ys with
  | nil => simp [pure_eq_ok]
  | cons x rest ih =>
      rw [List.filterMapM_cons, List.forall_mem_cons, List.filterMap_cons]
      cases step : f x with
      | error e => simp [error_bind]
      | ok r =>
          cases r with
          | none => simpa [ok_bind, outcome?] using ih
          | some y =>
              rw [ok_bind, bind_eq_ok]
              constructor
              · rintro ⟨zs, tail, done⟩
                obtain ⟨all, rfl⟩ := ih.1 tail
                exact ⟨⟨⟨_, rfl⟩, all⟩, pure_eq_ok.1 done⟩
              · rintro ⟨⟨-, all⟩, rfl⟩
                exact ⟨_, ih.2 ⟨all, rfl⟩, rfl⟩

theorem mem_filterMapM {f : α → Except ε (Option β)} {xs : List α} {ys : List β}
    (run : xs.filterMapM f = .ok ys) {y : β} : y ∈ ys ↔ ∃ x ∈ xs, f x = .ok (some y) := by
  obtain ⟨all, rfl⟩ := filterMapM_eq_ok.1 run
  simp only [List.mem_filterMap]
  refine exists_congr fun x => and_congr_right fun mem => ?_
  obtain ⟨r, step⟩ := all x mem
  simp [step, outcome?]

/-- What a run gives keeps the order of what it was given. -/
theorem filterMapM_map_sublist {γ : Type} {f : α → Except ε (Option β)} {xs : List α} {ys : List β}
    {g : β → γ} {h : α → γ} (run : xs.filterMapM f = .ok ys)
    (same : ∀ x ∈ xs, ∀ y, f x = .ok (some y) → g y = h x) : (ys.map g).Sublist (xs.map h) := by
  obtain ⟨all, rfl⟩ := filterMapM_eq_ok.1 run
  clear run
  induction xs with
  | nil => exact .slnil
  | cons x rest ih =>
      obtain ⟨⟨r, step⟩, others⟩ := List.forall_mem_cons.1 all
      obtain ⟨here, there⟩ := List.forall_mem_cons.1 same
      rw [List.filterMap_cons, List.map_cons, step]
      cases r with
      | none => exact (ih there others).cons (h x)
      | some y =>
          rw [outcome?, List.map_cons, here y step]
          exact (ih there others).cons_cons (h x)

/-- The values of a run that have a property, with the elements that they come from, in order. -/
theorem exists_sources {f : α → Except ε (Option β)} {q : β → Bool} {xs : List α} {ys : List β}
    (run : xs.filterMapM f = .ok ys) :
    ∃ zs, zs.Sublist xs ∧
      List.Forall₂ (fun x y => q y = true ∧ f x = .ok (some y)) zs (ys.filter q) := by
  obtain ⟨all, rfl⟩ := filterMapM_eq_ok.1 run
  clear run
  induction xs with
  | nil => exact ⟨[], .slnil, .nil⟩
  | cons x rest ih =>
      obtain ⟨⟨r, step⟩, others⟩ := List.forall_mem_cons.1 all
      obtain ⟨zs, kept, sources⟩ := ih others
      rw [List.filterMap_cons, step]
      cases r with
      | none => exact ⟨zs, kept.cons x, sources⟩
      | some y =>
          rw [outcome?, List.filter_cons]
          split
          · rename_i has
            exact ⟨x :: zs, kept.cons_cons x, .cons ⟨has, step⟩ sources⟩
          · exact ⟨zs, kept.cons x, sources⟩

/-- Runs over one list whose steps give related values give related lists. -/
theorem forall₂_of_filterMapM {γ : Type} {r : β → γ → Prop} {f : α → Except ε (Option β)}
    {g : α → Except ε (Option γ)} {xs : List α} {ys : List β} {zs : List γ}
    (run : xs.filterMapM f = .ok ys) (run' : xs.filterMapM g = .ok zs)
    (each : ∀ x ∈ xs, ∀ a b, f x = .ok a → g x = .ok b → Option.Rel r a b) :
    List.Forall₂ r ys zs := by
  induction xs generalizing ys zs with
  | nil =>
      cases run
      cases run'
      exact .nil
  | cons x rest ih =>
      obtain ⟨here, there⟩ := List.forall_mem_cons.1 each
      rw [List.filterMapM_cons] at run run'
      obtain ⟨a, step, run⟩ := bind_eq_ok.1 run
      obtain ⟨b, step', run'⟩ := bind_eq_ok.1 run'
      cases here a b step step' with
      | none => exact ih run run' there
      | some related =>
          obtain ⟨ys, others, done⟩ := bind_eq_ok.1 run
          obtain ⟨zs, others', done'⟩ := bind_eq_ok.1 run'
          rw [← pure_eq_ok.1 done, ← pure_eq_ok.1 done']
          exact .cons related (ih others others' there)

/-- A run whose steps keep a property apart gives, from the elements that have it, the values that
have it. -/
theorem filterMapM_filter {f : α → Except ε (Option β)} {p : α → Bool} {q : β → Bool} {xs : List α}
    {ys : List β} (run : xs.filterMapM f = .ok ys)
    (same : ∀ x ∈ xs, ∀ y, f x = .ok (some y) → q y = p x) :
    (xs.filter p).filterMapM f = .ok (ys.filter q) := by
  obtain ⟨all, rfl⟩ := filterMapM_eq_ok.1 run
  refine filterMapM_eq_ok.2 ⟨fun x mem => all x (List.mem_of_mem_filter mem), ?_⟩
  clear run
  induction xs with
  | nil => rfl
  | cons x rest ih =>
      obtain ⟨⟨r, step⟩, others⟩ := List.forall_mem_cons.1 all
      obtain ⟨here, there⟩ := List.forall_mem_cons.1 same
      have tail := ih there others
      rw [List.filterMap_cons, List.filter_cons]
      cases r with
      | none =>
          rw [step, outcome?]
          by_cases kept : p x = true
          · rw [if_pos kept, List.filterMap_cons, step, outcome?]
            exact tail
          · rw [if_neg kept]
            exact tail
      | some y =>
          rw [step, outcome?, List.filter_cons, here y step]
          by_cases kept : p x = true
          · rw [if_pos kept, if_pos kept, List.filterMap_cons, step, outcome?, tail]
          · rw [if_neg kept, if_neg kept]
            exact tail

/-- Every element of a list has its partner in a list that is related to it. -/
theorem exists_of_forall₂_left {r : α → β → Prop} {xs : List α} {ys : List β}
    (h : List.Forall₂ r xs ys) {x : α} (mem : x ∈ xs) : ∃ y ∈ ys, r x y := by
  induction h with
  | nil => cases mem
  | cons first _ ih =>
      rcases List.mem_cons.1 mem with rfl | later
      · exact ⟨_, List.mem_cons_self, first⟩
      · obtain ⟨y, mem, related⟩ := ih later
        exact ⟨y, List.mem_cons_of_mem _ mem, related⟩

theorem exists_of_forall₂_right {r : α → β → Prop} {xs : List α} {ys : List β}
    (h : List.Forall₂ r xs ys) {y : β} (mem : y ∈ ys) : ∃ x ∈ xs, r x y :=
  exists_of_forall₂_left h.flip mem

/-- In a run that finds something, each element is what its own step finds. -/
theorem mapM_eq_some {f : α → Option β} {xs : List α} {ys : List β} (run : xs.mapM f = some ys) :
    List.Forall₂ (fun x y => f x = some y) xs ys := by
  induction xs generalizing ys with
  | nil =>
      rw [List.mapM_nil, Option.pure_def, Option.some.injEq] at run
      exact run ▸ .nil
  | cons x rest ih =>
      rw [List.mapM_cons] at run
      obtain ⟨y, first, run⟩ := Option.bind_eq_some_iff.1 run
      obtain ⟨zs, others, done⟩ := Option.bind_eq_some_iff.1 run
      obtain rfl := Option.some.inj done
      exact .cons first (ih others)

/-- Each element of a run without gaps comes from its own step. -/
theorem mapM_eq_ok {f : α → Except ε β} {xs : List α} {ys : List β} (run : xs.mapM f = .ok ys) :
    List.Forall₂ (fun x y => f x = .ok y) xs ys := by
  induction xs generalizing ys with
  | nil =>
      rw [List.mapM_nil, pure_eq_ok] at run
      exact run ▸ .nil
  | cons x rest ih =>
      rw [List.mapM_cons, bind_eq_ok] at run
      obtain ⟨y, first, run⟩ := run
      obtain ⟨zs, others, done⟩ := bind_eq_ok.1 run
      rw [pure_eq_ok] at done
      exact done ▸ .cons first (ih others)

/-- Every element that a run without gaps was given has its step in the result. -/
theorem exists_of_mapM {f : α → Except ε β} {xs : List α} {ys : List β} (run : xs.mapM f = .ok ys)
    {x : α} (mem : x ∈ xs) : ∃ y ∈ ys, f x = .ok y :=
  exists_of_forall₂_left (mapM_eq_ok run) mem

/-- Steps that do the same make the same run. -/
theorem mapM_congr {f g : α → Except ε β} {xs : List α} (same : ∀ x ∈ xs, f x = g x) :
    xs.mapM f = xs.mapM g := by
  induction xs with
  | nil => rfl
  | cons x rest ih =>
      obtain ⟨here, there⟩ := List.forall_mem_cons.1 same
      rw [List.mapM_cons, List.mapM_cons, here, ih there]

/-- What the steps of a run without gaps keep, the whole run keeps. -/
theorem mapM_map_eq {γ : Type} {f : α → Except ε β} {xs : List α} {ys : List β} {g : β → γ}
    {h : α → γ} (run : xs.mapM f = .ok ys) (same : ∀ x y, f x = .ok y → g y = h x) :
    ys.map g = xs.map h := by
  have steps := mapM_eq_ok run
  clear run
  induction steps with
  | nil => rfl
  | cons first _ ih => rw [List.map_cons, List.map_cons, same _ _ first, ih]

theorem mem_mapM {f : α → Except ε β} {xs : List α} {ys : List β} (run : xs.mapM f = .ok ys) {y : β}
    (mem : y ∈ ys) : ∃ x ∈ xs, f x = .ok y :=
  exists_of_forall₂_right (mapM_eq_ok run) mem

end

end TokenSheet
