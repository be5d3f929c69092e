import TokenSheet.Proofs.Steps

/-!
Two computations in step.

Two computations that may fail are in step if both fail, or both succeed with related results
(`Lockstep`); which failure it is does not count. Runs over lists of partners stay in step when
their single steps do, and so do runs over the same elements in another order.
-/

namespace TokenSheet

variable {ε α β γ δ : Type}

/-- Both computations fail, or both succeed with related results. -/
inductive Lockstep (r : α → β → Prop) : Except ε α → Except ε β → Prop
  | ok {a : α} {b : β} (related : r a b) : Lockstep r (.ok a) (.ok b)
  | error {e e' : ε} : Lockstep r (.error e) (.error e')

namespace Lockstep

variable {r : α → β → Prop} {q : γ → δ → Prop} {x : Except ε α} {y : Except ε β}

theorem refl {r : α → α → Prop} (x : Except ε α) (same : ∀ a, x = .ok a → r a a) :
    Lockstep r x x := by
  cases x with
  | error e => exact .error
  | ok a => exact .ok (same a rfl)

theorem exists_of_ok (h : Lockstep r x y) {a : α} (success : x = .ok a) :
    ∃ b, y = .ok b ∧ r a b := by
  cases h with
  | ok related =>
      obtain rfl := Except.ok.inj success
      exact ⟨_, rfl, related⟩
  | error => cases success

/-- Computations are in step if each success of one gives one of the other. -/
theorem of_ok (forth : ∀ a, x = .ok a → ∃ b, y = .ok b ∧ r a b)
    (back : ∀ b, y = .ok b → ∃ a, x = .ok a) : Lockstep r x y := by
  cases x with
  | ok a =>
      obtain ⟨b, rfl, related⟩ := forth a rfl
      exact .ok related
  | error e =>
      cases y with
      | error e' => exact .error
      | ok b =>
          obtain ⟨a, success⟩ := back b rfl
          cases success

/-- The results may be related by what is known of them as well. -/
theorem imp {r' : α → β → Prop} (h : Lockstep r x y)
    (more : ∀ a b, x = .ok a → y = .ok b → r a b → r' a b) : Lockstep r' x y := by
  cases h with
  | ok related => exact .ok (more _ _ rfl rfl related)
  | error => exact .error

theorem bind {f : α → Except ε γ} {g : β → Except ε δ} (h : Lockstep r x y)
    (next : ∀ a b, r a b → Lockstep q (f a) (g b)) : Lockstep q (x >>= f) (y >>= g) := by
  cases h with
  | ok related => exact next _ _ related
  | error => exact .error

/-- One computation that goes on in two ways. -/
theorem bind_same {f : α → Except ε γ} {g : α → Except ε δ} {x : Except ε α}
    (next : ∀ a, Lockstep q (f a) (g a)) : Lockstep q (x >>= f) (x >>= g) := by
  cases x with
  | error e => exact .error
  | ok a => exact next a

/-- A computation that goes on purely. -/
theorem map {f : α → γ} {g : β → δ} (h : Lockstep r x y) (next : ∀ a b, r a b → q (f a) (g b)) :
    Lockstep q (x >>= fun a => pure (f a)) (y >>= fun b => pure (g b)) :=
  h.bind fun a b related => .ok (next a b related)

/-- Runs over partners. -/
theorem mapM {p : γ → δ → Prop} {f : γ → Except ε α} {g : δ → Except ε β} {xs : List γ}
    {ys : List δ} (partners : List.Forall₂ p xs ys) (step : ∀ x y, p x y → Lockstep r (f x) (g y)) :
    Lockstep (List.Forall₂ r) (xs.mapM f) (ys.mapM g) := by
  induction partners with
  | nil => exact .ok .nil
  | cons first _ ih =>
      rw [List.mapM_cons, List.mapM_cons]
      exact (step _ _ first).bind fun a b here => ih.map fun as bs others => .cons here others

/-- Folds over partners. -/
theorem foldlM {p : γ → δ → Prop} {f : α → γ → Except ε α} {g : β → δ → Except ε β} {xs : List γ}
    {ys : List δ} (partners : List.Forall₂ p xs ys)
    (step : ∀ a b x y, r a b → p x y → Lockstep r (f a x) (g b y)) {a : α} {b : β} (start : r a b) :
    Lockstep r (xs.foldlM f a) (ys.foldlM g b) := by
  induction partners generalizing a b with
  | nil => exact .ok start
  | cons first _ ih =>
      rw [List.foldlM_cons, List.foldlM_cons]
      exact (step a b _ _ start first).bind fun _ _ related => ih related

end Lockstep

/-! ## Runs in another order -/

/-- The result of a step, or a value in place of a failure. -/
def resultOr (default : β) : Except ε β → β
  | .ok b => b
  | .error _ => default

/-- A run without gaps succeeds if all of its steps do, and then it maps them to their results. -/
theorem mapM_eq_ok_iff {f : α → Except ε β} {xs : List α} {ys : List β} (default : β) :
    xs.mapM f = .ok ys ↔
      (∀ x ∈ xs, ∃ y, f x = .ok y) ∧ xs.map (fun x => resultOr default (f x)) = ys := by
  induction xs generalizing ys with
  | nil => simp [pure_eq_ok]
  | cons x rest ih =>
      rw [List.mapM_cons, List.forall_mem_cons, List.map_cons]
      cases step : f x with
      | error e => simp [error_bind]
      | ok y =>
          rw [ok_bind, bind_eq_ok]
          constructor
          · rintro ⟨zs, tail, done⟩
            obtain ⟨all, rfl⟩ := ih.1 tail
            exact ⟨⟨⟨_, rfl⟩, all⟩, pure_eq_ok.1 done⟩
          · rintro ⟨⟨-, all⟩, rfl⟩
            exact ⟨_, ih.2 ⟨all, rfl⟩, rfl⟩

/-- Runs without gaps over the same elements map all of them to their results. -/
theorem Lockstep.mapM_perm {f : α → Except ε β} {xs ys : List α} (perm : xs.Perm ys) (default : β) :
    Lockstep (fun as bs => as = xs.map (fun x => resultOr default (f x)) ∧
      bs = ys.map fun x => resultOr default (f x)) (xs.mapM f) (ys.mapM f) := by
  refine .of_ok (fun as run => ?_) fun bs run => ?_
  · obtain ⟨all, rfl⟩ := (mapM_eq_ok_iff default).1 run
    exact ⟨_, (mapM_eq_ok_iff default).2 ⟨fun x mem => all x (perm.mem_iff.2 mem), rfl⟩, rfl, rfl⟩
  · obtain ⟨all, -⟩ := (mapM_eq_ok_iff default).1 run
    exact ⟨_, (mapM_eq_ok_iff default).2 ⟨fun x mem => all x (perm.mem_iff.1 mem), rfl⟩⟩

/-- Runs over the same elements give the same results in another order. -/
theorem Lockstep.filterMapM_perm {f : α → Except ε (Option β)} {xs ys : List α}
    (perm : xs.Perm ys) : Lockstep List.Perm (xs.filterMapM f) (ys.filterMapM f) := by
  refine .of_ok (fun as run => ?_) fun bs run => ?_
  · obtain ⟨all, rfl⟩ := filterMapM_eq_ok.1 run
    exact ⟨_, filterMapM_eq_ok.2 ⟨fun x mem => all x (perm.mem_iff.2 mem), rfl⟩,
      perm.filterMap _⟩
  · obtain ⟨all, -⟩ := filterMapM_eq_ok.1 run
    exact ⟨_, filterMapM_eq_ok.2 ⟨fun x mem => all x (perm.mem_iff.1 mem), rfl⟩⟩

/-- Steps that do the same with partners make the same run. -/
theorem filterMapM_congr {p : α → β → Prop} {f : α → Except ε (Option γ)}
    {g : β → Except ε (Option γ)} {xs : List α} {ys : List β} (partners : List.Forall₂ p xs ys)
    (same : ∀ x y, p x y → g y = f x) : ys.filterMapM g = xs.filterMapM f := by
  induction partners with
  | nil => rfl
  | cons first _ ih => rw [List.filterMapM_cons, List.filterMapM_cons, same _ _ first, ih]

end TokenSheet
