import TokenSheet.Css.Rendered
import TokenSheet.Fluid.Treatment
import TokenSheet.Proofs.Steps
import TokenSheet.Section.Fluid

/-!
Which values refer to other properties.

Only a token whose value is a reference is written as one. Interpolations never are, in whatever
form they come: end to end, piece by piece, or capped by the viewport.
-/

namespace TokenSheet

namespace Css

/-- The property that a value refers to. -/
def Value.target? {α : Type} : Value α → Option String
  | .reference property => some property
  | .quantity .. => none
  | .clamp .. => none
  | .viewportCapped .. => none
  | .quoted _ => none
  | .verbatim _ => none

/-- The property that an entry refers to. -/
def Entry.target? (e : Entry) : Option String :=
  match e.form with
  | .plain v => v.target?
  | .piecewise _ v => v.target?
  | .viewport v => v.target?
  | .proportion _ => none

/-- An entry of the form `--x: var(--x)`. -/
def Entry.RefersToItself (e : Entry) : Prop :=
  e.target? = some e.property

/-- A declaration of the form `--x: var(--x)`. -/
def Declaration.RefersToItself (d : Declaration) : Prop :=
  d.value.target? = some d.property

theorem Value.eq_reference_of_target? {α : Type} {v : Value α} {property : String}
    (h : v.target? = some property) : v = .reference property := by
  cases v with
  | reference p =>
      cases h
      rfl
  | quantity => cases h
  | clamp => cases h
  | viewportCapped => cases h
  | quoted => cases h
  | verbatim => cases h

end Css

open Css (Value)

/-! ## Values of tokens -/

namespace Token

variable {o : Options} {t : Token} {modeId : String}

theorem renderLiteral_target? {l : Literal} {v : Value Float} (h : t.renderLiteral l = .ok v) :
    v.target? = none := by
  unfold renderLiteral at h
  split at h
  · obtain ⟨x, -, done⟩ := bind_eq_ok.1 h
    rw [← pure_eq_ok.1 done]
    rfl
  · obtain ⟨x, -, done⟩ := bind_eq_ok.1 h
    rw [← pure_eq_ok.1 done]
    rfl
  · rw [← Except.ok.inj h]
    split <;> rfl
  · rw [← Except.ok.inj h]
    rfl

/-- A token is written as a reference exactly where its value is a reference to a known property,
and references are preserved. -/
theorem rendered_eq_reference {property : String} :
    t.rendered o modeId = .ok (some (.reference property)) ↔
      o.references = .preserved ∧ property ≠ "" ∧
        ∃ target, t.valueIn modeId = some (.reference target (some property)) := by
  unfold rendered
  cases value : t.valueIn modeId with
  | none => simp
  | some v =>
      match v with
      | .reference target none => simp [render]
      | .reference target (some p) =>
          simp only [render, Except.ok.injEq, Option.some.injEq, TokenValue.reference.injEq]
          constructor
          · intro h
            split at h
            · rename_i writable
              cases h
              exact ⟨writable.1, writable.2, target, rfl, rfl⟩
            · cases h
          · rintro ⟨preserved, nonempty, _, -, rfl⟩
            rw [if_pos ⟨preserved, nonempty⟩]
      | .literal l =>
          simp only [render, Option.some.injEq, reduceCtorEq, exists_false, and_false, iff_false]
          intro h
          obtain ⟨v, literal, done⟩ := bind_eq_ok.1 h
          have same := pure_eq_ok.1 done
          cases same
          cases renderLiteral_target? literal

/-- A value that refers to the token's own property, as one that is written. -/
theorem isOwnReference_iff {value : Option TokenValue} :
    t.isOwnReference value = true ↔
      ∃ target, value = some (.reference target (some t.property)) := by
  match value with
  | none => simp [isOwnReference]
  | some (.literal l) => simp [isOwnReference]
  | some (.reference target none) => simp [isOwnReference]
  | some (.reference target (some p)) => simp [isOwnReference]

/-- Where a token is written as a reference to itself, its value is one. -/
theorem isOwnReference_of_rendered {v : Value Float} (run : t.rendered o modeId = .ok (some v))
    (own : v.target? = some t.property) : t.isOwnReference (t.valueIn modeId) = true := by
  rw [Css.Value.eq_reference_of_target? own, rendered_eq_reference] at run
  exact isOwnReference_iff.2 run.2.2

end Token

/-! ## Interpolations -/

namespace Fluid

theorem between_target? {p q : Sample Float} {unit : String} {v : Value Float}
    (h : between p q unit = .ok v) : v.target? = none := by
  unfold between at h
  split at h
  · obtain ⟨x, -, done⟩ := bind_eq_ok.1 h
    rw [← pure_eq_ok.1 done]
    rfl
  · simp only [bind_eq_ok] at h
    obtain ⟨_, -, _, -, _, -, _, -, _, -, _, -, done⟩ := h
    rw [← pure_eq_ok.1 done]
    rfl

theorem linearClamp_target? {p q : Sample Float} {unit : String} {v : Value Float}
    (h : linearClamp p q unit = .ok v) : v.target? = none := by
  unfold linearClamp at h
  split at h
  · exact between_target? h
  · exact between_target? h

theorem endToEnd_target? {o : Options} {t : Token} {wide narrow : Sample Float}
    {r : Form × Value Float} (h : endToEnd o t wide narrow = .ok r) : r.2.target? = none := by
  unfold endToEnd at h
  split at h
  · obtain ⟨v, capped, done⟩ := bind_eq_ok.1 h
    obtain ⟨x, -, done'⟩ := bind_eq_ok.1 capped
    rw [← pure_eq_ok.1 done, ← pure_eq_ok.1 done']
    rfl
  · split at h
    · obtain ⟨x, -, done⟩ := bind_eq_ok.1 h
      rw [← pure_eq_ok.1 done]
      rfl
    · obtain ⟨v, clamp, done⟩ := bind_eq_ok.1 h
      rw [← pure_eq_ok.1 done]
      exact linearClamp_target? clamp

theorem piecesFrom_target? {condition : Mode → Css.Condition} {t : Token} {modes : List Mode}
    {first : Option Css.Condition} {ps : List Piece}
    (h : piecesFrom condition t first modes = .ok ps) :
    ∀ p ∈ ps, p.value.target? = none := by
  induction modes generalizing first ps with
  | nil =>
      cases h
      exact List.forall_mem_nil _
  | cons m rest ih =>
      cases rest with
      | nil =>
          cases h
          exact List.forall_mem_nil _
      | cons next rest =>
          rw [piecesFrom] at h
          split at h
          · obtain ⟨v, clamp, h⟩ := bind_eq_ok.1 h
            obtain ⟨here, piece, h⟩ := bind_eq_ok.1 h
            obtain ⟨others, tail, done⟩ := bind_eq_ok.1 h
            rw [← pure_eq_ok.1 done, ← pure_eq_ok.1 piece]
            refine List.forall_mem_append.2 ⟨?_, ih tail⟩
            rw [List.forall_mem_singleton]
            exact linearClamp_target? clamp
          · obtain ⟨here, piece, h⟩ := bind_eq_ok.1 h
            obtain ⟨others, tail, done⟩ := bind_eq_ok.1 h
            rw [← pure_eq_ok.1 done, ← pure_eq_ok.1 piece]
            exact ih tail

theorem pieces_target? {desktopFirst : Bool} {t : Token} {modes : List Mode} {ps : List Piece}
    (h : pieces desktopFirst t modes = .ok ps) : ∀ p ∈ ps, p.value.target? = none := by
  unfold pieces at h
  split at h
  · exact piecesFrom_target? h
  · exact piecesFrom_target? h

theorem fluidValue?_target? {o : Options} {t : Token} {modes : List Mode} {r : Form × Value Float}
    (h : fluidValue? o t modes = .ok (some r)) : r.2.target? = none := by
  unfold fluidValue? at h
  split at h
  · obtain ⟨r', run, done⟩ := bind_eq_ok.1 h
    have same := pure_eq_ok.1 done
    cases same
    exact endToEnd_target? run
  · cases h

end Fluid

end TokenSheet
