import TokenSheet.Css.Value
import TokenSheet.Proofs.Text.Alphabets

/-!
The numbers in a value, with their units.

A value is made of fixed texts with terms between them (`Value.text_eq_framed`), so every number in it
is the number of a term and has the unit of that term. The values that numbers are written as have one
unit, apart from the terms that grow with the viewport (`Value.MeasuredIn`).
-/

namespace TokenSheet.Css

open Text (Over isNumberChar)

variable {kind : Char → Bool} {unit : String} {v : Value Float}

/-! ## Terms -/

/-- A number with the unit behind it. -/
structure Term where
  number : Float
  unit : String

/-- The text of a term. -/
def Term.text (x : Term) : String :=
  Scalar.text x.number ++ x.unit

/-- The terms of a middle term. -/
def Preferred.terms (unit : String) : Preferred Float → List Term
  | .interceptFirst intercept slope => [⟨intercept, unit⟩, ⟨slope, "vw"⟩]
  | .slopeFirst slope offset => [⟨slope, "vw"⟩, ⟨offset, unit⟩]

/-- The sign of the second part of a middle term. -/
def Preferred.sign : Preferred Float → String
  | .interceptFirst .. => " + "
  | .slopeFirst .. => " - "

namespace Value

/-- The terms of a value. Only numbers have terms. -/
def terms : Value Float → List Term
  | .quantity number unit => [⟨number, unit⟩]
  | .clamp lower preferred upper unit => ⟨lower, unit⟩ :: (preferred.terms unit ++ [⟨upper, unit⟩])
  | .viewportCapped limit unit => [⟨100, "vw"⟩, ⟨limit, unit⟩]
  | .reference _ => []
  | .quoted _ => []
  | .verbatim _ => []

/-- The fixed texts of a value: one in front of each term, and one at the end. -/
def frame : Value Float → List String
  | .quantity .. => ["", ""]
  | .clamp _ preferred _ _ => ["clamp(", ", calc(", preferred.sign, "), ", ")"]
  | .viewportCapped .. => ["min(", ", ", ")"]
  | v => [v.text]

end Value

/-- Terms between fixed texts. -/
def framed : List String → List Term → String
  | [], _ => ""
  | s :: _, [] => s
  | s :: frame, x :: terms => s ++ x.text ++ framed frame terms

/-- A value consists of its terms and of fixed texts. -/
theorem Value.text_eq_framed (v : Value Float) : v.text = framed v.frame v.terms := by
  have hundred : Scalar.text (100 : Float) = "100" := by decide +kernel
  cases v with
  | quantity number unit => simp [text, framed, frame, terms, Term.text]
  | clamp lower preferred upper unit =>
      cases preferred <;> rw [← String.toList_inj] <;>
        simp [text, framed, frame, terms, Term.text, Preferred.text, Preferred.terms, Preferred.sign]
  | viewportCapped limit unit =>
      rw [← String.toList_inj]
      simp [text, framed, frame, terms, Term.text, hundred]
  | reference property => rfl
  | quoted s => rfl
  | verbatim s => rfl

theorem over_framed {frame : List String} {terms : List Term} (fixed : ∀ s ∈ frame, Over kind s)
    (inside : ∀ x ∈ terms, Over kind x.text) : Over kind (framed frame terms) := by
  induction frame generalizing terms with
  | nil => exact List.forall_mem_nil _
  | cons s frame ih =>
      obtain ⟨here, fixed⟩ := List.forall_mem_cons.1 fixed
      cases terms with
      | nil => exact here
      | cons x terms =>
          obtain ⟨first, inside⟩ := List.forall_mem_cons.1 inside
          exact (here.append first).append (ih fixed inside)

/-! ## Values in one unit -/

/-- The values that numbers are written as in a unit. -/
inductive Value.MeasuredIn (unit : String) : Value Float → Prop
  | quantity (number : Float) : MeasuredIn unit (.quantity number unit)
  | clamp (lower : Float) (preferred : Preferred Float) (upper : Float) :
      MeasuredIn unit (.clamp lower preferred upper unit)
  | viewportCapped (limit : Float) : MeasuredIn unit (.viewportCapped limit unit)

namespace Value.MeasuredIn

variable (h : v.MeasuredIn unit)

include h

/-- All numbers have the unit, apart from those that grow with the viewport. -/
theorem unit_of_mem_terms {x : Term} (mem : x ∈ v.terms) : x.unit = unit ∨ x.unit = "vw" := by
  cases h with
  | quantity number =>
      obtain rfl := List.mem_singleton.1 mem
      exact .inl rfl
  | clamp lower preferred upper =>
      cases preferred <;> simp only [terms, Preferred.terms, List.cons_append, List.nil_append,
        List.mem_cons, List.not_mem_nil, or_false] at mem <;>
        rcases mem with rfl | rfl | rfl | rfl <;> simp
  | viewportCapped limit =>
      simp only [terms, List.mem_cons, List.not_mem_nil, or_false] at mem
      rcases mem with rfl | rfl <;> simp

/-- The fixed texts of a value with a unit. -/
theorem frame_mem : v.frame ∈ [["", ""], ["clamp(", ", calc(", " + ", "), ", ")"],
    ["clamp(", ", calc(", " - ", "), ", ")"], ["min(", ", ", ")"]] := by
  cases h with
  | quantity number => simp [frame]
  | clamp lower preferred upper => cases preferred <;> simp [frame, Preferred.sign]
  | viewportCapped limit => simp [frame]

/-- However a bare number is written, there are no pixels. -/
theorem no_pixels (bare : unit = "") : Over (· != 'x') v.text := by
  have fixed : ∀ frame ∈ [["", ""], ["clamp(", ", calc(", " + ", "), ", ")"],
      ["clamp(", ", calc(", " - ", "), ", ")"], ["min(", ", ", ")"]],
      ∀ s ∈ frame, Over (· != 'x') s := by decide
  have units : ∀ x ∈ v.terms, Over (· != 'x') x.unit := by
    intro x mem
    rcases h.unit_of_mem_terms mem with same | same
    · rw [same, bare]
      decide
    · rw [same]
      decide
  rw [v.text_eq_framed]
  exact over_framed (fixed _ h.frame_mem) fun x mem =>
    ((Number.over_plainText x.number).ne (by decide)).append (units x mem)

end Value.MeasuredIn

/-- A number with its unit only is written without a part of the viewport. -/
theorem Value.no_viewport_of_quantity {number : Float} (own : Over (· != 'v') unit) :
    Over (· != 'v') (Value.quantity number unit).text :=
  ((Number.over_plainText number).ne (by decide)).append own

end TokenSheet.Css
