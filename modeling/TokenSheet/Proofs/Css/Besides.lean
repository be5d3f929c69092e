import TokenSheet.Proofs.Css.Cascade

/-!
What a stylesheet writes apart from one property.

For the other properties and under given circumstances the declarations are a part of what is
written, in the order in which it is written (`Css.besides`). It can be taken block by block, and
from a block it takes the declarations of the other properties.
-/

namespace TokenSheet.Css

deriving instance DecidableEq for Circumstance

/-- What is written for some circumstances for all properties but one. -/
def besides (n : String) (k : Circumstance) (ws : List Written) : List Written :=
  ws.filter fun d => d.property != n && decide (d.circumstance = k)

variable {n : String} {k : Circumstance}

theorem besides_append (xs ys : List Written) :
    besides n k (xs ++ ys) = besides n k xs ++ besides n k ys :=
  List.filter_append xs ys

theorem besides_flatMap {α : Type} (f : α → List Written) (xs : List α) :
    besides n k (xs.flatMap f) = xs.flatMap fun x => besides n k (f x) :=
  List.filter_flatMap

theorem besides_eq_nil {ws : List Written}
    (apart : ∀ d ∈ ws, d.property = n ∨ d.circumstance ≠ k) : besides n k ws = [] := by
  refine List.filter_eq_nil_iff.2 fun d mem => ?_
  rcases apart d mem with own | other
  · simp [own]
  · simp [other]

/-- Declarations of the property can be left out before. -/
theorem besides_filter (ws : List Written) :
    besides n k (ws.filter (·.property != n)) = besides n k ws := by
  unfold besides
  rw [List.filter_filter]
  refine List.filter_congr fun d _ => ?_
  rw [Bool.and_right_comm, Bool.and_self]

/-- Of the declarations of a block only those of other properties count. -/
theorem besides_writtenFor (k' : Circumstance) (ds : List Declaration) :
    besides n k (writtenFor k' (ds.filter (·.property != n))) = besides n k (writtenFor k' ds) := by
  rw [← besides_filter (writtenFor k' ds), writtenFor, writtenFor, List.filter_map]
  rfl

end TokenSheet.Css
