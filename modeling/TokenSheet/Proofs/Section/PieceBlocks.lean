import TokenSheet.Proofs.Css.Cascade
import TokenSheet.Proofs.Lists
import TokenSheet.Section.Fluid

/-!
The blocks of the pieces of interpolations.

Pieces of several tokens that share a condition share a block. The blocks stand in the order in
which their conditions come up first (`pieceBlocks_conditions`), and each of them holds the
declarations of the pieces under its condition in the order of the pieces
(`declarationsAt_pieceBlocks`).
-/

namespace TokenSheet

open Css (Block MediaBlock Declaration)

/-! ## Blocks of pieces -/

/-- A piece joins the block of its condition or opens one at the end. -/
theorem addPiece_conditions (p : LaterPiece) (bs : List (String × MediaBlock)) :
    (addPiece p bs).map (·.2.condition) =
      if p.condition ∈ bs.map (·.2.condition) then bs.map (·.2.condition)
      else bs.map (·.2.condition) ++ [p.condition] := by
  induction bs with
  | nil => rfl
  | cons b rest ih =>
      obtain ⟨label, b⟩ := b
      rw [addPiece]
      by_cases same : b.condition = p.condition
      · simp [same]
      · have other : p.condition ≠ b.condition := Ne.symm same
        rw [if_neg same, List.map_cons, ih, List.map_cons]
        simp only [List.mem_cons, other, false_or]
        split <;> rfl

theorem pieceBlocks_concat (ps : List LaterPiece) (p : LaterPiece) :
    pieceBlocks (ps ++ [p]) = addPiece p (pieceBlocks ps) := by
  rw [pieceBlocks, List.foldl_append]
  rfl

/-- Blocks stand in the order in which their conditions come up first. -/
theorem pieceBlocks_conditions (ps : List LaterPiece) :
    (pieceBlocks ps).map (·.2.condition) = (ps.map (·.condition)).eraseDups := by
  induction ps using List.reverseRecOn with
  | nil => rfl
  | append_singleton ps p ih =>
      rw [pieceBlocks_concat, addPiece_conditions, ih, List.map_append, List.map_singleton,
        eraseDups_concat]
      simp only [List.mem_eraseDups]

/-- The declarations of the block of a condition. -/
def declarationsAt (c : Css.Condition) (bs : List (String × MediaBlock)) : List Declaration :=
  ((bs.find? fun b => b.2.condition = c).map (·.2.declarations)).getD []

theorem declarationsAt_addPiece (c : Css.Condition) (p : LaterPiece)
    (bs : List (String × MediaBlock)) :
    declarationsAt c (addPiece p bs) =
      declarationsAt c bs ++ if p.condition = c then [p.declaration] else [] := by
  induction bs with
  | nil =>
      rw [addPiece, declarationsAt, declarationsAt, List.find?_singleton]
      by_cases here : p.condition = c <;> simp [here]
  | cons b rest ih =>
      obtain ⟨label, b⟩ := b
      rw [addPiece]
      unfold declarationsAt at ih ⊢
      by_cases same : b.condition = p.condition
      · by_cases here : p.condition = c <;> simp [same, here]
      · rw [if_neg same]
        by_cases here : b.condition = c
        · have other : p.condition ≠ c := fun there => same (here.trans there.symm)
          simp [here, other]
        · simpa [here] using ih

/-- The block of a condition holds the declarations of the pieces under it in their order. -/
theorem declarationsAt_pieceBlocks (c : Css.Condition) (ps : List LaterPiece) :
    declarationsAt c (pieceBlocks ps) =
      (ps.filter fun p => p.condition = c).map (·.declaration) := by
  induction ps using List.reverseRecOn with
  | nil => rfl
  | append_singleton ps p ih =>
      rw [pieceBlocks_concat, declarationsAt_addPiece, ih, List.filter_append, List.map_append,
        List.filter_cons]
      by_cases here : p.condition = c <;> simp [here]

/-- A condition has no second block. -/
theorem declarationsAt_of_mem {bs : List (String × MediaBlock)}
    (nodup : (bs.map (·.2.condition)).Nodup) {b : String × MediaBlock} (mem : b ∈ bs) :
    declarationsAt b.2.condition bs = b.2.declarations := by
  have found : bs.find? (fun b' => b'.2.condition = b.2.condition) = some b := by
    induction bs with
    | nil => cases mem
    | cons b' rest ih =>
        obtain ⟨new, nodup⟩ := List.nodup_cons.1 nodup
        rcases List.mem_cons.1 mem with rfl | mem
        · exact List.find?_cons_of_pos (decide_eq_true rfl)
        · have other : b'.2.condition ≠ b.2.condition :=
            fun same => new (List.mem_map.2 ⟨b, mem, same.symm⟩)
          rw [List.find?_cons_of_neg (by simpa using other)]
          exact ih nodup mem
  rw [declarationsAt, found]
  rfl

/-- What the blocks of pieces write, condition by condition. -/
theorem pieceBlocks_written (ps : List LaterPiece) :
    ((pieceBlocks ps).map fun b => Block.pieces b.1 b.2).flatMap Block.written =
      (ps.map (·.condition)).eraseDups.flatMap fun c =>
        Css.writtenFor (.media c) ((ps.filter fun p => p.condition = c).map (·.declaration)) := by
  have nodup : ((pieceBlocks ps).map (·.2.condition)).Nodup := by
    rw [pieceBlocks_conditions]
    exact eraseDups_nodup _
  rw [← pieceBlocks_conditions, List.flatMap_map, List.flatMap_map]
  refine List.flatMap_congr fun b mem => ?_
  rw [Block.written, ← declarationsAt_pieceBlocks, declarationsAt_of_mem nodup mem]

end TokenSheet
