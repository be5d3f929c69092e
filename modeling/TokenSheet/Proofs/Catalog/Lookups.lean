import TokenSheet.Catalog.Reading
import TokenSheet.Proofs.Catalog.Chains

/-!
Catalogs that give the same answers.

Whatever is done with a token (naming its references, following them, flattening it) asks the
catalog for tokens and collections by their ids only. Catalogs that answer alike therefore treat
every token alike, in whatever order they hold their tokens and collections.
-/

namespace TokenSheet

namespace Catalog

/-- Catalogs whose look-ups by id find the same. -/
structure AnswersAlike (c c' : Catalog) : Prop where
  token : ∀ id, c.token? id = c'.token? id
  collection : ∀ id, c.collection? id = c'.collection? id

namespace AnswersAlike

variable {c c' : Catalog} (h : c.AnswersAlike c')

include h

theorem modeAt_eq (t : Token) (modeId : String) : c.modeAt t modeId = c'.modeAt t modeId := by
  rw [modeAt, modeAt, h.collection]

theorem walkFrom_eq (start : String) (met : List String) (modeId : String)
    (value : Option TokenValue) :
    c.walkFrom start met modeId value = c'.walkFrom start met modeId value := by
  fun_induction c.walkFrom start met modeId value with
  | case1 => rw [walkFrom]
  | case2 => rw [walkFrom]
  | case3 met modeId target property? itself => rw [walkFrom_reference, if_pos itself]
  | case4 met modeId target property? elsewhere visited =>
      rw [walkFrom_reference, if_neg elsewhere, if_pos (by simpa using visited)]
  | case5 met modeId target property? elsewhere fresh absent =>
      rw [walkFrom_reference, if_neg elsewhere, if_neg (by simpa using fresh), ← h.token, absent]
  | case6 met modeId target property? elsewhere fresh t found mode ih =>
      have same : mode = c'.modeAt t modeId := h.modeAt_eq t modeId
      rw [walkFrom_reference, if_neg elsewhere, if_neg (by simpa using fresh), ← h.token, found, ih,
        same]

theorem walk_eq (t : Token) (modeId : String) : c.walk t modeId = c'.walk t modeId :=
  h.walkFrom_eq t.id [t.id] modeId (t.valueIn modeId)

theorem nameToken_eq : c.nameToken = c'.nameToken := by
  have values (v : TokenValue) : c.nameValue v = c'.nameValue v := by
    cases v with
    | literal l => rfl
    | reference target property? => rw [nameValue, nameValue, h.token]
  funext t
  simp only [nameToken, values]

theorem isBroken_eq : c.isBroken = c'.isBroken := by
  funext v
  cases v with
  | literal l => rfl
  | reference target property? => rw [isBroken, isBroken, h.token]

theorem flatToken_eq : c.flatToken = c'.flatToken := by
  have values (t : Token) (modeId : String) (v : TokenValue) :
      c.flatValue? t modeId v = c'.flatValue? t modeId v := by
    cases v with
    | literal l => rfl
    | reference target property? => rw [flatValue?, flatValue?, h.walk_eq]
  funext t
  simp only [flatToken, values]

theorem runsInCircle_eq : c.runsInCircle = c'.runsInCircle := by
  funext t
  simp only [runsInCircle, h.walk_eq]

end AnswersAlike

end Catalog

end TokenSheet
