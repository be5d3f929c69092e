import TokenSheet.Catalog.Basic

/-!
Following references to a literal.

A walk moves from a reference to its target. There it reads the value of the current mode, or, where the
target has none, the value of the first mode of the target's collection, which then becomes the current
mode. A walk ends at a literal, at a token already met, or where nothing is found. Every step meets a new
token, so a walk ends after as many steps as the catalog has ids (`unmet_lt`).
-/

namespace TokenSheet

/-- The end of a walk. -/
inductive WalkEnd where
  | literal (value : Literal)
  /-- The walk came back to a token already met. -/
  | circular
  /-- There is no value to go on from. -/
  | nothing

/-- The literal at the end of a walk. -/
def WalkEnd.literal? : WalkEnd → Option Literal
  | .literal l => some l
  | .circular => none
  | .nothing => none

/-- Whether a walk ran in a circle. -/
def WalkEnd.isCircular : WalkEnd → Bool
  | .circular => true
  | .literal _ => false
  | .nothing => false

namespace Catalog

/-- The mode in which a token is read by a walk that arrives in a mode. -/
def modeAt (c : Catalog) (t : Token) (modeId : String) : String :=
  if (t.valueIn modeId).isSome then modeId
  else match (c.collection? t.collectionId).bind Collection.firstMode? with
    | some m => m.id
    | none => modeId

/-- The tokens that are not among the ids already met. -/
def unmet (c : Catalog) (met : List String) : List Token :=
  c.tokens.filter fun t => !met.contains t.id

theorem unmet_lt {c : Catalog} {met : List String} {id : String} {t : Token}
    (found : c.token? id = some t) (fresh : met.contains id = false) :
    (c.unmet (id :: met)).length < (c.unmet met).length := by
  obtain ⟨mem, rfl⟩ := mem_tokens_of_token? found
  have smaller : c.unmet (t.id :: met) = (c.unmet met).filter fun u => !(u.id == t.id) := by
    simp only [unmet, List.filter_filter, List.contains_cons, Bool.not_or]
  rw [smaller]
  apply List.length_filter_lt_length_iff_exists.2
  exact ⟨t, List.mem_filter.2 ⟨mem, by simpa using fresh⟩, by simp⟩

/-- Walks on from a value in a mode. `start` is where the walk began and `met` holds the ids met so far,
the latest first; a token that refers to itself right away ends in nothing. -/
def walkFrom (c : Catalog) (start : String) (met : List String) (modeId : String) :
    Option TokenValue → WalkEnd
  | none => .nothing
  | some (.literal l) => .literal l
  | some (.reference target _) =>
    if target = start ∧ met.length = 1 then .nothing
    else if _fresh : met.contains target then .circular
    else match _found : c.token? target with
      | none => .nothing
      | some t =>
        let mode := c.modeAt t modeId
        walkFrom c start (target :: met) mode (t.valueIn mode)
termination_by (c.unmet met).length
decreasing_by exact unmet_lt _found (by simpa using _fresh)

/-- The walk from a token in a mode. -/
def walk (c : Catalog) (t : Token) (modeId : String) : WalkEnd :=
  c.walkFrom t.id [t.id] modeId (t.valueIn modeId)

/-! ## Flattening -/

/-- The value with its reference replaced by the literal that it leads to, if there is one. -/
def flatValue? (c : Catalog) (t : Token) (modeId : String) : TokenValue → Option TokenValue
  | .literal l => some (.literal l)
  | .reference .. => (c.walk t modeId).literal?.map .literal

/-- The token with all references replaced. -/
def flatToken (c : Catalog) (t : Token) : Token :=
  { t with values := t.values.filterMap fun v => (c.flatValue? t v.1 v.2).map fun value => (v.1, value) }

/-- Whether a reference of a token runs in a circle. -/
def runsInCircle (c : Catalog) (t : Token) : Bool :=
  t.values.any fun v => v.2.isReference && (c.walk t v.1).isCircular

/-- The catalog without references: every walk is taken in the catalog as given. -/
def flatten (c : Catalog) : Catalog :=
  { c with
    tokens := c.tokens.map c.flatToken
    circular := (c.tokens.filter c.runsInCircle).map (·.name) }

end Catalog

end TokenSheet
