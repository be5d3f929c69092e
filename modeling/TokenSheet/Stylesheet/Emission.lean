import TokenSheet.Catalog.Basic
import TokenSheet.Section.Flat
import TokenSheet.Section.Fluid
import TokenSheet.Section.Themed

/-!
Emission: the sections of a catalog one after the other.

An emission is a fold over collections. Each section may declare only names that no earlier section has, and
names that the foundations declare anywhere are kept for them (`foundationProperties`). What a section
contributes depends on the emission so far through the declared names only.

A section needs a mode for its default block, and to ask for the section of a collection without modes is a mistake
of the caller. `emitAll` passes over such collections. Called directly, `draftOf`, `sectionOf` and `Emission.add` do
not report the mistake: they give an empty section, which stands for no output of the program.
-/

namespace TokenSheet

/-- The sections written so far. -/
structure Emission where
  sections : List Section := []

namespace Emission

/-- The properties declared so far. -/
def properties (e : Emission) : List String :=
  e.sections.flatMap Section.properties

/-- The lines written so far. -/
def lines (ids : Bool) (e : Emission) : List String :=
  e.sections.flatMap (Section.lines ids)

/-- The entries of all default blocks. -/
def entries (e : Emission) : List Css.Entry :=
  e.sections.flatMap (·.entries)

/-- The advice of all sections. -/
def advice (e : Emission) : List Advice :=
  e.sections.flatMap (·.advice)

end Emission

/-- The draft of a collection, by what its modes vary over. Without a mode it is empty, see above. -/
def draftOf (o : Options) (gate : Gate) (c : Collection) (tokens : List Token) :
    Except NumberError Draft :=
  match c.kind with
  | .breakpoint =>
    let modes := Mode.widestFirst c.modes
    if o.outputMode = .fluid ∧ 2 ≤ modes.length then fluidDraft o gate modes tokens
    else steppedDraft o gate modes tokens
  | .theme => themedDraft o gate c tokens
  | .single => flatDraft o gate c tokens

/-- The section of a collection. -/
def sectionOf (o : Options) (gate : Gate) (c : Collection) (tokens : List Token) :
    Except NumberError Section := do
  let draft ← draftOf o gate c tokens
  return ⟨Text.upper c.name, draft.entries, draft.blocks, draft.advice⟩

/-- The emission with the section of one more collection. -/
def Emission.add (o : Options) (reserved : List String) (e : Emission) (c : Collection)
    (tokens : List Token) : Except NumberError Emission := do
  return ⟨e.sections ++ [← sectionOf o ⟨e.properties, reserved⟩ c tokens]⟩

/-- Whether a collection is written no later than another one: by its domain, then by its layer. -/
def Collection.precedes (a b : Collection) : Bool :=
  a.domain < b.domain || (a.domain == b.domain && a.layer.rank ≤ b.layer.rank)

/-- The collections in the order in which they are written. -/
def Catalog.inOrder (c : Catalog) : List Collection :=
  c.collections.mergeSort Collection.precedes

/-- Emits collections of a catalog in a given order; those without tokens or modes are passed over. -/
def emitAll (o : Options) (reserved : List String) (catalog : Catalog) (cs : List Collection) :
    Except NumberError Emission :=
  cs.foldlM (fun e c =>
    let tokens := catalog.tokensIn c.id
    if tokens.isEmpty || c.modes.isEmpty then pure e else e.add o reserved c tokens) {}

/-- The names that the foundations declare. They are never held back by other names, so rendering them on
their own gives the names that they have in the whole stylesheet. -/
def foundationProperties (o : Options) (catalog : Catalog) : Except NumberError (List String) := do
  let foundations := catalog.inOrder.filter fun c => c.layer == .foundations
  return (← emitAll o [] catalog foundations).properties

/-- The emission of a whole catalog. -/
def Emission.ofCatalog (o : Options) (catalog : Catalog) : Except NumberError Emission := do
  emitAll o (← foundationProperties o catalog) catalog catalog.inOrder

end TokenSheet
