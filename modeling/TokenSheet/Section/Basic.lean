import TokenSheet.Css.Block
import TokenSheet.Fluid.Deviation
import TokenSheet.Fluid.Proportion
import TokenSheet.Text.Case

/-!
Sections: what one collection contributes to a stylesheet.

A section has the entries of its default block, further blocks, and advice on tokens that could be written
in another form. Which tokens enter the default block is decided by `admitted`: a token that refers to its own
property is left out, and so is one whose property is taken already, unless it belongs to the foundations.
-/

namespace TokenSheet

open Css (Entry Block Declaration)

/-! ## Advice -/

/-- Where a token speaks of the viewport. -/
inductive ViewportHint where
  | name
  | description
deriving DecidableEq, Repr

/-- The name of the place. -/
def ViewportHint.label : ViewportHint → String
  | .name => "name"
  | .description => "description"

/-- Where a token speaks of the viewport, if it does. -/
def Token.viewportHint? (t : Token) : Option ViewportHint :=
  if Text.mentions (Text.lower t.name) "viewport" then some .name
  else if Text.mentions (Text.lower t.description) "viewport" then some .description
  else none

/-- The columns of a token, if it is a proportion. -/
def Token.columns? (t : Token) : Option Nat :=
  Fluid.proportionColumns? t.name

/-- Advice about a token. -/
inductive Advice where
  | viewport (property name : String) (hint : ViewportHint)
  | proportion (property name : String) (columns : Nat)
  | nonLinear (token : Token) (profile : Fluid.Profile Float)

/-- The advice about a scaling token. Proportions and tokens of the viewport scale for reasons of their own,
so they are not measured against a line. -/
def Token.advice (t : Token) (modes : List Mode) : Except NumberError (List Advice) := do
  let hint := t.viewportHint?
  let columns := t.columns?
  let onViewport := (hint.map fun h => Advice.viewport t.property t.name h).toList
  let onGrid := (columns.map fun n => Advice.proportion t.property t.name n).toList
  let onLine ← if hint.isNone && columns.isNone then Fluid.profileOf? t modes else pure none
  return onViewport ++ onGrid ++ (onLine.map (Advice.nonLinear t)).toList

/-! ## Sections -/

/-- What a collection contributes. -/
structure Section where
  title : String
  entries : List Entry
  blocks : List Block
  advice : List Advice

/-- What a strategy makes of a collection, before it gets its title. -/
structure Draft where
  entries : List Entry := []
  blocks : List Block := []
  advice : List Advice := []

namespace Section

/-- A comment with a rule of some sign above and below, and a blank line. -/
def banner (sign : Char) (texts : List String) : List String :=
  let rule := String.ofList (List.replicate 74 sign)
  ("/* " ++ rule) :: texts.map (fun s => "   " ++ s) ++ ["   " ++ rule ++ " */", ""]

/-- The lines of a section; none if it declares nothing. -/
def lines (ids : Bool) (s : Section) : List String :=
  if s.entries.isEmpty then []
  else banner '-' [s.title] ++
    Css.braced Css.rootSelector (s.entries.flatMap (Entry.lines Fluid.gridColumns ids)) ++
    s.blocks.flatMap Block.lines ++ [""]

/-- The properties that a section declares. -/
def properties (s : Section) : List String :=
  s.entries.map (·.property)

end Section

/-! ## Admission -/

namespace Token

/-- Whether a value is a reference to the property of the token itself. -/
def isOwnReference (t : Token) : Option TokenValue → Bool
  | some (.reference _ (some property)) => property == t.property
  | _ => false

/-- Whether a token stays out of a default block. Foundations win every collision of names. -/
def isSkipped (t : Token) (value : Option TokenValue) (taken reserved : List String) : Bool :=
  t.isOwnReference value ||
    (t.layer != .foundations && (taken.contains t.property || reserved.contains t.property))

end Token

/-- The names that a section may not declare: those of earlier sections, and those kept for the
foundations. -/
structure Gate where
  taken : List String := []
  reserved : List String := []

/-- The tokens that enter a default block by their value in a mode. Each one takes its property. -/
def admitted (modeId : String) (gate : Gate) : List Token → List Token
  | [] => []
  | t :: rest =>
    match t.valueIn modeId with
    | none => admitted modeId gate rest
    | some v =>
      if t.isSkipped (some v) gate.taken gate.reserved then admitted modeId gate rest
      else t :: admitted modeId { gate with taken := t.property :: gate.taken } rest

/-! ## Entries and declarations -/

/-- The plain entry of a token in a mode, if it is written there. -/
def plainEntryIn (o : Options) (modeId : String) (t : Token) : Except NumberError (Option Entry) := do
  return (← t.rendered o modeId).map fun v => ⟨t.id, t.property, .plain v⟩

/-- The declaration of a token in a mode, unless it would refer to itself. -/
def declaration? (o : Options) (modeId : String) (t : Token) :
    Except NumberError (Option Declaration) :=
  if t.isOwnReference (t.valueIn modeId) then .ok none
  else do return (← t.rendered o modeId).map fun v => ⟨t.property, v⟩

/-- The ids of the tokens that a default block declares. -/
def declaredIds (entries : List Entry) : List String :=
  entries.map (·.id)

/-- The declarations in a mode of those tokens that are declared in the default block. -/
def modeDeclarations (o : Options) (declared : List String) (tokens : List Token) (m : Mode) :
    Except NumberError (List Declaration) :=
  (tokens.filter fun t => declared.contains t.id).filterMapM (declaration? o m.id)

/-- The media blocks of modes with their conditions; a block without declarations is left out. -/
def mediaBlocks (o : Options) (declared : List String) (tokens : List Token)
    (transitions : List (Css.Condition × Mode)) : Except NumberError (List Css.MediaBlock) :=
  transitions.filterMapM fun (condition, m) => do
    let ds ← modeDeclarations o declared tokens m
    return if ds.isEmpty then none else some ⟨condition, ds⟩

end TokenSheet
