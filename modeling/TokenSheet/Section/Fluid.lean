import TokenSheet.Section.Stepped

/-!
Fluid sections: numbers that grow with the viewport, and media blocks for all that cannot grow.

A token enters by its value in the widest mode. What varies and is no number, or refers to other tokens, is
stepped by media blocks; a number that varies is interpolated; everything else is written once. Pieces of
interpolations that share a condition share a block, and on request a guarded block repeats the values of
the interpolated tokens mode by mode.

Only collections with two modes or more have a fluid section (`draftOf`). To ask for one without modes is a mistake
of the caller that is not reported: `fluidDraft` is empty then.
-/

namespace TokenSheet

open Css (Entry Block MediaBlock Declaration)

/-- A token that entered a fluid section, with the way it is treated. -/
structure Entrant where
  token : Token
  stepped : Bool
  scaling : Bool
  advice : List Advice

/-- How a token is treated over modes in order from the widest to the narrowest. -/
def Entrant.ofToken (o : Options) (modes : List Mode) (t : Token) : Except NumberError Entrant := do
  if ← t.isStepped o modes then return ⟨t, true, false, []⟩
  else if ← t.isScaling o modes then return ⟨t, false, true, ← t.advice modes⟩
  else return ⟨t, false, false, []⟩

/-- The tokens that do not need media blocks. -/
def clampable (es : List Entrant) : List Entrant :=
  es.filter (!·.stepped)

/-- The tokens that are stepped by media blocks. -/
def mediaDriven (es : List Entrant) : List Token :=
  (es.filter (·.stepped)).map (·.token)

/-- An entry, with the pieces of its interpolation that belong to other blocks. -/
structure FluidEntry where
  entry : Entry
  later : List Fluid.Piece := []

/-- The entry of a token that is interpolated piece by piece, if the piece of the default block is there. -/
def piecewiseEntryOf (o : Options) (modes : List Mode) (t : Token) :
    Except NumberError (Option FluidEntry) := do
  if o.wantsPieces t.property && !o.wantsViewport t.property then
    match ← Fluid.pieces o.desktopFirst t modes with
    | [] => return none
    | first :: later =>
      if first.condition?.isNone then
        return some ⟨⟨t.id, t.property, .piecewise (later.length + 1) first.value⟩, later⟩
      else return none
  else return none

/-- The entry of an interpolated token; `standard` is its value in the default mode. -/
def interpolatedEntry (o : Options) (modes : List Mode) (t : Token) (standard : Css.Value Float) :
    Except NumberError Entry := do
  match ← Fluid.fluidValue? o t modes with
  | none => return ⟨t.id, t.property, .plain standard⟩
  | some (.viewport, v) => return ⟨t.id, t.property, .viewport v⟩
  | some (_, v) => return ⟨t.id, t.property, .plain v⟩

/-- The entry of a scaling token; `standard` is its value in the default mode. -/
def scalingEntry (o : Options) (modes : List Mode) (t : Token) (standard : Css.Value Float) :
    Except NumberError FluidEntry :=
  match t.columns? with
  | some n => .ok ⟨proportionEntry t n, []⟩
  | none => do
    match ← piecewiseEntryOf o modes t with
    | some e => return e
    | none => return ⟨← interpolatedEntry o modes t standard, []⟩

/-- The entry of a token that needs no media blocks, if it is written in the default mode. -/
def clampableEntryIn (o : Options) (modes : List Mode) (standardId : String) (e : Entrant) :
    Except NumberError (Option FluidEntry) := do
  match ← e.token.rendered o standardId with
  | none => return none
  | some v =>
    if e.scaling then return some (← scalingEntry o modes e.token v)
    else return some ⟨⟨e.token.id, e.token.property, .plain v⟩, []⟩

/-! ## Pieces by condition -/

/-- A declaration of a piece, with its condition and the name of the piece. -/
structure LaterPiece where
  condition : Css.Condition
  label : String
  declaration : Declaration

/-- The pieces of entries that belong to other blocks than the default one. -/
def laterPieces (es : List FluidEntry) : List LaterPiece :=
  es.flatMap fun e => e.later.filterMap fun p =>
    p.condition?.map fun c => ⟨c, p.label, ⟨e.entry.property, p.value⟩⟩

/-- Adds a piece to the block of its condition, or opens a block at the end. -/
def addPiece (p : LaterPiece) : List (String × MediaBlock) → List (String × MediaBlock)
  | [] => [(p.label, ⟨p.condition, [p.declaration]⟩)]
  | (label, b) :: rest =>
    if b.condition = p.condition then
      (label, { b with declarations := b.declarations ++ [p.declaration] }) :: rest
    else (label, b) :: addPiece p rest

/-- The blocks of pieces. A block is named for its first piece. -/
def pieceBlocks (ps : List LaterPiece) : List (String × MediaBlock) :=
  ps.foldl (fun blocks p => addPiece p blocks) []

/-! ## The section -/

/-- Whether the values of a token are repeated for browsers without interpolation. -/
def needsFallback (o : Options) (declared : List String) (e : Entrant) : Bool :=
  declared.contains e.token.id && e.scaling && e.token.columns?.isNone &&
    !o.wantsViewport e.token.property

/-- The guarded block with the values of interpolated tokens mode by mode. -/
def fallbackBlocks (o : Options) (modes : List Mode) (declared : List String) (es : List Entrant) :
    Except NumberError (List Block) := do
  if o.legacyFallbacks then
    let tokens := (es.filter (needsFallback o declared)).map (·.token)
    let blocks ← mediaBlocks o declared tokens (Mode.transitions o.desktopFirst modes)
    return if blocks.isEmpty then [] else [.fallback blocks]
  else return []

/-- The section of a collection with modes, two at least, in order from the widest to the narrowest. -/
def fluidDraft (o : Options) (gate : Gate) (modes : List Mode) (tokens : List Token) :
    Except NumberError Draft :=
  match modes.head?, Mode.default? o.desktopFirst modes with
  | some widest, some standard => do
    let entrants ← (admitted widest.id gate tokens).mapM (Entrant.ofToken o modes)
    let growing ← (clampable entrants).filterMapM (clampableEntryIn o modes standard.id)
    let fixed ← (mediaDriven entrants).filterMapM (plainEntryIn o standard.id)
    let entries := growing.map (·.entry) ++ fixed
    let declared := declaredIds entries
    let media ← mediaBlocks o declared (mediaDriven entrants)
      (Mode.transitions o.desktopFirst modes)
    let fallback ← fallbackBlocks o modes declared (clampable entrants)
    return {
      entries
      blocks := media.map .media ++
        (pieceBlocks (laterPieces growing)).map (fun p => .pieces p.1 p.2) ++ fallback
      advice := entrants.flatMap (·.advice) }
  | _, _ => .ok {}

end TokenSheet
