import TokenSheet.Section.Basic

/-!
Stepped sections: one value for each mode, without interpolation.

The default block holds the values of the default mode, and each other mode has a media block. Proportions
of the grid keep their form in every mode, so they appear in the default block only.

A collection without modes has no default mode. To ask for its section is a mistake of the caller that is not
reported, `steppedDraft` is empty then; emission passes over such collections (`emitAll`).
-/

namespace TokenSheet

open Css (Entry)

/-- The entry of a proportion. -/
def proportionEntry (t : Token) (columns : Nat) : Entry :=
  ⟨t.id, t.property, .proportion columns⟩

/-- The entry of a token in the default mode. -/
def steppedEntryIn (o : Options) (modeId : String) (t : Token) : Except NumberError (Option Entry) :=
  match t.columns? with
  | some n => .ok (some (proportionEntry t n))
  | none => plainEntryIn o modeId t

/-- The section of a collection with modes, one at least, in order from the widest to the narrowest. -/
def steppedDraft (o : Options) (gate : Gate) (modes : List Mode) (tokens : List Token) :
    Except NumberError Draft :=
  match Mode.default? o.desktopFirst modes with
  | none => .ok {}
  | some standard => do
    let entering := admitted standard.id gate tokens
    let entries ← entering.filterMapM (steppedEntryIn o standard.id)
    let proportions := (entering.filter (·.columns?.isSome)).map (·.id)
    let declared := (declaredIds entries).filter fun id => !proportions.contains id
    let blocks ← mediaBlocks o declared tokens (Mode.transitions o.desktopFirst modes)
    return { entries, blocks := blocks.map .media }

end TokenSheet
