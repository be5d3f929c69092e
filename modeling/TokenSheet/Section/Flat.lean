import TokenSheet.Section.Basic

/-!
Flat sections: one default block with the values of the first mode.

To ask for the section of a collection without modes is a mistake of the caller. It is not reported: `flatDraft` is
empty then. Emission passes over such collections (`emitAll`).
-/

namespace TokenSheet

/-- The section of a collection that is written in its first mode only; it has a mode. -/
def flatDraft (o : Options) (gate : Gate) (c : Collection) (tokens : List Token) :
    Except NumberError Draft :=
  match c.firstMode? with
  | none => .ok {}
  | some m => do return { entries := ← (admitted m.id gate tokens).filterMapM (plainEntryIn o m.id) }

end TokenSheet
