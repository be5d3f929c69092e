import TokenSheet.Document.Yaml.Node
import TokenSheet.Document.Yaml.Scalar

/-!
The document of a YAML text.

A mapping may take over the entries of others through the key `<<`: they come first, and its own entries replace
theirs. A scalar may be at fault although the text follows the grammar; of several such faults the one counts
that is least deeply nested, and of those the first.

The modules of this folder describe the safe loader of the `yaml` library, which reads version 1.1 of YAML: its line
ends (`Cursor`), its scalar styles (`readEscape` and what follows it), its marks and keys (`Scan`), its collections,
anchors and aliases (`Rule`), and the types of its repository (`plainValue`), the merge key among them. Tags and
directives are not modelled.
-/

namespace TokenSheet.Yaml

/-- Whether a node asks for the entries of other mappings, as a key. -/
def Node.isMerge : Node → Bool
  | .scalar isPlain text => isPlain && Yaml.isMerge text
  | _ => false

/-! ## Faults by depth -/

/-- A value, or a fault and how deep it lies. -/
abbrev Deep (α : Type) := Except (Nat × ReadFault) α

namespace Deep

/-- A result at the depth of the node itself. -/
def here {α : Type} (x : Except ReadFault α) : Deep α :=
  x.mapError fun fault => (0, fault)

/-- A result inside a collection. -/
def inside {α : Type} (x : Deep α) : Deep α :=
  x.mapError fun e => (e.1 + 1, e.2)

/-- Two results together: of two faults the one that is less deep counts, or the first. -/
def both {α β : Type} : Deep α → Deep β → Deep (α × β)
  | .ok a, .ok b => .ok (a, b)
  | .error e, .ok _ => .error e
  | .ok _, .error e => .error e
  | .error e, .error f => .error (if f.1 < e.1 then f else e)

/-- The results of a list together. -/
def all {α : Type} : List (Deep α) → Deep (List α)
  | [] => .ok []
  | x :: rest => (both x (all rest)).map fun p => p.1 :: p.2

end Deep

/-! ## Documents of nodes -/

/-- The key of a mapping; a lone equals sign is a text here. -/
def Node.key : Node → Except ReadFault Key
  | .scalar isPlain text =>
    if isPlain && !isEquals text then do orMalformed (← plainValue text).key?
    else .ok (.text (String.ofList text))
  | _ => .error .malformed

/-- The entries of a mapping before their faults are looked at. -/
abbrev Entries := List (Deep (Key × Document))

mutual

/-- The document of a node. -/
def Node.read : Node → Deep Document
  | .scalar isPlain text =>
    if isPlain then .here (plainValue text) else .ok (.text (String.ofList text))
  | .sequence items => .inside ((Deep.all (readItems items)).map .list)
  | .mapping entries => .inside (do
    let (taken, own) ← .here (readEntries entries)
    return .mapping (Document.ofEntries (← Deep.all (taken ++ own))))

/-- The documents of some nodes. -/
def readItems : List Node → List (Deep Document)
  | [] => []
  | item :: rest => item.read :: readItems rest

/-- The entries that a mapping takes over from others, and its own. -/
def readEntries : List (Node × Node) → Except ReadFault (Entries × Entries)
  | [] => .ok ([], [])
  | (key, value) :: rest =>
    if key.isMerge then do
      let more ← readSources value
      let (taken, own) ← readEntries rest
      return (more ++ taken, own)
    else do
      let (taken, own) ← readEntries rest
      return (taken, Deep.both (.here key.key) value.read :: own)

/-- The entries of the mappings in a value: those of a single one, or of the items of a sequence, the last one
first. -/
def readSources : Node → Except ReadFault Entries
  | .mapping entries => do
    let (taken, own) ← readEntries entries
    return taken ++ own
  | .sequence items => readEach items
  | .scalar .. => .error .malformed

/-- The entries of some mappings, the last one first. -/
def readEach : List Node → Except ReadFault Entries
  | [] => .ok []
  | .mapping entries :: rest => do
    let (taken, own) ← readEntries entries
    return (← readEach rest) ++ (taken ++ own)
  | _ :: _ => .error .malformed

end

/-- The document of a YAML text. A text without content is null. -/
def parse (s : String) : Except ReadFault Document := do
  (← Node.ofText s).read.mapError (·.2)

end TokenSheet.Yaml
