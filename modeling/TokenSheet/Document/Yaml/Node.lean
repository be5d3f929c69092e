import TokenSheet.Document.Yaml.Token

/-!
The nodes of a YAML document.

The tokens are read from left to right by one rule for each kind of node. An item, a key or a value that is left
out is an empty scalar. An alias stands for the node of the anchor with its name, which has to be complete.

The rules are the productions for block and flow collections of version 1.1 of YAML. A text with several documents is
refused, as it is by a reader of single documents. Tags and directives are refused too, because they are not modelled.
-/

namespace TokenSheet.Yaml

/-- A node. -/
inductive Node where
  | scalar (isPlain : Bool) (text : List Char)
  | sequence (items : List Node)
  | mapping (entries : List (Node × Node))

/-- What is left to read, and the nodes that have a name. -/
structure Feed where
  tokens : List Token
  anchors : List (String × Node) := []

/-- A rule that reads something from tokens. -/
abbrev Rule := StateT Feed (Except ReadFault)

namespace Rule

/-- The scalar that stands for a node that is left out. -/
def absent : Node := .scalar true []

/-- The next token. -/
def peek : Rule Token := do
  return (← get).tokens.headD .textEnd

/-- Passes over a token. -/
def skip : Rule Unit :=
  modify fun f => { f with tokens := f.tokens.tail }

/-- Fails at the next token, with the fault of the text if that is what the token tells. -/
def refuse {α : Type} : Rule α := do
  match ← peek with
  | .fault cause => throw cause
  | _ => throw .malformed

/-- Passes over a token that has to be there. -/
def expect (t : Token) : Rule Unit := do
  if (← peek) = t then skip else refuse

/-- A way to read a node; `inBlock` says whether it may be a block, and `unindented` whether it may be a block
sequence in the column of the mapping around it. -/
abbrev NodeRule := (inBlock unindented : Bool) → Rule Node

/-- A node, unless a token follows in front of which it may be left out. -/
def optional (enders : List Token) (node : Rule Node) : Rule Node := do
  if enders.contains (← peek) then return absent else node

/-- The items of a block sequence. One without indentation ends at the first token that is no dash. -/
def blockItems (node : NodeRule) (unindented : Bool) : Nat → Rule (List Node)
  | 0 => refuse
  | fuel + 1 => do
    match ← peek with
    | .dash => do
      skip
      let enders := if unindented then [.dash, .key, .value, .blockEnd] else [.dash, .blockEnd]
      let item ← optional enders (node true false)
      return item :: (← blockItems node unindented fuel)
    | .blockEnd => do
      if !unindented then skip
      return []
    | _ => if unindented then return [] else refuse

/-- The entries of a block mapping. -/
def blockEntries (node : NodeRule) : Nat → Rule (List (Node × Node))
  | 0 => refuse
  | fuel + 1 => do
    let part := optional [.key, .value, .blockEnd] (node true true)
    match ← peek with
    | .key => do
      skip
      let key ← part
      let value ← if (← peek) = .value then do skip; part else pure absent
      return (key, value) :: (← blockEntries node fuel)
    | .blockEnd => do
      skip
      return []
    | _ => refuse

/-- A key and a value in a flow collection that ends with a token, after the mark of the key. -/
def flowEntry (node : Rule Node) (closing : Token) : Rule (Node × Node) := do
  let key ← optional [.value, .comma, closing] node
  let value ← if (← peek) = .value then do skip; optional [.comma, closing] node else pure absent
  return (key, value)

/-- What stands between the marks of a flow collection that ends with a token, after the opening mark or an
item; a comma may follow the last item. -/
def flowItems {α : Type} (item : Rule α) (closing : Token) (isFirst : Bool) : Nat → Rule (List α)
  | 0 => refuse
  | fuel + 1 => do
    if (← peek) = closing then do
      skip
      return []
    if !isFirst then expect .comma
    if (← peek) = closing then do
      skip
      return []
    let first ← item
    return first :: (← flowItems item closing false fuel)

/-- An item of a flow sequence: a node, or a mapping of one entry without braces. -/
def flowItem (node : Rule Node) : Rule Node := do
  if (← peek) = .key then do
    skip
    return .mapping [← flowEntry node .flowSequenceEnd]
  else node

/-- An entry of a flow mapping; a node alone is a key without a value. -/
def flowPair (node : Rule Node) : Rule (Node × Node) := do
  if (← peek) = .key then do
    skip
    flowEntry node .flowMappingEnd
  else return (← node, absent)

/-- A node without its name, made of at most `bound` parts; `node` reads the nodes in it. -/
def content (bound : Nat) (node : NodeRule) : NodeRule := fun inBlock unindented => do
  match ← peek with
  | .scalar isPlain text => do
    skip
    return .scalar isPlain text
  | .flowSequenceStart => do
    skip
    return .sequence (← flowItems (flowItem (node false false)) .flowSequenceEnd true bound)
  | .flowMappingStart => do
    skip
    return .mapping (← flowItems (flowPair (node false false)) .flowMappingEnd true bound)
  | .dash => if unindented then return .sequence (← blockItems node true bound) else refuse
  | .sequenceStart => do
    if !inBlock then refuse
    skip
    return .sequence (← blockItems node false bound)
  | .mappingStart => do
    if !inBlock then refuse
    skip
    return .mapping (← blockEntries node bound)
  | _ => refuse

/-- Whether a token starts the content of a node. -/
def startsContent (inBlock unindented : Bool) : Token → Bool
  | .scalar .. => true
  | .flowSequenceStart => true
  | .flowMappingStart => true
  | .dash => unindented
  | .sequenceStart => inBlock
  | .mappingStart => inBlock
  | _ => false

/-- A node with a name, which no other node may have. -/
def named (name : String) (node : Rule Node) : Rule Node := do
  if ((← get).anchors.lookup name).isSome then throw .malformed
  let found ← node
  modify fun f => { f with anchors := (name, found) :: f.anchors }
  return found

/-- A node, nested at most `depth` deep and made of at most `bound` parts. -/
def node (bound : Nat) : Nat → NodeRule
  | 0, _, _ => refuse
  | depth + 1, inBlock, unindented => do
    let inner := content bound (node bound depth) inBlock unindented
    match ← peek with
    | .alias name => do
      skip
      match (← get).anchors.lookup name with
      | some found => return found
      | none => throw .malformed
    | .anchor name => do
      skip
      named name (do if startsContent inBlock unindented (← peek) then inner else return absent)
    | _ => inner

/-- Passes over marks that end a document. -/
def skipEnds : Nat → Rule Unit
  | 0 => pure ()
  | fuel + 1 => do
    if (← peek) = .documentEnd then
      skip
      skipEnds fuel

/-- The node of the only document of a text. -/
def document (bound : Nat) : Rule Node := do
  let root ← match ← peek with
    | .textEnd => pure absent
    | .documentStart => do
      skip
      optional [.documentStart, .documentEnd, .textEnd] (node bound bound true false)
    | _ => node bound bound true false
  skipEnds bound
  expect .textEnd
  return root

end Rule

/-- The node of a text. A text without content is an empty scalar. -/
def Node.ofText (s : String) : Except ReadFault Node :=
  let ts := tokens s
  (Rule.document (ts.length + 1)).run' ⟨ts, []⟩

end TokenSheet.Yaml
