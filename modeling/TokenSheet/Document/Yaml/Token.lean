import TokenSheet.Document.Yaml.ScalarText

/-!
The tokens of a YAML text.

Most tokens stand for characters of the text. The start and the end of a block follow from the columns, and a key
is known as one only when the colon behind it is met: until then `Scan.keys` holds the places where a key may have
started, one for each depth of flow collections. A key has to stand on one line, and its colon at most
`maxKeyLength` characters behind its start. If the text has a fault, the last token says which.

The marks and the bound on keys are those of version 1.1 of YAML. The order of the tokens, and where a key is allowed,
follow the scanner of the `yaml` library, which starts no token at a tab.
-/

namespace TokenSheet.Yaml

/-- A token. -/
inductive Token where
  | documentStart
  | documentEnd
  | sequenceStart
  | mappingStart
  | blockEnd
  | flowSequenceStart
  | flowSequenceEnd
  | flowMappingStart
  | flowMappingEnd
  | dash
  | comma
  | key
  | value
  | alias (name : String)
  | anchor (name : String)
  | scalar (isPlain : Bool) (text : List Char)
  | textEnd
  | fault (cause : ReadFault)
deriving DecidableEq, Repr

/-- A place where a key may have started. -/
structure KeyPlace where
  /-- The count of tokens in front of it. -/
  index : Nat
  /-- Whether the block cannot go on without a key here. -/
  required : Bool
  offset : Nat
  line : Nat
  column : Nat

/-- The greatest distance between the start of a key and its colon. -/
def maxKeyLength : Nat := 1024

/-- The state of a scan. -/
structure Scan where
  cursor : Cursor
  /-- A bound on the length of what is left. -/
  bound : Nat
  /-- How deep the cursor is in flow collections. -/
  flowDepth : Nat := 0
  /-- The column of the innermost block. -/
  indent : Int := -1
  /-- The columns of the blocks around it. -/
  outer : List Int := []
  /-- Whether a key may start at the next token. -/
  keyAllowed : Bool := true
  /-- The places where a key may have started, by the depth in flow collections. -/
  keys : List (Nat × KeyPlace) := []
  /-- The tokens so far, the latest first. -/
  tokens : List Token := []
  /-- The count of tokens so far. -/
  count : Nat := 0

namespace Scan

/-- A step of a scan. -/
abbrev Step := Scan → Except ReadFault Scan

/-- Whether the cursor is inside a flow collection. -/
def inFlow (s : Scan) : Bool := s.flowDepth != 0

/-- Puts a token behind a count of tokens. -/
def insert (index : Nat) (t : Token) (s : Scan) : Scan :=
  { s with tokens := s.tokens.insertIdx (s.count - index) t, count := s.count + 1 }

/-- Adds a token. -/
def push (t : Token) (s : Scan) : Scan :=
  s.insert s.count t

/-- Adds a token and passes over its characters. -/
def take (t : Token) (count : Nat) (s : Scan) : Scan :=
  { s.push t with cursor := s.cursor.forward count }

/-! ## Keys -/

/-- Forgets the place at the present depth; a required key has to be found before that. -/
def dropKey : Step := fun s =>
  match s.keys.lookup s.flowDepth with
  | some k =>
    if k.required then .error .malformed
    else .ok { s with keys := s.keys.filter fun e => e.1 != s.flowDepth }
  | none => .ok s

/-- Remembers the cursor as a place where a key may start, if one may. -/
def saveKey : Step := fun s =>
  if s.keyAllowed then do
    let s ← s.dropKey
    let p := s.cursor
    let required := !s.inFlow && s.indent == p.column
    return { s with keys := (s.flowDepth, ⟨s.count, required, p.offset, p.line, p.column⟩) :: s.keys }
  else .ok s

/-- Whether a key can still end at the cursor. -/
def isFresh (s : Scan) (k : KeyPlace) : Bool :=
  k.line == s.cursor.line && s.cursor.offset - k.offset ≤ maxKeyLength

/-- Forgets the places that are too far behind. -/
def dropStale : Step := fun s =>
  if s.keys.any fun e => e.2.required && !s.isFresh e.2 then .error .malformed
  else .ok { s with keys := s.keys.filter fun e => s.isFresh e.2 }

/-! ## Blocks -/

/-- Closes the blocks that are further in than a column. -/
def unwindFrom (column : Int) (s : Scan) : List Int → Scan
  | [] => { s with outer := [] }
  | around :: outer =>
    if column < s.indent then
      unwindFrom column { s.push .blockEnd with indent := around } outer
    else { s with outer := around :: outer }

/-- Closes the blocks that are further in than a column; columns mean nothing in flow collections. -/
def unwind (column : Int) (s : Scan) : Scan :=
  if s.inFlow then s else unwindFrom column s s.outer

/-- Opens a block in a column unless one is open there; its token goes behind a count of tokens. -/
def openBlock (t : Token) (column : Nat) (index : Nat) (s : Scan) : Scan :=
  if s.indent < column then
    { s.insert index t with indent := column, outer := s.indent :: s.outer }
  else s

/-- Opens a block at the cursor, where an entry may have to start with a key. -/
def startEntry (t : Token) : Step := fun s =>
  if s.inFlow then .ok s
  else if s.keyAllowed then .ok (s.openBlock t s.cursor.column s.count)
  else .error .malformed

/-! ## Tokens -/

/-- The end of all blocks, in front of a mark between documents or at the end of the text. -/
def closeAll : Step := fun s => do
  let s ← (s.unwind (-1)).dropKey
  return { s with keyAllowed := false }

/-- A mark between documents. -/
def documentMark (t : Token) : Step := fun s => do
  return (← s.closeAll).take t 3

/-- The start of a flow collection. -/
def flowStart (t : Token) : Step := fun s => do
  let s ← s.saveKey
  return ({ s with flowDepth := s.flowDepth + 1, keyAllowed := true }).take t 1

/-- The end of a flow collection. -/
def flowEnd (t : Token) : Step := fun s => do
  let s ← s.dropKey
  return ({ s with flowDepth := s.flowDepth - 1, keyAllowed := false }).take t 1

/-- A comma between the items of a flow collection. -/
def comma : Step := fun s => do
  let s ← { s with keyAllowed := true }.dropKey
  return s.take .comma 1

/-- A dash in front of an item. -/
def dash : Step := fun s => do
  let s ← s.startEntry .sequenceStart
  let s ← { s with keyAllowed := true }.dropKey
  return s.take .dash 1

/-- A question mark in front of a key. -/
def question : Step := fun s => do
  let s ← s.startEntry .mappingStart
  let s ← { s with keyAllowed := !s.inFlow }.dropKey
  return s.take .key 1

/-- A colon behind a key whose start was remembered. -/
def colonOfKey (k : KeyPlace) (s : Scan) : Scan :=
  let s : Scan := { s.insert k.index .key with
    keys := s.keys.filter fun e => e.1 != s.flowDepth
    keyAllowed := false }
  if s.inFlow then s else s.openBlock .mappingStart k.column k.index

/-- A colon in front of a value. -/
def colon : Step := fun s => do
  match s.keys.lookup s.flowDepth with
  | some k => return (s.colonOfKey k).take .value 1
  | none =>
    let s ← s.startEntry .mappingStart
    let s ← { s with keyAllowed := !s.inFlow }.dropKey
    return s.take .value 1

/-- Characters of the names of anchors. -/
def isNameChar (c : Char) : Bool :=
  Text.isDigit c || ('A' ≤ c && c ≤ 'Z') || ('a' ≤ c && c ≤ 'z') || c == '-' || c == '_'

/-- Whether the name of an anchor may end in front of these characters. -/
def endsName (rest : List Char) : Bool :=
  startsGap rest || rest.head?.any ['?', ':', ',', ']', '\x7d', '%', '@', '\x60'].contains

/-- An anchor or an alias, by the token of its name. -/
def named (t : String → Token) : Step := fun s => do
  let s ← s.saveKey
  let (name, after) := Text.splitWhile isNameChar (s.cursor.rest.drop 1)
  if name.isEmpty || !endsName after then throw .malformed
  return ({ s with keyAllowed := false }).take (t (String.ofList name)) (name.length + 1)

/-- A quoted scalar. -/
def quotedScalar (double : Bool) : Step := fun s => do
  let s ← s.saveKey
  let p := s.cursor.next
  let (text, q) ← quoted double (s.bound + 1) p
  return { s.push (.scalar false text) with cursor := q, keyAllowed := false }

/-- An unquoted scalar. A key may start behind it if a line ends there. -/
def plainScalar : Step := fun s => do
  let s ← s.saveKey
  let found := plain s.inFlow (s.indent + 1) (s.bound + 1) s.cursor
  return { s.push (.scalar true found.text) with cursor := found.stop, keyAllowed := found.crossed }

/-- A block scalar. -/
def blockScalar (isFolded : Bool) : Step := fun s => do
  let s ← { s with keyAllowed := true }.dropKey
  let p := s.cursor.next
  let (text, q) ← orMalformed (block? isFolded s.indent (s.bound + 1) p)
  return { s.push (.scalar false text) with cursor := q }

/-- The next token. -/
def next : Step := fun s =>
  match s.cursor.rest with
  | [] => do return (← s.closeAll).push .textEnd
  | c :: rest =>
    let gapFollows := s.inFlow || startsGap rest
    if s.cursor.column == 0 && s.cursor.atMark '-' then s.documentMark .documentStart
    else if s.cursor.column == 0 && s.cursor.atMark '.' then s.documentMark .documentEnd
    else if c == '[' then s.flowStart .flowSequenceStart
    else if c == '\x7b' then s.flowStart .flowMappingStart
    else if c == ']' then s.flowEnd .flowSequenceEnd
    else if c == '\x7d' then s.flowEnd .flowMappingEnd
    else if c == ',' then s.comma
    else if c == '-' && startsGap rest then s.dash
    else if c == '?' && gapFollows then s.question
    else if c == ':' && gapFollows then s.colon
    else if c == '*' then s.named .alias
    else if c == '&' then s.named .anchor
    else if c == '|' && !s.inFlow then s.blockScalar false
    else if c == '>' && !s.inFlow then s.blockScalar true
    else if c == '\x27' then s.quotedScalar false
    else if c == '\x22' then s.quotedScalar true
    else if startsPlain s.inFlow s.cursor.rest then s.plainScalar
    else .error .malformed

/-! ## Texts -/

/-- Passes over spaces, comments and line ends. -/
def skipFrom : Nat → Cursor → Cursor
  | 0, p => p
  | fuel + 1, p =>
    let q := p.dropWhile (· == ' ')
    let q := if q.rest.head? == some '#' then q.dropWhile fun c => !isBreak c else q
    if startsBreak q.rest then skipFrom fuel q.next else q

/-- Goes to the next token. Outside flow collections a key may start on a new line. -/
def skip (s : Scan) : Scan :=
  let q := skipFrom (s.bound + 1) s.cursor
  { s with cursor := q, keyAllowed := s.keyAllowed || (!s.inFlow && q.line != s.cursor.line) }

/-- Goes to the next token, closes the blocks that end in front of it and adds it. -/
def advance : Step := fun s => do
  let s ← s.skip.dropStale
  (s.unwind s.cursor.column).next

/-- The tokens from a state on, at most `fuel` steps of them. -/
def run : Nat → Scan → List Token
  | 0, s => s.tokens.reverse
  | fuel + 1, s =>
    match s.advance with
    | .error cause => (s.push (.fault cause)).tokens.reverse
    | .ok next => if next.tokens.head? == some .textEnd then next.tokens.reverse else run fuel next

end Scan

/-- Characters that may occur in a text at all. -/
def isAllowed (c : Char) : Bool :=
  let n := c.toNat
  n == 0x09 || n == 0x0A || n == 0x0D || (0x20 ≤ n && n ≤ 0x7E) || n == 0x85 ||
    (0xA0 ≤ n && n ≤ 0xFFFD) || 0x10000 ≤ n

/-- The text without a byte order mark in front. -/
def dropMark : List Char → List Char
  | c :: rest => if c == byteOrderMark then rest else c :: rest
  | [] => []

/-- The tokens of a text. -/
def tokens (s : String) : List Token :=
  let chars := s.toList
  if chars.all isAllowed then
    Scan.run (chars.length + 2) { cursor := ⟨0, 0, 0, dropMark chars⟩, bound := chars.length }
  else [.fault .malformed]

end TokenSheet.Yaml
