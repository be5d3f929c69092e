import TokenSheet.Document.Yaml.Cursor
import TokenSheet.Text.Surrogate

/-!
The texts of YAML scalars: quoted, unquoted and in blocks.

Inside a scalar a single line end stands for a space and of several the first is dropped. A quoted scalar goes
on to its closing quote. An unquoted one ends at a colon in front of a gap, at a number sign behind a space, at
a tab, at a line that is not indented enough, and inside a flow collection also at its marks.

These are the scalar styles of version 1.1 of YAML with their rules for line folding, for escapes, and for the
indentation and the last line ends of block scalars. That a tab ends an unquoted scalar is a rule of the `yaml` library,
not of the specification.
-/

namespace TokenSheet.Yaml

open Text (hexValue? valueInBase)

/-- The text of a gap with line ends: what the first one stands for, and the further ones. -/
def folded (first : Char) (others : List Char) : List Char :=
  if breakText first != '\n' then breakText first :: others
  else if others.isEmpty then [' ']
  else others

/-! ## Quoted scalars -/

/-- The escapes of a double-quoted scalar that stand for one fixed character. -/
def fixedEscapes : List (Char × Nat) :=
  [('0', 0x00), ('a', 0x07), ('b', 0x08), ('t', 0x09), ('\t', 0x09), ('n', 0x0A), ('v', 0x0B),
   ('f', 0x0C), ('r', 0x0D), ('e', 0x1B), (' ', 0x20), ('\x22', 0x22), ('\x5c', 0x5C), ('/', 0x2F),
   ('N', 0x85), ('_', 0xA0), ('L', 0x2028), ('P', 0x2029)]

/-- The numbered escapes of a double-quoted scalar, with their count of digits. -/
def numberedEscapes : List (Char × Nat) :=
  [('x', 2), ('u', 4), ('U', 8)]

/-- The character of a number. Halves of surrogate pairs stay alone. -/
def characterOf (n : Nat) : Except ReadFault Char :=
  if Nat.pow 2 31 ≤ n then .error .largeCharacter
  else if 0x110000 ≤ n then .error .noCharacter
  else if Text.isHalf n then .ok (Text.ofHalf n)
  else .ok (Char.ofNat n)

/-- An escape, after the backslash: the character and the count of characters it takes. -/
def readEscape : List Char → Except ReadFault (Char × Nat)
  | [] => .error .malformed
  | c :: rest =>
    match fixedEscapes.lookup c with
    | some n => .ok (Char.ofNat n, 1)
    | none => do
      let count ← orMalformed (numberedEscapes.lookup c)
      let ds ← orMalformed ((rest.take count).mapM hexValue?)
      if ds.length = count then return (← characterOf (valueInBase 16 ds), count + 1)
      else throw .malformed

/-- The further line ends inside a quoted scalar, from the start of a line on. No mark between documents may
stand there. -/
def quotedBreaks : Nat → Cursor → Except ReadFault (List Char × Cursor)
  | 0, _ => .error .malformed
  | fuel + 1, p =>
    if p.atSeparator then .error .malformed
    else
      let q := p.dropWhile isBlank
      match q.rest with
      | c :: _ =>
        if isBreak c then do
          let (others, r) ← quotedBreaks fuel q.next
          return (breakText c :: others, r)
        else return ([], q)
      | [] => return ([], q)

/-- A gap inside a quoted scalar: the text it stands for, and the cursor behind it. -/
def quotedGap (fuel : Nat) (p : Cursor) : Except ReadFault (List Char × Cursor) :=
  let (blanks, q) := p.takeWhile isBlank
  match q.rest with
  | c :: _ =>
    if isBreak c then do
      let (others, r) ← quotedBreaks fuel q.next
      return (folded c others, r)
    else return (blanks, q)
  | [] => .error .malformed

/-- The rest of a quoted scalar, after the opening quote: in double quotes a backslash starts an escape, and in
single quotes two quotes stand for one. -/
def quoted (double : Bool) : Nat → Cursor → Except ReadFault (List Char × Cursor)
  | 0, _ => .error .malformed
  | fuel + 1, p =>
    match p.rest with
    | [] => .error .malformed
    | c :: rest =>
      if double && c == '\x22' then return ([], p.next)
      else if double && c == '\x5c' then
        if startsBreak rest then do
          let (breaks, q) ← quotedBreaks fuel (p.forward 2)
          let (tail, q) ← quoted double fuel q
          return (breaks ++ tail, q)
        else do
          let (ch, count) ← readEscape rest
          let (tail, q) ← quoted double fuel (p.forward (count + 1))
          return (ch :: tail, q)
      else if !double && c == '\x27' then
        if rest.head? == some '\x27' then do
          let (tail, q) ← quoted double fuel (p.forward 2)
          return ('\x27' :: tail, q)
        else return ([], p.next)
      else if isGap c then do
        let (gap, q) ← quotedGap fuel p
        let (tail, q) ← quoted double fuel q
        return (gap ++ tail, q)
      else do
        let (tail, q) ← quoted double fuel p.next
        return (c :: tail, q)

/-! ## Unquoted scalars -/

/-- Whether a colon here ends an unquoted scalar. -/
def endsAtColon (inFlow : Bool) : List Char → Bool
  | ':' :: rest => startsGap rest || (inFlow && rest.head?.any isFlowMark)
  | _ => false

/-- The characters of an unquoted scalar up to the next gap or to its end. -/
def plainWord (inFlow : Bool) : List Char → List Char
  | [] => []
  | c :: rest =>
    if isGap c || endsAtColon inFlow (c :: rest) || (inFlow && (isFlowMark c || c == '?')) then []
    else c :: plainWord inFlow rest

/-- The gap behind a word of an unquoted scalar. -/
structure PlainGap where
  /-- What the gap stands for; nothing if there is no gap, or a mark between documents behind it. -/
  text : List Char
  /-- Whether a line ends in it. -/
  crossed : Bool
  stop : Cursor

/-- The further line ends in a gap of an unquoted scalar; nothing if a mark between documents is met. -/
def plainBreaks : Nat → Cursor → Option (List Char) × Cursor
  | 0, p => (some [], p)
  | fuel + 1, p =>
    if p.atSeparator then (none, p)
    else
      let q := p.dropWhile (· == ' ')
      match q.rest with
      | c :: _ =>
        if isBreak c then
          let (others, r) := plainBreaks fuel q.next
          (others.map (breakText c :: ·), r)
        else (some [], q)
      | [] => (some [], q)

/-- The gap at a cursor. -/
def plainGap (fuel : Nat) (p : Cursor) : PlainGap :=
  let (spaces, q) := p.takeWhile (· == ' ')
  match q.rest with
  | c :: _ =>
    if isBreak c then
      let (others, r) := plainBreaks fuel q.next
      ⟨(others.map (folded c)).getD [], true, r⟩
    else ⟨spaces, false, q⟩
  | [] => ⟨spaces, false, q⟩

/-- An unquoted scalar. -/
structure PlainRead where
  text : List Char
  /-- Whether a line ends behind it. -/
  crossed : Bool
  stop : Cursor

/-- An unquoted scalar, with the lines that continue it: those in column `indent` or further in, or any line
inside a flow collection. -/
def plain (inFlow : Bool) (indent : Int) : Nat → Cursor → PlainRead
  | 0, p => ⟨[], false, p⟩
  | fuel + 1, p =>
    let word := plainWord inFlow p.rest
    if word.isEmpty then ⟨[], false, p⟩
    else
      let gap := plainGap fuel (p.forward word.length)
      let q := gap.stop
      let goesOn := !gap.text.isEmpty && q.rest.head? != some '#' && (inFlow || indent ≤ q.column)
      let more := if goesOn then plain inFlow indent fuel q else ⟨[], false, q⟩
      if more.text.isEmpty then ⟨word, gap.crossed, q⟩
      else { more with text := word ++ gap.text ++ more.text }

/-- Whether an unquoted scalar may start with these characters. -/
def startsPlain (inFlow : Bool) : List Char → Bool
  | [] => false
  | c :: rest =>
    if c == '-' then !startsGap rest
    else if c == '?' || c == ':' then !inFlow && !startsGap rest
    else !(isGap c || isFlowMark c ||
      ['#', '&', '*', '!', '|', '>', '\x27', '\x22', '%', '@', '\x60'].contains c)

/-! ## Block scalars -/

/-- What becomes of the line ends at the end of a block scalar: one stays, none or all. -/
inductive Chomping where
  | clip
  | strip
  | keep
deriving DecidableEq, Repr

/-- The header of a block scalar: its chomping, and its indentation if that is given. -/
structure BlockHeader where
  chomping : Chomping := .clip
  indentation : Option Nat := none

/-- The chomping that a character stands for. -/
def chompingOf? (c : Char) : Option Chomping :=
  if c == '+' then some .keep else if c == '-' then some .strip else none

/-- The indentation that a character stands for. -/
def indentationOf? (c : Char) : Option Nat :=
  if '1' ≤ c && c ≤ '9' then some (c.toNat - 48) else none

/-- The header of a block scalar, its two parts in any order, and the count of characters it takes. -/
def blockHeader : List Char → BlockHeader × Nat
  | [] => ({}, 0)
  | c :: rest =>
    match chompingOf? c, indentationOf? c with
    | some chomping, _ =>
      match rest.head?.bind indentationOf? with
      | some n => (⟨chomping, some n⟩, 2)
      | none => (⟨chomping, none⟩, 1)
    | none, some n =>
      match rest.head?.bind chompingOf? with
      | some chomping => (⟨chomping, some n⟩, 2)
      | none => (⟨.clip, some n⟩, 1)
    | none, none => ({}, 0)

/-- The cursor behind the rest of a header line, which may hold spaces and a comment only. -/
def headerEnd? (p : Cursor) : Option Cursor :=
  if !(p.rest.head?.all fun c => c == ' ' || isBreak c) then none
  else
    let q := p.dropWhile (· == ' ')
    let q := if q.rest.head? == some '#' then q.dropWhile fun c => !isBreak c else q
    if q.rest.isEmpty || startsBreak q.rest then some q.next else none

/-- The empty lines in front of a block scalar whose indentation is not given, and the greatest column among
them and the first filled line. -/
def leadingBreaks (column : Nat) : Nat → Cursor → List Char × Nat × Cursor
  | 0, p => ([], column, p)
  | fuel + 1, p =>
    let q := p.dropWhile (· == ' ')
    let column := max column q.column
    match q.rest with
    | c :: _ =>
      if isBreak c then
        let (others, found, r) := leadingBreaks column fuel q.next
        (breakText c :: others, found, r)
      else ([], column, q)
    | [] => ([], column, q)

/-- The cursor behind the spaces of an indentation. -/
def skipIndent : Nat → Cursor → Cursor
  | 0, p => p
  | n + 1, p => if p.rest.head? == some ' ' then skipIndent n p.next else p

/-- The empty lines between the lines of a block scalar. -/
def blockBreaks (indent : Nat) : Nat → Cursor → List Char × Cursor
  | 0, p => ([], p)
  | fuel + 1, p =>
    let q := skipIndent (indent - p.column) p
    match q.rest with
    | c :: _ =>
      if isBreak c then
        let (others, r) := blockBreaks indent fuel q.next
        (breakText c :: others, r)
      else ([], q)
    | [] => ([], q)

/-- The text of the line ends behind the last line of a block scalar. -/
def chomped (chomping : Chomping) (last : Option Char) (breaks : List Char) : List Char :=
  match chomping with
  | .strip => []
  | .clip => last.toList
  | .keep => last.toList ++ breaks

/-- The lines of a block scalar, `breaks` being the empty lines in front. In a folded one a line end between two
lines that do not start with a blank is a space, unless empty lines follow it. -/
def blockLines (isFolded : Bool) (chomping : Chomping) (indent : Nat) :
    Nat → List Char → Cursor → List Char × Cursor
  | 0, _, p => ([], p)
  | fuel + 1, breaks, p =>
    if p.column != indent || p.rest.isEmpty then (chomped chomping none breaks, p)
    else
      let (line, q) := p.takeWhile fun c => !isBreak c
      let last := q.rest.head?.map breakText
      let (following, r) := blockBreaks indent fuel q.next
      if r.column == indent && !r.rest.isEmpty then
        let isText := fun (s : List Char) => !(s.head?.any isBlank)
        let joint := if isFolded && last == some '\n' && isText p.rest && isText r.rest then
            (if following.isEmpty then [' '] else [])
          else last.toList
        let (tail, stop) := blockLines isFolded chomping indent fuel following r
        (breaks ++ line ++ joint ++ tail, stop)
      else (breaks ++ line ++ chomped chomping last following, r)

/-- A block scalar, after its mark, inside a block of indentation `outer`. -/
def block? (isFolded : Bool) (outer : Int) (fuel : Nat) (p : Cursor) : Option (List Char × Cursor) := do
  let (header, taken) := blockHeader p.rest
  let start ← headerEnd? (p.forward taken)
  let least := (max 1 (outer + 1)).toNat
  match header.indentation with
  | some n =>
    let indent := least + n - 1
    let (breaks, q) := blockBreaks indent fuel start
    return blockLines isFolded header.chomping indent fuel breaks q
  | none =>
    let (breaks, column, q) := leadingBreaks 0 fuel start
    return blockLines isFolded header.chomping (max least column) fuel breaks q

end TokenSheet.Yaml
