import TokenSheet.Document.Reading

/-!
Positions in a YAML text, and the classes of characters that end a token.

A cursor knows the line and the column of the next character, because columns carry the nesting of blocks, and
how many characters lie behind it, because a key may not be longer than a bound. Line ends are expected to be
unified. As in version 1.1 of YAML, next line and the two separators of the general punctuation end a line too.
-/

namespace TokenSheet.Yaml

/-- What is left of the text, and where it starts. -/
structure Cursor where
  line : Nat
  column : Nat
  /-- The count of characters in front. -/
  offset : Nat
  rest : List Char

/-- Characters that end a line. -/
def isBreak (c : Char) : Bool :=
  c == '\n' || c == '\r' || c.toNat == 0x85 || c.toNat == 0x2028 || c.toNat == 0x2029

/-- The character that a line end stands for in a text: the two separators stand for themselves. -/
def breakText (c : Char) : Char :=
  if c.toNat == 0x2028 || c.toNat == 0x2029 then c else '\n'

/-- Spaces and tabs. -/
def isBlank (c : Char) : Bool :=
  c == ' ' || c == '\t'

/-- Spaces, tabs and line ends. -/
def isGap (c : Char) : Bool :=
  isBlank c || isBreak c

/-- Whether a text starts with a gap or is at its end. -/
def startsGap : List Char → Bool
  | [] => true
  | c :: _ => isGap c

/-- Whether a text starts with a line end. -/
def startsBreak (s : List Char) : Bool :=
  s.head?.any isBreak

/-- The brackets, braces and commas of flow collections. -/
def isFlowMark (c : Char) : Bool :=
  c == ',' || c == '[' || c == ']' || c == '\x7b' || c == '\x7d'

/-- The byte order mark, which takes no column. -/
def byteOrderMark : Char := Char.ofNat 0xFEFF

namespace Cursor

/-- The cursor behind the next character. -/
def next (p : Cursor) : Cursor :=
  match p.rest with
  | [] => p
  | c :: rest =>
    if isBreak c then ⟨p.line + 1, 0, p.offset + 1, rest⟩
    else if c == byteOrderMark then { p with offset := p.offset + 1, rest }
    else { p with column := p.column + 1, offset := p.offset + 1, rest }

/-- The cursor behind a count of characters. -/
def forward (p : Cursor) : Nat → Cursor
  | 0 => p
  | n + 1 => p.next.forward n

/-- The characters at the cursor that satisfy a condition, and the cursor behind them. -/
def takeWhile (f : Char → Bool) (p : Cursor) : List Char × Cursor :=
  let found := p.rest.takeWhile f
  (found, p.forward found.length)

/-- The cursor behind the characters that satisfy a condition. -/
def dropWhile (f : Char → Bool) (p : Cursor) : Cursor :=
  (p.takeWhile f).2

/-- Whether the next characters are three of one kind that stand alone: the mark of a document. -/
def atMark (c : Char) (p : Cursor) : Bool :=
  [c, c, c].isPrefixOf p.rest && startsGap (p.rest.drop 3)

/-- Whether the start of a line is a mark between documents. -/
def atSeparator (p : Cursor) : Bool :=
  p.atMark '-' || p.atMark '.'

end Cursor

end TokenSheet.Yaml
