import TokenSheet.Text.Blank
import TokenSheet.Text.Numeral

/-!
The parameters of handler tags.

A handler tag such as `[@open=page(1, 'x')]` names what is to be called and gives its arguments in parentheses. The
arguments have to be literals: numbers, quoted texts, a few words, and collections of these.

The markup of the `rich` library has such tags, and its documentation shows them with literals only. What counts as a
literal follows the library, which reads the parameters when the tag is closed.
-/

namespace TokenSheet.Console

open Text (isDigit)

/-- The text after the blanks at its start. -/
def skipBlanks (s : List Char) : List Char :=
  s.dropWhile fun c => c == ' ' || c == '\t' || c == '\n' || c == '\x0c'

/-- A literal at the start of a text: whether it can be a member of a set, and what follows it. -/
abbrev LiteralReader := List Char → Option (Bool × List Char)

/-- Characters that may follow the first one of a word. -/
def isWordChar (c : Char) : Bool :=
  c.isAlphanum || c == '_' || 0x80 ≤ c.toNat

/-! ## Quoted texts -/

/-- How a quoted text is written: without escapes, as bytes, and with three quotes on each side. -/
structure Quotation where
  quote : Char
  isRaw : Bool
  isBytes : Bool
  isLong : Bool

/-- The letters that may stand in front of a quote: what they say about escapes and about bytes. -/
def quotePrefixes : List (String × Bool × Bool) :=
  [("", false, false), ("u", false, false), ("r", true, false), ("b", false, true), ("br", true, true),
   ("rb", true, true)]

/-- The opening of a quoted text, and the text behind it. -/
def opening? (s : List Char) : Option (Quotation × List Char) := do
  let (letters, body) := Text.splitWhile Char.isAlpha s
  let (_, isRaw, isBytes) ← quotePrefixes.find? fun p => p.1 == String.ofList (letters.map Char.toLower)
  let quote ← body.head?
  if quote != '\x27' && quote != '\x22' then none
  let isLong := [quote, quote, quote].isPrefixOf body
  return (⟨quote, isRaw, isBytes, isLong⟩, body.drop (if isLong then 3 else 1))

/-- Whether `count` hexadecimal digits stand at the start of a text, with a value that is not too large. -/
def startsHex (count : Nat) (s : List Char) : Bool :=
  let values := (s.take count).filterMap Text.hexValue?
  values.length == count && Text.valueInBase 16 values < 0x110000

/-- Whether a character may follow a backslash in front of the rest of a text. -/
def isEscape (q : Quotation) (c : Char) (rest : List Char) : Bool :=
  if q.isRaw then true
  else if c == 'x' then startsHex 2 rest
  else if q.isBytes then true
  else if c == 'u' then startsHex 4 rest
  else if c == 'U' then startsHex 8 rest
  else c != 'N'

/-- The text behind the closing quotes. -/
def quotedEnd? (q : Quotation) : List Char → Option (List Char)
  | [] => none
  | [c] => if c == q.quote && !q.isLong then some [] else none
  | c :: d :: rest =>
    if q.isBytes && 0x80 ≤ c.toNat then none
    else if c == '\x5c' then
      if isEscape q d rest && !(q.isBytes && 0x80 ≤ d.toNat) then quotedEnd? q rest else none
    else if c == q.quote && !q.isLong then some (d :: rest)
    else if c == q.quote && d == q.quote && rest.head? == some q.quote then some rest.tail
    else if c == '\n' && !q.isLong then none
    else quotedEnd? q (d :: rest)

/-- The text behind quoted texts that stand side by side, which are all bytes or none of them; `isBytes` says what the
ones in front are. -/
def textsEnd? (isBytes : Option Bool) : Nat → List Char → Option (List Char)
  | 0, _ => none
  | fuel + 1, s =>
    match opening? s with
    | none => isBytes.map fun _ => s
    | some (q, body) =>
      if isBytes.any (· != q.isBytes) then none
      else do
        let after ← quotedEnd? q body
        if (opening? (skipBlanks after)).isSome then textsEnd? (some q.isBytes) fuel (skipBlanks after)
        else return after

/-! ## Numbers -/

/-- Digits with single underscores between them; there has to be one. -/
def digitsEnd? (isAllowed : Char → Bool) (s : List Char) : Option (List Char) :=
  let (ds, after) := Text.splitWhile (fun c => isAllowed c || c == '_') s
  let atEnd := ds.head? == some '_' || ds.getLast? == some '_'
  if ds.isEmpty || atEnd || Text.occurs ['_', '_'] ds then none else some after

/-- The text behind an exponent, if one is there. -/
def exponentEnd? (s : List Char) : Option (List Char) :=
  match s with
  | c :: rest =>
    if c == 'e' || c == 'E' then digitsEnd? isDigit (Text.splitSign rest).2 else some s
  | [] => some s

/-- The text behind a number in a base that its second letter gives. -/
def basedEnd? (letter : Char) (s : List Char) : Option (List Char) :=
  match letter.toLower with
  | 'x' => digitsEnd? (fun c => (Text.hexValue? c).isSome) s
  | 'o' => digitsEnd? (fun c => '0' ≤ c && c ≤ '7') s
  | 'b' => digitsEnd? (fun c => c == '0' || c == '1') s
  | _ => none

/-- The text behind a decimal number, which may be imaginary. Zeros in front are superfluous unless the number has a
fraction, an exponent or no other digit, or is imaginary. -/
def decimalOrImaginaryEnd? (s : List Char) : Option (Bool × List Char) := do
  let (whole, afterWhole) := Text.splitWhile (fun c => isDigit c || c == '_') s
  let afterPlaces ← match afterWhole with
    | '.' :: rest => if rest.head?.any isDigit then digitsEnd? isDigit rest else
        (if whole.isEmpty then none else some rest)
    | _ => some afterWhole
  let after ← exponentEnd? afterPlaces
  let isWhole := after.length == afterWhole.length
  let hasZeros := whole.head? == some '0' && !whole.all fun c => c == '0' || c == '_'
  let (imaginary, after) := match after with
    | c :: rest => if c == 'j' || c == 'J' then (true, rest) else (false, after)
    | [] => (false, [])
  if whole.isEmpty then
    (if afterPlaces.length == afterWhole.length then none else some (imaginary, after))
  else do
    let _ ← digitsEnd? isDigit whole
    if isWhole && hasZeros && !imaginary then none else some (imaginary, after)

/-- The text behind a number without a sign; whether it is imaginary. -/
def numberEnd? (s : List Char) : Option (Bool × List Char) := do
  let (imaginary, after) ← match s with
    | '0' :: c :: rest => match basedEnd? c rest with
      | some after => some (false, after)
      | none => decimalOrImaginaryEnd? s
    | _ => decimalOrImaginaryEnd? s
  if after.head?.any isWordChar then none else some (imaginary, after)

/-- The text behind a number with a sign or without, or behind the sum of a real and an imaginary number. -/
def sumEnd? (s : List Char) : Option (List Char) := do
  let (_, body) := Text.splitSign s
  let (imaginary, after) ← numberEnd? (skipBlanks body)
  match skipBlanks after with
  | sign :: rest =>
    if sign == '+' || sign == '-' then
      let (second, beyond) ← numberEnd? (skipBlanks rest)
      if second && !imaginary then return beyond else none
    else return after
  | [] => return after

/-! ## Words and collections -/

/-- The words that are literals. -/
def literalWords : List String := ["True", "False", "None", "..."]

/-- The text behind a word that is a literal. -/
def wordEnd? (s : List Char) : Option (List Char) :=
  literalWords.findSome? fun word =>
    let after := s.drop word.length
    if word.toList.isPrefixOf s && !after.head?.any isWordChar then some after else none

/-- The text behind the empty set. -/
def emptySetEnd? (s : List Char) : Option (List Char) :=
  match s with
  | 's' :: 'e' :: 't' :: rest => match skipBlanks rest with
    | '(' :: inner => match skipBlanks inner with
      | ')' :: after => some after
      | _ => none
    | _ => none
  | _ => none

/-- The items between parentheses, after the opening one or a comma: whether all of them can be members of a set,
and the text behind the closing one. -/
def tupleItems? (item : LiteralReader) : Nat → List Char → Option (Bool × List Char)
  | 0, _ => none
  | fuel + 1, s =>
    match skipBlanks s with
    | ')' :: rest => some (true, rest)
    | body => do
      let (simple, after) ← item body
      match skipBlanks after with
      | ',' :: rest => do
        let (others, after) ← tupleItems? item fuel rest
        return (simple && others, after)
      | ')' :: rest => return (simple, rest)
      | _ => none

/-- The members of a set or the entries of a dictionary, after the opening brace or a comma: the text behind the
closing one. All of them have values, or none of them. -/
def memberEnd? (item : LiteralReader) (valued : Option Bool) : Nat → List Char → Option (List Char)
  | 0, _ => none
  | fuel + 1, s =>
    match skipBlanks s with
    | '\x7d' :: rest => some rest
    | body => do
      let (simple, after) ← item body
      if !simple then none
      let (hasValue, after) ← match skipBlanks after with
        | ':' :: rest => do
          let (_, after) ← item (skipBlanks rest)
          some (true, after)
        | rest => some (false, rest)
      if valued.any (· != hasValue) then none
      match skipBlanks after with
      | ',' :: rest => memberEnd? item (some hasValue) fuel rest
      | '\x7d' :: rest => return rest
      | _ => none

/-- A literal, nested at most `depth` deep and made of at most `bound` parts. -/
def literal? (bound : Nat) : Nat → LiteralReader
  | 0, _ => none
  | depth + 1, s =>
    match s with
    | '(' :: rest =>
      if (skipBlanks rest).head? == some ',' then none
      else tupleItems? (literal? bound depth) bound rest
    | '\x7b' :: rest => (memberEnd? (literal? bound depth) none bound rest).map (false, ·)
    | _ =>
      let simple := ((textsEnd? none bound s).or (sumEnd? s)).or (wordEnd? s)
      (simple.map (true, ·)).or ((emptySetEnd? s).map (false, ·))

/-- Whether a text is a literal, or several between commas. -/
def isLiteral (s : List Char) : Bool :=
  let bound := s.length + 2
  match tupleItems? (literal? bound bound) bound (s ++ [')']) with
  | some (_, after) => after.isEmpty && !s.isEmpty
  | none => false

/-- Characters of the name of a handler. -/
def isHandlerChar (c : Char) : Bool :=
  c.isAlphanum || c == '_' || c == '.' || (0x80 ≤ c.toNat && !Text.isBlank c)

/-- Whether the parameters of a handler can be read: a name, a name with literals in parentheses, or a literal. -/
def readsAsHandler (parameters : List Char) : Bool :=
  let s := Text.trimBlanks parameters
  let arguments := s.dropWhile isHandlerChar
  let isCall := arguments.head? == some '(' && arguments.getLast? == some ')' && !arguments.contains '\n'
  s.isEmpty || arguments.isEmpty || isLiteral (if isCall then arguments else s)

end TokenSheet.Console
