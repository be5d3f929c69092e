import TokenSheet.Document.Json
import TokenSheet.Text.Numeral

/-!
The texts of TOML: white space, comments, strings and keys.

A basic string has escapes and a literal string has none. Both may be written between three quotes each, and then
hold line ends; a line end right behind the opening quotes is dropped, and up to two further quotes belong to the
text if they stand in front of the closing ones.
-/

namespace TokenSheet.Toml

open Text (isDigit valueInBase hexValue? splitWhile)

/-! ## White space and comments -/

/-- White space inside a line. -/
def isGap (c : Char) : Bool :=
  c == ' ' || c == '\t'

/-- The text after the white space at its start. -/
def skipGap (s : List Char) : List Char :=
  s.dropWhile isGap

/-- Control characters, which only strings with escapes may stand for. -/
def isControl (c : Char) : Bool :=
  (c.toNat < 0x20 && c != '\t') || c == Char.ofNat 0x7F

/-- The text after a comment, up to and without the line end; nothing if the comment holds a control
character. Without a comment the text stays as it is. -/
def skipComment? (s : List Char) : Option (List Char) :=
  match s with
  | '#' :: rest =>
    let (body, after) := splitWhile (· != '\n') rest
    if body.any isControl then none else some after
  | _ => some s

/-- White space, comments and line ends between the items of an array. -/
def skipFiller? : Nat → List Char → Option (List Char)
  | 0, _ => none
  | fuel + 1, s => do
    let after ← skipComment? (skipGap s)
    match after with
    | '\n' :: rest => skipFiller? fuel rest
    | _ => return after

/-! ## Escapes -/

/-- The character with a number, if there is one. -/
def charOfCode? (n : Nat) : Option Char :=
  if (n < 0xD800 || 0xDFFF < n) && n < 0x110000 then some (Char.ofNat n) else none

/-- A numbered escape of `count` hexadecimal digits. -/
def hexEscape? (count : Nat) (s : List Char) : Option (Char × List Char) := do
  let ds ← (s.take count).mapM hexValue?
  if ds.length = count then
    return (← charOfCode? (valueInBase 16 ds), s.drop count)
  else
    none

/-- The character of an escape, after the backslash. -/
def escape? : List Char → Option (Char × List Char)
  | 'u' :: rest => hexEscape? 4 rest
  | 'U' :: rest => hexEscape? 8 rest
  | '/' :: _ => none
  | c :: rest => (Json.escapedChar? c).map fun ch => (ch, rest)
  | [] => none

/-- The text after an escaped line end, behind the backslash: white space up to the line end, and all white space
and line ends behind it. Nothing if no line ends here; the end of the text is a line end. -/
def escapedBreak? (s : List Char) : Option (List Char) :=
  match s with
  | c :: _ =>
    if c == '\n' || isGap c then
      match skipGap s with
      | '\n' :: rest => some (rest.dropWhile fun c => c == '\n' || isGap c)
      | [] => some []
      | _ => none
    else none
  | [] => none

/-! ## Strings -/

/-- The rest of a basic string after its opening quote. -/
def basicString? : Nat → List Char → Option (List Char × List Char)
  | 0, _ => none
  | _ + 1, [] => none
  | fuel + 1, c :: rest =>
    if c = '\x22' then some ([], rest)
    else if c = '\x5c' then do
      let (ch, after) ← escape? rest
      let (tail, after) ← basicString? fuel after
      return (ch :: tail, after)
    else if isControl c then none
    else do
      let (tail, after) ← basicString? fuel rest
      return (c :: tail, after)

/-- The rest of a literal string after its opening quote. -/
def literalString? (s : List Char) : Option (List Char × List Char) :=
  let (body, after) := splitWhile (· != '\x27') s
  match after with
  | _ :: rest => if body.any isControl then none else some (body, rest)
  | [] => none

/-- The closing quotes of a string of several lines: the quotes among them that belong to its text, two at most,
and what follows. -/
def closing? (quote : Char) (s : List Char) : Option (List Char × List Char) :=
  let count := ((s.take 5).takeWhile (· == quote)).length
  if 3 ≤ count then some (List.replicate (count - 3) quote, s.drop count) else none

/-- The rest of a string of several lines, after a line end behind the opening quotes. -/
def longString? (quote : Char) : Nat → List Char → Option (List Char × List Char)
  | 0, _ => none
  | _ + 1, [] => none
  | fuel + 1, c :: rest =>
    match closing? quote (c :: rest) with
    | some found => some found
    | none =>
      if c == '\x5c' && quote == '\x22' then
        match escapedBreak? rest with
        | some after => longString? quote fuel after
        | none => do
          let (ch, after) ← escape? rest
          let (tail, after) ← longString? quote fuel after
          return (ch :: tail, after)
      else if isControl c && c != '\n' then none
      else do
        let (tail, after) ← longString? quote fuel rest
        return (c :: tail, after)

/-- A string of one line, or of several lines if it has three quotes in front. -/
def string? (s : List Char) : Option (List Char × List Char) :=
  match s with
  | '\x22' :: '\x22' :: '\x22' :: '\n' :: rest => longString? '\x22' s.length rest
  | '\x22' :: '\x22' :: '\x22' :: rest => longString? '\x22' s.length rest
  | '\x27' :: '\x27' :: '\x27' :: '\n' :: rest => longString? '\x27' s.length rest
  | '\x27' :: '\x27' :: '\x27' :: rest => longString? '\x27' s.length rest
  | '\x22' :: rest => basicString? s.length rest
  | '\x27' :: rest => literalString? rest
  | _ => none

/-! ## Keys -/

/-- Characters of keys without quotes. -/
def isKeyChar (c : Char) : Bool :=
  ('a' ≤ c && c ≤ 'z') || ('A' ≤ c && c ≤ 'Z') || isDigit c || c == '-' || c == '_'

/-- One part of a key. -/
def keyPart? (s : List Char) : Option (String × List Char) :=
  match s with
  | '\x22' :: rest => (basicString? s.length rest).map fun (cs, after) => (String.ofList cs, after)
  | '\x27' :: rest => (literalString? rest).map fun (cs, after) => (String.ofList cs, after)
  | _ =>
    let (name, after) := splitWhile isKeyChar s
    if name.isEmpty then none else some (String.ofList name, after)

/-- A dotted key, and what follows it and white space. -/
def key? : Nat → List Char → Option (List String × List Char)
  | 0, _ => none
  | fuel + 1, s => do
    let (part, after) ← keyPart? s
    match skipGap after with
    | '.' :: rest => do
      let (others, after) ← key? fuel (skipGap rest)
      return (part :: others, after)
    | rest => return ([part], rest)

end TokenSheet.Toml
