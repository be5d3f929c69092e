import TokenSheet.Console.Cells
import TokenSheet.Console.Emoji
import TokenSheet.Console.Handler
import TokenSheet.Console.StyleName

/-!
Console markup: tags in brackets that style the text between them.

A tag starts with a small letter or one of the signs `#`, `/`, `@` and has no bracket inside. `plain` gives the
text without its tags, with its emoji codes replaced and its tabs expanded; there is none if a closing tag closes
nothing. A backslash in front of a tag makes it ordinary text, and `escape` puts one there.

The modules of this folder describe what the `rich` library documents for its console: markup with tags, closing tags,
handlers and escapes (here and in `readsAsHandler`), emoji codes (`replaceCodes`), the definition of styles, by which a
closing tag finds the tag that it closes (`normalName`), and the widths of characters (`cellsOf`), which tabs depend
on. Where the documentation is silent, as about backslashes in front of a tag, the modules do what the library does.
Styles have no effect on a text here, and lines are not wrapped.
-/

namespace TokenSheet.Console

/-- Whether a tag may start with a character. -/
def startsTag (c : Char) : Bool :=
  ('a' ≤ c && c ≤ 'z') || c == '#' || c == '/' || c == '@'

/-- A tag at the start of a text: what stands between the brackets, and the rest. -/
def tag? : List Char → Option (List Char × List Char)
  | '[' :: c :: rest =>
    if startsTag c then
      let body := rest.takeWhile fun d => d != ']' && d != '['
      match rest.drop body.length with
      | ']' :: after => some (c :: body, after)
      | _ => none
    else none
  | _ => none

/-- A piece of marked-up text. -/
inductive Piece where
  | plain (text : List Char)
  | tag (body : List Char)

/-- A piece of plain text in front of others, if it has any characters; they are given from the last to the first. -/
def plainBefore (reversed : List Char) (others : List Piece) : List Piece :=
  if reversed.isEmpty then others else .plain reversed.reverse :: others

/-- The pieces of a text, reading at most `fuel` parts of it; `before` holds the plain characters in front, the last
one first. Of the backslashes in front of a tag, each pair stands for one, and an odd one makes the tag ordinary
text. -/
def pieces : Nat → List Char → List Char → List Piece
  | 0, before, _ => plainBefore before []
  | _, before, [] => plainBefore before []
  | fuel + 1, before, c :: rest =>
    let slashes := (c :: rest).takeWhile (· == '\x5c')
    let after := (c :: rest).drop slashes.length
    match tag? after with
    | some (body, beyond) =>
      let others := pieces fuel [] beyond
      let half := List.replicate (slashes.length / 2) '\x5c'
      let found : Piece :=
        if slashes.length % 2 = 0 then .tag body else .plain ('[' :: body ++ [']'])
      plainBefore before (plainBefore half (found :: others))
    | none =>
      if slashes.isEmpty then pieces fuel (c :: before) rest
      else pieces fuel (slashes ++ before) after

/-- A plain text without the backslashes that guard an opening bracket. -/
def unguarded : List Char → List Char
  | '\x5c' :: '[' :: rest => '[' :: unguarded rest
  | c :: rest => c :: unguarded rest
  | [] => []

/-- Why marked-up text cannot be shown. -/
inductive MarkupFault where
  /-- A closing tag closes nothing. -/
  | unopened
  /-- The parameters of a handler cannot be read. -/
  | handler
  | color (fault : ColorFault)
deriving DecidableEq, Repr

/-- A tag that is open: its name in normal form, and its parameters. -/
structure OpenTag where
  name : String
  parameters : List Char

/-- The name of a tag and its parameters, which stand behind an equals sign. -/
def splitTag (body : List Char) : List Char × List Char :=
  let (name, parameters) := Text.splitWhile (· != '=') body
  (name, parameters.drop 1)

/-- The name of a tag in the form in which names are compared. -/
def tagName (name : List Char) : Except MarkupFault String :=
  (normalName (String.ofList name)).mapError .color

/-- Takes the latest open tag with a name away, or the latest of all for the empty name. -/
def close? (name : String) : List OpenTag → Option (OpenTag × List OpenTag)
  | [] => none
  | t :: rest =>
    if name.isEmpty || t.name == name then some (t, rest)
    else (close? name rest).map fun found => (found.1, t :: found.2)

/-- Whether the parameters of a tag that is closed can be read. -/
def OpenTag.isReadable (t : OpenTag) : Bool :=
  t.name.toList.head? != some '@' || t.parameters.isEmpty || readsAsHandler t.parameters

/-- The open tags after a closing one. -/
def close (name : List Char) (opened : List OpenTag) : Except MarkupFault (List OpenTag) := do
  let name ← if (Text.trimBlanks name).isEmpty then pure "" else tagName (Text.trimBlanks name)
  match close? name opened with
  | none => throw .unopened
  | some (t, rest) => if t.isReadable then return rest else throw .handler

/-- The text of pieces without their tags; `opened` holds the tags that are open, the latest first. -/
def textOf (opened : List OpenTag) : List Piece → Except MarkupFault (List Char)
  | [] => .ok []
  | .plain s :: rest => do return replaceCodes (unguarded s) ++ (← textOf opened rest)
  | .tag body :: rest => do
    let (name, parameters) := splitTag body
    match name with
    | '/' :: closed => do textOf (← close closed opened) rest
    | _ => do textOf (⟨← tagName name, parameters⟩ :: opened) rest

/-- Whether a character is a control code that a console leaves out: the bell, the backspace, the vertical tab,
the form feed and the carriage return. -/
def isLeftOut (c : Char) : Bool :=
  [7, 8, 11, 12, 13].contains c.toNat

/-- The text as a console shows it, without its tags. -/
def plain (s : String) : Except MarkupFault String := do
  let chars ← textOf [] (pieces s.toList.length [] s.toList)
  return String.ofList (expandTabs (chars.filter fun c => !isLeftOut c))

/-- The text with a backslash in front of each tag, and with the backslashes there doubled. -/
def escapeFrom : Nat → List Char → List Char
  | 0, _ => []
  | _, [] => []
  | fuel + 1, c :: rest =>
    let slashes := (c :: rest).takeWhile (· == '\x5c')
    let after := (c :: rest).drop slashes.length
    match tag? after with
    | some (body, beyond) =>
      slashes ++ slashes ++ '\x5c' :: '[' :: body ++ ']' :: escapeFrom fuel beyond
    | none =>
      if slashes.isEmpty then c :: escapeFrom fuel rest
      else slashes ++ escapeFrom fuel after

/-- A text with a single backslash at its end doubled. -/
def doubleLast (s : List Char) : List Char :=
  if s.getLast? == some '\x5c' && s.dropLast.getLast? != some '\x5c' then s ++ ['\x5c'] else s

/-- The text as it has to be marked up in order to be shown as it is. A single backslash at its end is doubled, so that
it does not guard a tag behind it. -/
def escape (s : String) : String :=
  String.ofList (doubleLast (escapeFrom s.toList.length s.toList))

/-- The form of a line in which a marked-up lead stands in front of a text that is shown as it is. -/
def labelled (lead body : String) : String :=
  (plain (lead ++ escape body)).toOption.getD (lead ++ body)

end TokenSheet.Console
