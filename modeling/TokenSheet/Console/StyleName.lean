import TokenSheet.Console.ColorTable
import TokenSheet.Text.Blank
import TokenSheet.Text.Case
import TokenSheet.Text.Numeral

/-!
Names of styles in the form in which they are compared.

A style is described by words: attributes, which may be negated, a color, a color behind `on`, and a link. Two
descriptions with the same effect have one normal form, with the attributes in a fixed order. A text that describes no
style is compared in small letters, without the blanks around it.

The words are those that the `rich` library documents for the definition of a style. The order of the normal form is
that of the library.
-/

namespace TokenSheet.Console

open Text (isDigit digitsValue hexValue?)

/-- The attributes of a style in the order of the normal form, each with its short name if it has one. -/
def attributes : List (String × Option String) := [
  ("bold", some "b"), ("dim", some "d"), ("italic", some "i"), ("underline", some "u"),
  ("blink", none), ("blink2", none), ("reverse", some "r"), ("conceal", some "c"),
  ("strike", some "s"), ("underline2", some "uu"), ("frame", none), ("encircle", none),
  ("overline", some "o")]

/-- The attribute that a word names. -/
def attribute? (word : String) : Option String :=
  (attributes.find? fun a => a.1 == word || a.2 == some word).map (·.1)

/-- A color whose components have no digits, which is neither a color nor another text. -/
inductive ColorFault where
  | noDigits
deriving DecidableEq, Repr

/-- What stands between a word with an opening parenthesis and a closing parenthesis at the end. -/
def argument? (word : String) (s : List Char) : Option (List Char) :=
  let opening := word.toList ++ ['(']
  if opening.isPrefixOf s && s.getLast? == some ')' then
    some ((s.drop opening.length).dropLast)
  else none

/-- The parts of a text between commas. -/
def commaParts : List Char → List (List Char)
  | [] => [[]]
  | c :: rest =>
    match commaParts rest with
    | part :: parts => if c = ',' then [] :: part :: parts else (c :: part) :: parts
    | [] => [[c]]

/-- Whether three components make a color: numbers up to 255. -/
def isTriple (s : List Char) : Except ColorFault Bool :=
  match commaParts s with
  | [a, b, c] =>
    if [a, b, c].any (·.isEmpty) then .error .noDigits
    else .ok ([a, b, c].all fun part => digitsValue part ≤ 255)
  | _ => .ok false

/-- Whether a word in small letters is a color: a name, six hexadecimal digits, a number or three components. -/
def isColor (word : String) : Except ColorFault Bool :=
  let s := word.toList
  if word == "default" || colorRows.any fun row => (row.splitOn " ").contains word then .ok true
  else match s with
    | '#' :: ds => .ok (ds.length == 6 && ds.all fun c => (hexValue? c).isSome)
    | _ => match argument? "color" s, argument? "rgb" s with
      | some ds, _ =>
        .ok (!ds.isEmpty && ds.length ≤ 3 && ds.all isDigit && decide (digitsValue ds ≤ 255))
      | none, some parts =>
        if !parts.isEmpty && parts.all fun c => isDigit c || c == ',' then isTriple parts else .ok false
      | none, none => .ok false

/-- A described style. -/
structure Style where
  /-- The attributes that are switched on or off, the latest switch in front. -/
  switches : List (String × Bool) := []
  color : Option String := none
  background : Option String := none
  link : Option String := none

/-- The words of a style in its normal form. -/
def Style.words (s : Style) : List String :=
  (attributes.filterMap fun a =>
    (s.switches.lookup a.1).map fun on => if on then a.1 else "not " ++ a.1) ++
  s.color.toList ++ (s.background.map fun c => "on " ++ c).toList ++
  (s.link.map fun l => "link " ++ l).toList

/-- The style in its normal form. -/
def Style.text (s : Style) : String :=
  if s.words.isEmpty then "none" else " ".intercalate s.words

/-- Adds the words of a description to a style; there is none if they describe no style. -/
def Style.addWords (s : Style) : List String → Except ColorFault (Option Style)
  | [] => .ok (some s)
  | word :: rest => do
    let small := Text.lower word
    if small == "on" then
      match rest with
      | [] => return none
      | c :: more =>
        if ← isColor (Text.lower c) then
          ({ s with background := some (Text.lower c) } : Style).addWords more
        else return none
    else if small == "not" then
      match rest with
      | [] => return none
      | w :: more => match attribute? w with
        | some a => ({ s with switches := (a, false) :: s.switches } : Style).addWords more
        | none => return none
    else if small == "link" then
      match rest with
      | [] => return none
      | target :: more => ({ s with link := some target } : Style).addWords more
    else match attribute? small with
      | some a => ({ s with switches := (a, true) :: s.switches } : Style).addWords rest
      | none =>
        if ← isColor small then ({ s with color := some small } : Style).addWords rest
        else return none

/-- The words of a text. -/
def wordsOf (s : String) : List String :=
  let parts := s.toList.splitBy fun a b => !Text.isBlank a && !Text.isBlank b
  (parts.filter fun part => !part.all Text.isBlank).map String.ofList

/-- The name of a style in the form in which names are compared. -/
def normalName (s : String) : Except ColorFault String := do
  if Text.trim s == "none" then return "none"
  match ← ({} : Style).addWords (wordsOf s) with
  | some style => return style.text
  | none => return Text.lower (Text.trim s)

end TokenSheet.Console
