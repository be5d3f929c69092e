import TokenSheet.Console.EmojiTable
import TokenSheet.Text.Blank
import TokenSheet.Text.Case

/-!
Emoji codes: the name of an emoji between two colons, which stands for the emoji.

A name may end in a hyphen and a word for its presentation, as text or as a picture. A code whose name is not known
stays as it is, with both of its colons, so that the second one starts no other code. Codes and endings are those that
the `rich` library documents for its markup.
-/

namespace TokenSheet.Console

/-- The pairs that a list stands for, a name in front of its characters. -/
def pairsOf : List String → List (String × String)
  | name :: characters :: rest => (name, characters) :: pairsOf rest
  | _ => []

/-- The characters of the emoji with a name. -/
def emoji? (name : String) : Option String :=
  emojiRows.findSome? fun row => (pairsOf (row.splitOn " ")).lookup name

/-- The endings of a code that choose a presentation, with the character that stands for it. -/
def presentations : List (List Char × Char) :=
  [("-text".toList, Char.ofNat 0xFE0E), ("-emoji".toList, Char.ofNat 0xFE0F)]

/-- A code without the ending that chooses a presentation, and the character for that. -/
def splitPresentation (code : List Char) : List Char × List Char :=
  match presentations.find? fun p => p.1.isSuffixOf code with
  | some (ending, mark) => (code.take (code.length - ending.length), [mark])
  | none => (code, [])

/-- The characters that a code stands for, if its name is known. -/
def codeText? (code : List Char) : Option (List Char) :=
  let (name, mark) := splitPresentation code
  (emoji? (Text.lower (String.ofList name))).map fun s => s.toList ++ mark

/-- A text with its codes replaced, reading at most `fuel` parts of it. -/
def replaceFrom : Nat → List Char → List Char
  | 0, s => s
  | _, [] => []
  | fuel + 1, c :: rest =>
    if c != ':' then c :: replaceFrom fuel rest
    else
      let code := rest.takeWhile fun d => d != ':' && !Text.isBlank d
      match rest.drop code.length with
      | ':' :: after =>
        (codeText? code).getD (':' :: code ++ [':']) ++ replaceFrom fuel after
      | _ => ':' :: replaceFrom fuel rest

/-- A text with its emoji codes replaced. -/
def replaceCodes (s : List Char) : List Char :=
  replaceFrom s.length s

end TokenSheet.Console
