import TokenSheet.Document.Basic
import TokenSheet.Number.Text
import TokenSheet.Text.Listing

/-!
Writing JSON.

Lists and mappings are written over several lines, each level two spaces deeper than the one around it; empty ones
stay on one line. Characters outside ASCII are written as they are. A double without a decimal form is
written as null.
-/

namespace TokenSheet.Json

/-- One character of a string. -/
def stringChar (c : Char) : List Char :=
  if c = '\x22' ∨ c = '\x5c' then ['\x5c', c]
  else if c = '\n' then ['\x5c', 'n']
  else if c = '\r' then ['\x5c', 'r']
  else if c = '\t' then ['\x5c', 't']
  else if c = '\x08' then ['\x5c', 'b']
  else if c = '\x0c' then ['\x5c', 'f']
  else if c.toNat < 0x20 then '\x5c' :: 'u' :: Text.hexDigits 4 c.toNat
  else [c]

/-- A string in quotes. -/
def stringText (s : String) : String :=
  String.ofList ('\x22' :: s.toList.flatMap stringChar ++ ['\x22'])

/-- The text of a number. -/
def numberText : Number → String
  | .int n => toString n
  | .real x => if Binary.isFinite x then Number.interchangeText x else "null"

/-- The start of a line at a depth. -/
def lineStart (depth : Nat) : String :=
  "\n" ++ String.ofList (List.replicate (2 * depth) ' ')

/-- Items between brackets, each on a line of its own. -/
def bracketed (opening closing : String) (depth : Nat) (items : List String) : String :=
  if items.isEmpty then opening ++ closing
  else opening ++ ",".intercalate (items.map fun s => lineStart (depth + 1) ++ s) ++
    lineStart depth ++ closing

mutual

/-- The text of a document at a depth. -/
def textAt (depth : Nat) : Document → String
  | .null => "null"
  | .flag b => if b then "true" else "false"
  | .number n => numberText n
  | .text s => stringText s
  | .moment m => stringText m.shown
  | .list items => bracketed "[" "]" depth (itemTexts (depth + 1) items)
  | .mapping entries => bracketed "\x7b" "\x7d" depth (entryTexts (depth + 1) entries)

/-- The texts of the items of a list. -/
def itemTexts (depth : Nat) : List Document → List String
  | [] => []
  | d :: rest => textAt depth d :: itemTexts depth rest

/-- The texts of the entries of a mapping. -/
def entryTexts (depth : Nat) : List (Key × Document) → List String
  | [] => []
  | (k, d) :: rest => (stringText k.shown ++ ": " ++ textAt depth d) :: entryTexts depth rest

end

/-- The text of a document. -/
def text (d : Document) : String :=
  textAt 0 d

end TokenSheet.Json
