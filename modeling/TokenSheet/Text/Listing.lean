import TokenSheet.Text.InvisibleTable
import TokenSheet.Text.Surrogate

/-!
Names listed in a message: each name in quotes, the list in brackets.

A name is set in single quotes, or in double quotes when it holds a single quote and no double one.
The backslash and the quote in use are escaped, and so is every character without a visible form.
-/

namespace TokenSheet.Text

/-- The single quote. -/
def singleQuote : Char := Char.ofNat 0x27

/-- The double quote. -/
def doubleQuote : Char := Char.ofNat 0x22

/-- The quote that a name is set in. -/
def quoteFor (name : List Char) : Char :=
  if name.contains singleQuote && !name.contains doubleQuote then doubleQuote else singleQuote

/-- Whether a character has no visible form of its own. -/
def isInvisible (c : Char) : Bool :=
  InvisibleTable.invisible.any fun i => i.1 ≤ c.toNat && c.toNat ≤ i.2

/-- The last `width` hexadecimal digits of a number, in lowercase. -/
def hexDigits (width n : Nat) : List Char :=
  ((List.range width).map fun i => (n / Nat.pow 16 i % 16).digitChar).reverse

/-- The escape of half of a surrogate pair. -/
def halfEscape (unit : Nat) : List Char :=
  '\x5c' :: 'u' :: hexDigits 4 unit

/-- A text with escapes in place of halves of surrogate pairs. -/
def showHalves (s : String) : String :=
  String.ofList (s.toList.flatMap fun c => ((halfOf? c).map halfEscape).getD [c])

/-- One character of a quoted name. -/
def listedChar (quote c : Char) : List Char :=
  if let some unit := halfOf? c then halfEscape unit
  else if c = '\x5c' ∨ c = quote then ['\x5c', c]
  else if c = '\n' then ['\x5c', 'n']
  else if c = '\r' then ['\x5c', 'r']
  else if c = '\t' then ['\x5c', 't']
  else if isInvisible c then
    if c.toNat < 0x100 then '\x5c' :: 'x' :: hexDigits 2 c.toNat
    else if c.toNat < 0x10000 then '\x5c' :: 'u' :: hexDigits 4 c.toNat
    else '\x5c' :: 'U' :: hexDigits 8 c.toNat
  else [c]

/-- A name in quotes. -/
def quoted (name : String) : String :=
  let quote := quoteFor name.toList
  String.ofList (quote :: name.toList.flatMap (listedChar quote) ++ [quote])

/-- The quoted names between brackets, with a comma and a space after each but the last. -/
def listing (names : List String) : String :=
  "[" ++ ", ".intercalate (names.map quoted) ++ "]"

end TokenSheet.Text
