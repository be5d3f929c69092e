import TokenSheet.Text.CaseTable

/-!
Letter case.

`lower` and `upper` are the full mappings of the character standard: a character may become several
characters, and a capital sigma becomes the final form at the end of a word. All characters outside
ASCII go through the tables of `CaseTable`; inside ASCII only the letters change.
-/

namespace TokenSheet.Text

open CaseTable

/-- The lowercase form of one character, apart from a sigma at the end of a word. -/
def lowerChar (c : Char) : List Char :=
  if c.toNat < 0x80 then [c.toLower]
  else if c.toNat = 0x130 then ['i', Char.ofNat 0x307]
  else match image? lowercase c.toNat with
    | some n => [Char.ofNat n]
    | none => [c]

/-- The uppercase form of one character. -/
def upperChar (c : Char) : List Char :=
  if c.toNat < 0x80 then [c.toUpper]
  else match uppercaseSpecial.lookup c.toNat with
    | some codes => codes.map Char.ofNat
    | none => match image? uppercase c.toNat with
      | some n => [Char.ofNat n]
      | none => [c]

/-- Characters that the search for a neighbouring letter passes over. -/
def isPassedOver (c : Char) : Bool :=
  covers ignorable c.toNat

/-- Whether the first character that is not passed over is a cased one. -/
def meetsLetter : List Char → Bool
  | [] => false
  | c :: rest => if isPassedOver c then meetsLetter rest else covers cased c.toNat

/-- The capital sigma. -/
def capitalSigma : Char := Char.ofNat 0x3A3

/-- Lowercase forms from left to right; `before` holds the characters already read, nearest first.
A capital sigma with a letter before it and none after it takes the final form. -/
def lowerFrom (before : List Char) : List Char → List Char
  | [] => []
  | c :: rest =>
    let image :=
      if c = capitalSigma then
        [Char.ofNat (if meetsLetter before && !meetsLetter rest then 0x3C2 else 0x3C3)]
      else
        lowerChar c
    image ++ lowerFrom (c :: before) rest

/-- The text in lowercase. -/
def lower (s : String) : String :=
  String.ofList (lowerFrom [] s.toList)

/-- The text in uppercase. -/
def upper (s : String) : String :=
  String.ofList (s.toList.flatMap upperChar)

end TokenSheet.Text
