import TokenSheet.Text.Numeral

/-!
Control sequences of terminals.

A control sequence is the escape character with an opening bracket, perhaps with digits, semicolons and question marks,
and a letter. Output that goes to no terminal is written without them, as the `typer` library documents it for its
`echo`.
-/

namespace TokenSheet.Console

/-- The escape character, which starts control sequences. -/
def escapeCharacter : Char := Char.ofNat 0x1B

/-- Characters between the bracket and the letter of a control sequence. -/
def isParameter (c : Char) : Bool :=
  Text.isDigit c || c == ';' || c == '?'

/-- The text behind a control sequence, after its escape character. -/
def sequenceEnd? : List Char → Option (List Char)
  | '[' :: rest =>
    match rest.dropWhile isParameter with
    | c :: after => if c.isAlpha then some after else none
    | [] => none
  | _ => none

/-- A text without its control sequences, reading at most `fuel` parts of it. -/
def dropSequencesFrom : Nat → List Char → List Char
  | 0, s => s
  | _, [] => []
  | fuel + 1, c :: rest =>
    match if c == escapeCharacter then sequenceEnd? rest else none with
    | some after => dropSequencesFrom fuel after
    | none => c :: dropSequencesFrom fuel rest

/-- A text without its control sequences. -/
def dropSequences (s : String) : String :=
  String.ofList (dropSequencesFrom s.toList.length s.toList)

end TokenSheet.Console
