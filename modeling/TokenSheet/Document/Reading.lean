import TokenSheet.Document.Moment
import TokenSheet.Number.Binary
import TokenSheet.Text.Numeral

/-!
What the readers of all formats share: why a text holds no document, and the bound on the digits of an integer.

A text that does not follow its grammar is `malformed`. The other faults lie in a single value: its form is
right, but there is no such integer, moment or character.
-/

namespace TokenSheet

/-- Why a text holds no document. -/
inductive ReadFault where
  /-- The text does not follow the grammar. -/
  | malformed
  /-- An integer has more digits than are read. -/
  | longInteger (digits : Nat)
  /-- An integer in a base has no digits. -/
  | noDigits (base : Nat)
  /-- A number is beyond the range of a double on the way to its value. -/
  | largeNumber
  /-- The calendar does not have a date or time. -/
  | moment (fault : MomentFault)
  /-- The number of an escape is beyond that of all characters. -/
  | noCharacter
  /-- The number of an escape does not fit into a signed word of 32 bits. -/
  | largeCharacter
deriving DecidableEq, Repr

namespace ReadFault

/-- What is said about a value that does not exist; nothing about a text that is malformed. -/
def message? : ReadFault → Option String
  | .malformed => none
  | .longInteger digits => some <|
    "Exceeds the limit (4300 digits) for integer string conversion: value has " ++ toString digits ++
      " digits; use sys.set_int_max_str_digits() to increase the limit"
  | .noDigits base => some ("invalid literal for int() with base " ++ toString base ++ ": ''")
  | .largeNumber => some "int too large to convert to float"
  | .moment fault => some fault.message
  | .noCharacter => some "chr() arg not in range(0x110000)"
  | .largeCharacter => some "Python int too large to convert to C int"

end ReadFault

/-- The greatest count of digits of an integer in decimal notation. -/
def maxDigits : Nat := 4300

/-- The integer of a sign and decimal digits. -/
def integerOfDigits (negative : Bool) (ds : List Char) : Except ReadFault Int :=
  if maxDigits < ds.length then .error (.longInteger ds.length)
  else .ok (Binary.signed negative (Text.digitsValue ds))

/-- A value that is there, or a malformed text. -/
def orMalformed {α : Type} : Option α → Except ReadFault α
  | some a => .ok a
  | none => .error .malformed

end TokenSheet
