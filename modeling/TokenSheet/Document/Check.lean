import TokenSheet.Document.Basic
import TokenSheet.Document.Reading
import TokenSheet.Number.Double
import TokenSheet.Text.Blank
import TokenSheet.Text.Case
import TokenSheet.Text.Numeral
import TokenSheet.Text.Surrogate

/-!
Checking documents field by field.

A check never stops at the first failure: `Checked` either holds a value or all failures that were found,
each with the location of the field and the kind of the failure. The scalar checks are lenient in the way
that hand-written settings need: a number may be written as a text, a flag as `yes` or `0`, a boolean may
stand for a number. Main statements: `seq` keeps the failures of both sides in order
(`failures_seq`), and a value comes out only if no part failed (`seq_eq_valid_iff`).

The rules are the ones that `pydantic`, version 2, documents for its lax mode, and the codes of failures are those of
its validation errors (`FailureKind.code`):
* the conversion table, which says what is taken for a text, a choice, a flag, an integer and a double (`text`,
  `choice`, `flag`, `integer`, `double`);
* lists and mappings, whose items are checked one by one, with the index or the key in the place of a failure
  (`list`, `mapping`);
* records whose fields have an alias and may be given by their plain name too, the alias going first (`locate`), and
  which either pass over further fields or forbid them (`record`, `onlyFields`).

The documentation says little about numbers that are written as texts: their zeros, underscores, signs and lengths
(`strictInteger`, `strictForm?`, `numberOfText?`), about integers beyond a word and about broken texts. There the
checks do what the library does. The wording of failures is left out.
-/

namespace TokenSheet

/-- What is wrong with a field. -/
inductive FailureKind where
  | missing
  | notText
  | brokenText
  | notChosen
  | unreadableFlag
  | notFlag
  | fractionalInteger
  | unreadableInteger
  | longInteger
  | notInteger
  | notFinite
  | unreadableNumber
  | notNumber
  | notList
  | notMapping
  | notRecord
  | unknownField
  | unusableKey
  | notPositive
deriving DecidableEq, Repr

/-- The short code of a failure. -/
def FailureKind.code : FailureKind → String
  | .missing => "missing"
  | .notText => "string_type"
  | .brokenText => "string_unicode"
  | .notChosen => "enum"
  | .unreadableFlag => "bool_parsing"
  | .notFlag => "bool_type"
  | .fractionalInteger => "int_from_float"
  | .unreadableInteger => "int_parsing"
  | .longInteger => "int_parsing_size"
  | .notInteger => "int_type"
  | .notFinite => "finite_number"
  | .unreadableNumber => "float_parsing"
  | .notNumber => "float_type"
  | .notList => "tuple_type"
  | .notMapping => "dict_type"
  | .notRecord => "model_type"
  | .unknownField => "extra_forbidden"
  | .unusableKey => "invalid_key"
  | .notPositive => "greater_than"

/-- A failure at a place in a document, given by field names and list indexes. -/
structure Failure where
  location : List String
  kind : FailureKind
deriving DecidableEq, Repr

/-- The outcome of a check: a value, or every failure found. -/
inductive Checked (α : Type) where
  | valid (value : α)
  | invalid (failures : List Failure)

namespace Checked

variable {α β : Type}

/-- The failures of a check. -/
def failures : Checked α → List Failure
  | .valid _ => []
  | .invalid fs => fs

/-- Applies a checked function to a checked value and keeps the failures of both. -/
def seq (f : Checked (α → β)) (x : Checked α) : Checked β :=
  match f, x with
  | .valid f, .valid a => .valid (f a)
  | .valid _, .invalid fs => .invalid fs
  | .invalid fs, .valid _ => .invalid fs
  | .invalid fs, .invalid gs => .invalid (fs ++ gs)

instance : Applicative Checked where
  pure := .valid
  seq f x := seq f (x ())

theorem failures_seq (f : Checked (α → β)) (x : Checked α) :
    (seq f x).failures = f.failures ++ x.failures := by
  cases f <;> cases x <;> simp [seq, failures]

theorem seq_eq_valid_iff {f : Checked (α → β)} {x : Checked α} {b : β} :
    seq f x = .valid b ↔ ∃ g a, f = .valid g ∧ x = .valid a ∧ g a = b := by
  cases f <;> cases x <;> simp [seq]

/-- A single failure at the place itself. -/
def fail (kind : FailureKind) : Checked α :=
  .invalid [⟨[], kind⟩]

/-- Moves the failures below a part of a document. -/
def within (part : String) : Checked α → Checked α
  | .valid a => .valid a
  | .invalid fs => .invalid (fs.map fun f => { f with location := part :: f.location })

/-- Checks the items of a list, numbering them from `start`. -/
def items (check : Document → Checked α) (start : Nat) : List Document → Checked (List α)
  | [] => .valid []
  | d :: rest => List.cons <$> (check d).within (toString start) <*> items check (start + 1) rest

/-- The check as a result, with its failures as the error. -/
def toExcept : Checked α → Except (List Failure) α
  | .valid a => .ok a
  | .invalid fs => .error fs

end Checked

/-! ## Scalars -/

namespace Check

open Text (isDigit digitsValue splitSign splitWhile)

/-- A text. -/
def text : Document → Checked String
  | .text s => .valid s
  | _ => .fail .notText

/-- A text or nothing. -/
def optionalText : Document → Checked (Option String)
  | .null => .valid none
  | d => some <$> text d

/-- What is read from a text, which may not hold half of a surrogate pair. The characters that stand for halves are
refused too where a text holds them for itself (`Text.ofHalf`). -/
def reading {α : Type} (s : String) (read : Checked α) : Checked α :=
  if Text.hasHalf s then .fail .brokenText else read

/-- One of a list of named choices. -/
def choice {α : Type} (choices : List (String × α)) : Document → Checked α
  | .text s => reading s (match choices.lookup s with
    | some a => .valid a
    | none => .fail .notChosen)
  | _ => .fail .notChosen

/-- The words for true. -/
def trueWords : List String := ["1", "true", "t", "yes", "y", "on"]

/-- The words for false. -/
def falseWords : List String := ["0", "false", "f", "no", "n", "off"]

/-- Whether an integer fits into a signed word of 64 bits. -/
def isWord (n : Int) : Bool :=
  -(Int.pow 2 63) ≤ n && n < Int.pow 2 63

/-- A flag: a boolean, one or zero, or a word for one of them in any letter case. An integer that fits into no
word is as little a flag as a fraction is. -/
def flag : Document → Checked Bool
  | .flag b => .valid b
  | .number (.int n) =>
    if n = 1 then .valid true
    else if n = 0 then .valid false
    else .fail (if isWord n then .unreadableFlag else .notFlag)
  | .number (.real x) =>
    if x == 1 then .valid true else if x == 0 then .valid false else .fail .notFlag
  | .text s =>
    let word := Text.lower s
    reading s <|
      if trueWords.contains word then .valid true
      else if falseWords.contains word then .valid false
      else .fail .unreadableFlag
  | _ => .fail .notFlag

/-- The text without the white space at its ends; information separators are not white space here. -/
def trimSpaces (s : List Char) : List Char :=
  let isSpace := fun (c : Char) => Text.isBlank c && !(0x1C ≤ c.toNat && c.toNat ≤ 0x1F)
  (((s.dropWhile isSpace).reverse).dropWhile isSpace).reverse

/-- A text without its underscores. There is none if no underscore stands inside it, if one stands at an end, or
if two stand side by side. -/
def withoutUnderscores? (s : List Char) : Option (List Char) :=
  let atEnd := s.head? == some '_' || s.getLast? == some '_'
  if s.contains '_' && !atEnd && !Text.occurs ['_', '_'] s then some (s.filter (· != '_')) else none

/-- An integer in its strict form: a minus sign or none, and digits without a superfluous zero in front. The
length is judged before what follows the digits. -/
def strictInteger (s : List Char) : Except FailureKind Int :=
  let (negative, body) := match s with
    | '-' :: rest => (true, rest)
    | _ => (false, s)
  let (ds, after) := splitWhile isDigit body
  if ds.isEmpty || (ds.head? == some '0' && ds.length ≠ 1) then .error .unreadableInteger
  else if maxDigits < ds.length + (if negative then 1 else 0) then .error .longInteger
  else if after.isEmpty then .ok (Binary.signed negative (digitsValue ds))
  else .error .unreadableInteger

/-- Whether a number may start with a character, zeros in front being dropped. -/
def startsNumber (c : Char) : Bool :=
  ('1' ≤ c && c ≤ '9') || c == '-'

/-- The text from its first character on that is neither a zero nor an underscore, `last` being the one before
it. The last of the zeros stays if nothing or a point follows. -/
def afterZeros? (last : Char) : List Char → Option (List Char)
  | [] => some [last]
  | c :: rest =>
    if c == '0' || c == '_' then afterZeros? c rest
    else if startsNumber c then some (c :: rest)
    else if c == '.' then some (last :: c :: rest)
    else none

/-- A text without superfluous zeros in front. -/
def dropZeros? : List Char → Option (List Char)
  | [] => none
  | c :: rest =>
    if c == '0' then afterZeros? c rest else if startsNumber c then some (c :: rest) else none

/-- A text without a fraction of zeros; a point alone is no fraction. -/
def dropPlaces (s : List Char) : List Char :=
  let (whole, places) := splitWhile (· != '.') s
  match places with
  | _ :: c :: rest => if (c :: rest).all (· == '0') then whole else s
  | _ => s

/-- A text without a plus sign in front, behind which no minus sign may stand. -/
def dropPlus? : List Char → Option (List Char)
  | '+' :: '-' :: _ => none
  | '+' :: rest => some rest
  | s => some s

/-- The strict form of an integer that is written leniently: with white space around it, a plus sign, zeros in
front, a fraction of zeros or underscores. -/
def strictForm? (s : List Char) : Option (List Char) := do
  let body ← dropZeros? (← dropPlus? (trimSpaces s))
  let whole := dropPlaces body
  return (withoutUnderscores? whole).getD whole

/-- The integer that a text reads as. -/
def integerOfText (s : List Char) : Except FailureKind Int :=
  match strictInteger s with
  | .error .unreadableInteger =>
    match strictForm? s with
    | some t => strictInteger t
    | none => .error .unreadableInteger
  | read => read

/-- An integer: a number without a fraction that fits into a word, an integer of any size, a boolean as one or
zero, or a text that reads as an integer. -/
def integer : Document → Checked Int
  | .number (.int n) => .valid n
  | .number (.real x) =>
    if Binary.isFinite x then
      match Binary.integer? x with
      | some n => if isWord n then .valid n else .fail .longInteger
      | none => .fail .fractionalInteger
    else
      .fail .notFinite
  | .flag b => .valid (if b then 1 else 0)
  | .text s => reading s (match integerOfText s.toList with
    | .ok n => .valid n
    | .error kind => .fail kind)
  | _ => .fail .notInteger

/-- The names of values that are no finite numbers. -/
def namedNumber? (word : String) (negative : Bool) : Option Float :=
  if word == "nan" then some (0.0 / 0.0)
  else if word == "inf" || word == "infinity" then
    some (if negative then -1.0 / 0.0 else 1.0 / 0.0)
  else none

/-- A double written in decimal notation: digits with an optional point and an optional exponent. -/
def decimalOfText? (negative : Bool) (body : List Char) : Option Float := do
  let isExponentMark := fun (c : Char) => c == 'e' || c == 'E'
  let mantissa := body.takeWhile (fun c => !isExponentMark c)
  let tail := body.dropWhile (fun c => !isExponentMark c)
  let whole := mantissa.takeWhile (· != '.')
  let places := (mantissa.dropWhile (· != '.')).drop 1
  if (whole.isEmpty && places.isEmpty) || !(whole.all isDigit && places.all isDigit) then none
  else
    let power ← match tail with
      | [] => some (0 : Int)
      | _ :: e =>
        let (down, ds) := splitSign e
        if !ds.isEmpty && ds.all isDigit then some (Binary.signed down (digitsValue ds)) else none
    return Number.ofDecimal negative (digitsValue (whole ++ places)) (power - places.length)

/-- A double written with an optional sign, in decimal notation or by its name. -/
def plainNumber? (s : List Char) : Option Float :=
  let (negative, body) := splitSign s
  (namedNumber? (Text.lower (String.ofList body)) negative).or (decimalOfText? negative body)

/-- A number written as a text: with white space around it, or with underscores in it, but not with both. -/
def numberOfText? (s : List Char) : Option Float :=
  (plainNumber? (trimSpaces s)).or ((withoutUnderscores? s).bind plainNumber?)

/-- A double: a number, a boolean as one or zero, or a text that reads as a number. An integer beyond the
range of a double is no number. -/
def double : Document → Checked Float
  | .number (.real x) => .valid x
  | .number (.int n) => match doubleOfInt n with
    | .ok x => .valid x
    | .error _ => .fail .notNumber
  | .flag b => .valid (if b then 1.0 else 0.0)
  | .text s => reading s (match numberOfText? s.toList with
    | some x => .valid x
    | none => .fail .unreadableNumber)
  | _ => .fail .notNumber

/-! ## Lists, mappings and records -/

/-- A list of checked items. -/
def list {α : Type} (check : Document → Checked α) : Document → Checked (List α)
  | .list ds => Checked.items check 0 ds
  | _ => .fail .notList

/-- One entry of a mapping, whose key has to be a text; the value is checked in any case. -/
def namedValue {α : Type} (check : Document → Checked α) (key : Key) (d : Document) :
    Checked (String × α) :=
  match key with
  | .text name => (fun a => (name, a)) <$> (check d).within name
  | .scalar _ shown =>
    let refused : Checked (α → String × α) := (Checked.fail .notText).within "[key]"
    (refused <*> check d).within shown

/-- A mapping from texts to checked values. -/
def mapping {α : Type} (check : Document → Checked α) : Document → Checked (List (String × α))
  | .mapping entries =>
    entries.foldr (fun e done => List.cons <$> namedValue check e.1 e.2 <*> done) (.valid [])
  | _ => .fail .notMapping

/-- The entries of a record. -/
def record {α : Type} (check : List (Key × Document) → Checked α) : Document → Checked α
  | .mapping entries => check entries
  | _ => .fail .notRecord

/-- A field of a record, by its name in documents or by its plain name; the former wins. -/
def locate (entries : List (Key × Document)) (name plain : String) : Option (String × Document) :=
  match Document.find? entries name with
  | some d => some (name, d)
  | none => (Document.find? entries plain).map fun d => (plain, d)

/-- A field that has to be there. -/
def required {α : Type} (entries : List (Key × Document)) (name plain : String)
    (check : Document → Checked α) : Checked α :=
  match locate entries name plain with
  | some (found, d) => (check d).within found
  | none => (Checked.fail .missing : Checked α).within name

/-- A field with a default. -/
def optional {α : Type} (entries : List (Key × Document)) (name plain : String) (default : α)
    (check : Document → Checked α) : Checked α :=
  match locate entries name plain with
  | some (found, d) => (check d).within found
  | none => .valid default

/-- Refuses every key that is no text, and every text that is not the one under which a known field was found.
Fields are given by their two names. -/
def onlyFields (fields : List (String × String)) (entries : List (Key × Document)) : Checked Unit :=
  let used := fields.filterMap fun f => (locate entries f.1 f.2).map (·.1)
  let refused : List Failure := entries.filterMap fun e => match e.1 with
    | .text name => if used.contains name then none else some ⟨[name], .unknownField⟩
    | .scalar _ shown => some ⟨[shown], .unusableKey⟩
  if refused.isEmpty then .valid () else .invalid refused

end Check

end TokenSheet
