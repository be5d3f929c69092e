/-!
Command line arguments as settings and positional arguments.

An option is a flag or takes a value: the rest of its own argument or the whole next one, whatever that looks like.
Letters behind a single hyphen may share an argument. Two hyphens alone end the options.

These are the rules that the `typer` library documents for options, flags with two names, and arguments, on top of the
usual conventions for command lines. Names are not abbreviated. Options in front of a command end at the command,
while those of a command may stand between its arguments (`Arguments.read`). Of several values for one option the last
counts, except where all of them are collected (`Arguments.text?`, `Arguments.texts`). The texts of usage errors and of
help are left out.
-/

namespace TokenSheet.Command

/-- What an option does: it asks for a value, or it sets a flag. -/
inductive OptionKind where
  | value
  | flag (on : Bool)
deriving DecidableEq, Repr

/-- A name of an option, as it is written on the command line, with what it sets. -/
structure OptionName where
  name : String
  key : String
  kind : OptionKind

/-- What is wrong with a command line. -/
inductive UsageError where
  | unknownOption (name : String)
  | missingValue (name : String)
  | unexpectedValue (name : String)
  | invalidChoice (key value : String)
  | missingArgument
  | extraArgument (text : String)
  | unusablePath (text : String)
  | missingCommand
  | unknownCommand (name : String)
deriving DecidableEq, Repr

/-- What an option was set to. -/
inductive Given where
  | text (value : String)
  | flag (on : Bool)
deriving DecidableEq, Repr

/-- A setting with the key of its option. -/
structure Setting where
  key : String
  given : Given

/-- A command line as read: its settings in order, and all that is not an option. -/
structure Arguments where
  settings : List Setting := []
  positional : List String := []

namespace Arguments

/-- The arguments with settings in front. -/
def withSettings (settings : List Setting) (a : Arguments) : Arguments :=
  { a with settings := settings ++ a.settings }

/-- The arguments with a positional one in front. -/
def withPositional (s : String) (a : Arguments) : Arguments :=
  { a with positional := s :: a.positional }

/-- The texts given for an option, in order. -/
def texts (a : Arguments) (key : String) : List String :=
  a.settings.filterMap fun s => match s.given with
    | .text value => if s.key = key then some value else none
    | .flag _ => none

/-- The text given for an option; the last one counts. -/
def text? (a : Arguments) (key : String) : Option String :=
  (a.texts key).getLast?

/-- What a flag was set to; the last setting counts. -/
def flag? (a : Arguments) (key : String) : Option Bool :=
  (a.settings.filterMap fun s => match s.given with
    | .flag on => if s.key = key then some on else none
    | .text _ => none).getLast?

end Arguments

/-- What one argument gives: settings, and an option that still waits for its value. -/
structure OptionRead where
  settings : List Setting
  waiting : Option OptionName := none

/-- The option of a name. -/
def findOption (options : List OptionName) (name : String) : Except UsageError OptionName :=
  match options.find? fun o => o.name == name with
  | some o => .ok o
  | none => .error (.unknownOption name)

/-- Letters behind a single hyphen. A letter that asks for a value takes the rest of the argument. -/
def readLetters (options : List OptionName) : List Char → Except UsageError OptionRead
  | [] => .ok ⟨[], none⟩
  | c :: rest => do
    let o ← findOption options (String.ofList ['-', c])
    match o.kind with
    | .flag on =>
      let others ← readLetters options rest
      return { others with settings := ⟨o.key, .flag on⟩ :: others.settings }
    | .value =>
      if rest.isEmpty then return ⟨[], some o⟩
      else return ⟨[⟨o.key, .text (String.ofList rest)⟩], none⟩

/-- An option with a long name, perhaps with a value behind an equals sign. -/
def readLong (options : List OptionName) (arg : List Char) : Except UsageError OptionRead := do
  let name := arg.takeWhile (· != '=')
  let o ← findOption options (String.ofList name)
  match o.kind, arg.drop name.length with
  | .value, [] => return ⟨[], some o⟩
  | .value, _ :: value => return ⟨[⟨o.key, .text (String.ofList value)⟩], none⟩
  | .flag on, [] => return ⟨[⟨o.key, .flag on⟩], none⟩
  | .flag _, _ :: _ => throw (.unexpectedValue o.name)

/-- An argument that starts with a hyphen. -/
def readOption (options : List OptionName) (arg : List Char) : Except UsageError OptionRead :=
  match arg with
  | '-' :: '-' :: _ => readLong options arg
  | _ => readLetters options (arg.drop 1)

/-- Whether an argument is an option and no value: it starts with a hyphen and goes on. -/
def looksLikeOption (arg : List Char) : Bool :=
  arg.head? = some '-' && 2 ≤ arg.length

/-- Reads a command line. Unless options may be `mixed` with positional arguments, the first positional one ends
the options. -/
def Arguments.read (options : List OptionName) (mixed : Bool) :
    List String → Except UsageError Arguments
  | [] => .ok {}
  | arg :: rest =>
    if arg = "--" then .ok { positional := rest }
    else if looksLikeOption arg.toList then do
      let found ← readOption options arg.toList
      match found.waiting with
      | none => return (← Arguments.read options mixed rest).withSettings found.settings
      | some o =>
        match rest with
        | [] => throw (.missingValue o.name)
        | value :: more =>
          let others ← Arguments.read options mixed more
          return others.withSettings (found.settings ++ [⟨o.key, .text value⟩])
    else if mixed then do return (← Arguments.read options mixed rest).withPositional arg
    else .ok { positional := arg :: rest }

end TokenSheet.Command
