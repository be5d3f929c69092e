import TokenSheet.Document.Toml.Reading
import TokenSheet.Export.Options
import TokenSheet.Viewport.Widths
import TokenSheet.Workspace.Tree

/-!
Settings: options and widths from a file, with overrides on top.

The file has a table of options and a table of widths, and other tables are ignored. An override counts unless
it is null. The options are checked before the widths.
-/

namespace TokenSheet

/-- The name of a settings file. -/
def settingsFile : String := "varcss.toml"

/-- Options together with widths. -/
structure Settings where
  options : Options
  widths : Widths

/-- Why a value stands for no table. -/
inductive TableError where
  /-- The value has no parts. -/
  | single (found : Document)
  /-- An item has no parts. -/
  | noPair (index : Nat)
  /-- An item has a count of parts other than two. -/
  | wrongSize (index parts : Nat)
  /-- An item names its entry by a list or a mapping. -/
  | noName (found : Document)

/-- Why there are no settings. -/
inductive SettingsError where
  /-- The text of the file cannot be had. -/
  | file (trouble : ReadTrouble)
  /-- The text holds no document. -/
  | text (fault : ReadFault)
  /-- A table is asked for where the file has something else. -/
  | notTable (error : TableError)
  | options (error : OptionsError)
  | widths (error : WidthsError)

/-- What is said about settings that cannot be used; nothing if the file is not of the right shape, if its content
is not text, if no file can have its name, or if a value in it does not exist. -/
def SettingsError.message? : SettingsError → Option String
  | .file .unreadable => some "Cannot read settings"
  | .file _ => none
  | .text .malformed => some "Cannot read settings"
  | .text _ => none
  | .notTable _ => none
  | .options _ => some "Invalid export options"
  | .widths _ => some "Invalid breakpoint widths"

/-- The kind of a value as it is named in a message. -/
def kindName : Document → String
  | .null => "null"
  | .flag _ => "bool"
  | .number (.int _) => "int"
  | .number (.real _) => "float"
  | .text _ => "str"
  | .moment m => m.kind
  | .list _ => "list"
  | .mapping _ => "dict"

/-- The message about a value in the place of a table. -/
def TableError.message : TableError → String
  | .single found => "'" ++ kindName found ++ "' object is not iterable"
  | .noPair index =>
    "cannot convert dictionary update sequence element #" ++ toString index ++ " to a sequence"
  | .wrongSize index parts =>
    "dictionary update sequence element #" ++ toString index ++ " has length " ++ toString parts ++
      "; 2 is required"
  | .noName found => "unhashable type: '" ++ kindName found ++ "'"

namespace Settings

/-- The parts of a value: the characters of a text, the items of a list, the keys of a mapping. -/
def parts? : Document → Option (List Document)
  | .text s => some (s.toList.map fun c => .text (String.singleton c))
  | .list items => some items
  | .mapping entries => some (entries.map fun e => .text e.1.shown)
  | _ => none

/-- The entry that the item of a list stands for: a name and a value. -/
def entryOf (index : Nat) (item : Document) : Except TableError (Key × Document) :=
  match parts? item with
  | none => .error (.noPair index)
  | some [name, value] => match name.key? with
    | some key => .ok (key, value)
    | none => .error (.noName name)
  | some parts => .error (.wrongSize index parts.length)

/-- The entries that a list of pairs stands for, the items numbered from `start`. -/
def entriesOf (start : Nat) : List Document → Except TableError (List (Key × Document))
  | [] => .ok []
  | item :: rest => do
    let entry ← entryOf start item
    return entry :: (← entriesOf (start + 1) rest)

/-- The entries of a table. A list of pairs may stand for a table, and so may an empty text. -/
def tableOf (d : Document) : Except TableError (List (Key × Document)) :=
  match d with
  | .mapping entries => .ok entries
  | d => match parts? d with
    | none => .error (.single d)
    | some items => (entriesOf 0 items).map Document.ofEntries

/-- The entries of a table of the file; none if the table is absent. -/
def table (document : List (Key × Document)) (name : String) :
    Except SettingsError (List (Key × Document)) :=
  match Document.find? document name with
  | none => .ok []
  | some d => (tableOf d).mapError .notTable

/-- The entries of a settings file, by the two tables. -/
def readTables (w : Workspace) (path : Path) :
    Except SettingsError (List (Key × Document) × List (Key × Document)) := do
  let s ← (w.readText path).mapError .file
  let document ← (Toml.parse s).mapError .text
  return (← table document "export", ← table document "breakpoints")

/-- Entries with overrides in place of theirs; a null override is passed over. -/
def overridden (entries overrides : List (Key × Document)) : List (Key × Document) :=
  overrides.foldl (fun done e => match e.2 with
    | .null => done
    | d => Document.insertEntry e.1 d done) entries

/-- The settings of two tables. -/
def ofTables (options widths : List (Key × Document)) : Except SettingsError Settings := do
  let o ← (Options.ofEntries options).mapError .options
  let w ← (Widths.ofEntries widths).mapError .widths
  return ⟨o, w⟩

/-- The settings of a file, if there is one, with overrides for the options. -/
def load (w : Workspace) (path? : Option Path) (overrides : List (Key × Document)) :
    Except SettingsError Settings := do
  let (options, widths) ← match path? with
    | some path => readTables w path
    | none => pure ([], [])
  ofTables (overridden options overrides) widths

/-- The settings file nearest to a folder. -/
def find? (w : Workspace) (start : Path) : Option Path :=
  w.findUpwards start settingsFile

end Settings

end TokenSheet
