import TokenSheet.Command.Arguments
import TokenSheet.Document.Basic
import TokenSheet.Export.Options
import TokenSheet.Workspace.Path

/-!
Requests: what a command line asks for.

There are three commands. `generate` writes a stylesheet, `scan` lists the collections of a snapshot, and
`breakpoints` compares the widths found in a snapshot with the defaults. Options of `generate` that name a choice
take only the names of that choice, and each of them overrides a field of the settings. The options by which the
`typer` library installs completion for a shell are left out.
-/

namespace TokenSheet.Command

/-- A request for a stylesheet. -/
structure GenerateRequest where
  snapshot : Path
  config : Option Path
  output : Option Path
  report : Option Path
  /-- The fields of the settings that are overridden. -/
  overrides : List (Key × Document)
  /-- Whether the widths are read from the snapshot. -/
  detect : Bool

/-- A request for a list of collections. -/
structure ScanRequest where
  snapshot : Path
  config : Option Path

/-- What is asked for. -/
inductive Request where
  | version
  | help
  | generate (request : GenerateRequest)
  | scan (request : ScanRequest)
  | breakpoints (snapshot : Path)

/-- A request, and whether everything is to be logged. -/
structure Call where
  request : Request
  verbose : Bool

/-- The paths that a request reads or writes, `file` being the settings file to look for from a folder
upwards. -/
def Request.paths (file : String) (folder : Path) : Request → List Path
  | .version => []
  | .help => []
  | .generate r =>
    [r.snapshot] ++ r.config.toList ++ r.output.toList ++ r.report.toList ++
      folder.upwards.map fun p => p.child file
  | .scan r => [r.snapshot] ++ r.config.toList ++ folder.upwards.map fun p => p.child file
  | .breakpoints snapshot => [snapshot]

/-! ## Options -/

/-- An option with a value. -/
def valueOption (name key : String) : OptionName :=
  ⟨name, key, .value⟩

/-- A flag. -/
def flagOption (name key : String) (on : Bool) : OptionName :=
  ⟨name, key, .flag on⟩

/-- The two names of a flag that can be set both ways. -/
def switch (name key : String) : List OptionName :=
  [flagOption ("--" ++ name) key true, flagOption ("--no-" ++ name) key false]

/-- The options in front of the command. -/
def mainOptions : List OptionName := [
  flagOption "--version" "version" true, flagOption "-V" "version" true,
  flagOption "--verbose" "verbose" true, flagOption "-v" "verbose" true,
  flagOption "--help" "help" true]

/-- The options of a command that reads settings. -/
def configOptions : List OptionName :=
  [valueOption "--config" "config", valueOption "-c" "config"]

/-- The option that every command has. -/
def helpOption : OptionName :=
  flagOption "--help" "help" true

/-- The options of `generate`; those that override a field of the settings have its name as their key. -/
def generateOptions : List OptionName :=
  helpOption :: configOptions ++ [
    valueOption "--output" "output", valueOption "-o" "output",
    valueOption "--report" "report",
    valueOption "--mode" "outputMode",
    valueOption "--direction" "breakpointDirection",
    valueOption "--alias-mode" "aliasMode",
    valueOption "--dark-mode" "darkModeOutput",
    valueOption "--color-format" "colorFormat",
    valueOption "--text-style-format" "textStyleFormat",
    valueOption "--viewport" "viewportRelativeOverrides",
    valueOption "--non-linear" "nonLinearOverrides",
    flagOption "--detect-breakpoints" "detect" true] ++
  switch "legacy-fallbacks" "includeLegacyFallbacks" ++ switch "ids" "includeIds" ++
  switch "timestamp" "includeTimestamp" ++ switch "text-styles" "includeTextStyles"

/-! ## Overrides -/

/-- The fields that an option chooses a value for, with the names of the values. -/
def choiceFields : List (String × List String) := [
  ("outputMode", OutputMode.choices.map (·.1)),
  ("breakpointDirection", Direction.choices.map (·.1)),
  ("aliasMode", ReferenceMode.choices.map (·.1)),
  ("darkModeOutput", ThemeOutput.choices.map (·.1)),
  ("colorFormat", ColorNotation.choices.map (·.1)),
  ("textStyleFormat", TextStyleForm.choices.map (·.1))]

/-- The fields that an option switches. -/
def switchFields : List String :=
  ["includeLegacyFallbacks", "includeIds", "includeTimestamp", "includeTextStyles"]

/-- The fields that list properties. -/
def propertyFields : List String :=
  ["viewportRelativeOverrides", "nonLinearOverrides"]

/-- The choice made for a field; null if none was made. -/
def chosen (a : Arguments) (field : String) (names : List String) : Except UsageError Document :=
  match a.text? field with
  | none => .ok .null
  | some s => if names.contains s then .ok (.text s) else .error (.invalidChoice field s)

/-- A property with its two hyphens, which may be left out. -/
def dashed (s : String) : String :=
  if "--".toList.isPrefixOf s.toList then s else "--" ++ s

/-- The properties listed for a field; null if there are none. -/
def listed (a : Arguments) (field : String) : Document :=
  let names := a.texts field
  if names.isEmpty then .null else .list (names.map fun s => .text (dashed s))

/-- The overrides that a command line asks for; a field that is not touched has null. -/
def overrides (a : Arguments) : Except UsageError (List (Key × Document)) := do
  let choices ← choiceFields.mapM fun c => do return (Key.text c.1, ← chosen a c.1 c.2)
  let switches := switchFields.map fun f => (Key.text f, ((a.flag? f).map .flag).getD .null)
  return choices ++ switches ++ propertyFields.map fun f => (Key.text f, listed a f)

/-! ## Reading requests -/

/-- The path of an argument. -/
def pathOf (s : String) : Except UsageError Path :=
  let p := Path.ofText s
  if p.hasEndMark then .error (.unusablePath s) else .ok p

/-- The single positional argument of a command. -/
def onlyPath (a : Arguments) : Except UsageError Path :=
  match a.positional with
  | [] => .error .missingArgument
  | [s] => pathOf s
  | _ :: extra :: _ => .error (.extraArgument extra)

/-- The path given for an option. -/
def pathOption (a : Arguments) (key : String) : Except UsageError (Option Path) :=
  (a.text? key).mapM pathOf

/-- The request for a stylesheet. -/
def generateRequest (a : Arguments) : Except UsageError Request := do
  let fields ← overrides a
  return .generate {
    snapshot := ← onlyPath a
    config := ← pathOption a "config"
    output := ← pathOption a "output"
    report := ← pathOption a "report"
    overrides := fields
    detect := (a.flag? "detect").getD false }

/-- The request for a list of collections. -/
def scanRequest (a : Arguments) : Except UsageError Request := do
  return .scan ⟨← onlyPath a, ← pathOption a "config"⟩

/-- Reads the arguments of a command with its options. -/
def commandRequest (options : List OptionName) (make : Arguments → Except UsageError Request)
    (args : List String) : Except UsageError Request := do
  let a ← Arguments.read options true args
  if (a.flag? "help").isSome then return .help else make a

/-- The request of a command by its name. -/
def namedRequest (name : String) (args : List String) : Except UsageError Request :=
  match name with
  | "generate" => commandRequest generateOptions generateRequest args
  | "scan" => commandRequest (helpOption :: configOptions) scanRequest args
  | "breakpoints" => commandRequest [helpOption] (fun a => (onlyPath a).map .breakpoints) args
  | other => .error (.unknownCommand other)

/-- The request that an option in front of the command makes; the first one counts. -/
def immediateRequest? (a : Arguments) : Option Request :=
  a.settings.findSome? fun s =>
    if s.key = "version" then some .version else if s.key = "help" then some .help else none

/-- Reads a command line. -/
def Call.ofArguments (args : List String) : Except UsageError Call := do
  let a ← Arguments.read mainOptions false args
  let verbose := (a.flag? "verbose").isSome
  match immediateRequest? a, a.positional with
  | some request, _ => return ⟨request, verbose⟩
  | none, [] => throw .missingCommand
  | none, name :: rest => return ⟨← namedRequest name rest, verbose⟩

end TokenSheet.Command
