import TokenSheet.Command.Request
import TokenSheet.Console.Markup
import TokenSheet.Console.Sequence
import TokenSheet.Design.Load
import TokenSheet.Document.JsonText
import TokenSheet.Export.Settings
import TokenSheet.Generation.Basic
import TokenSheet.Text.Listing
import TokenSheet.Viewport.Detection

/-!
Running a command.

A run takes the files that are there and gives what is printed, the exit code and the files afterwards. Failures
of the input are reported in one message and end with code one; a few others are not foreseen and cut the run
short (`Crash`). Files are written only after the stylesheet is complete.

A text with half of a surrogate pair can be neither printed nor saved. A text that holds one of the characters that
stand for halves is excluded, because it is taken for such a text (`Text.hasHalf`).
-/

namespace TokenSheet.Command

/-- What a command depends on besides its arguments and files. -/
structure Environment where
  /-- The log level, if one is set. -/
  logLevel : Option String
  /-- The moment of the run, as a header shows it. -/
  now : String

/-- A printed table. -/
structure Table where
  title : String
  rows : List (List String)

/-- What a command writes to standard output. -/
inductive Printed where
  | nothing
  | text (s : String)
  | table (t : Table)

/-- A failure that no message is made for. -/
inductive Crash where
  | settings (error : SettingsError)
  | snapshot (error : Design.LoadError)
  | number (error : NumberError)
  | markup (fault : Console.MarkupFault)
  | write (trouble : PathTrouble)
  /-- A text that is to be written holds half of a surrogate pair. -/
  | brokenText
  /-- The report holds such a text. -/
  | brokenReport

/-- How a run ends. -/
inductive Ending where
  | done
  /-- A failure that was reported. -/
  | failed
  | misused (error : UsageError)
  | crashed (crash : Crash)

/-- The exit code of an ending. -/
def Ending.code : Ending → Nat
  | .done => 0
  | .failed => 1
  | .misused _ => 2
  | .crashed _ => 1

/-- What a run leaves behind. -/
structure Outcome where
  ending : Ending
  output : Printed := .nothing
  /-- The lines on standard error. -/
  messages : List String := []
  /-- The files that were written, in order. -/
  written : List (Path × String) := []
  workspace : Workspace

/-! ## Runs in progress -/

/-- How a run is cut short. -/
inductive Stop where
  /-- A line on standard error says why. -/
  | reported (line : String)
  | crash (c : Crash)

/-- The state of a run. -/
structure Progress where
  output : Printed := .nothing
  messages : List String := []
  written : List (Path × String) := []
  workspace : Workspace

/-- A step of a run: it may stop, and what was done before stays. -/
abbrev Step := ExceptT Stop (StateM Progress)

/-- Prints a line to standard error. -/
def say (line : String) : Step Unit :=
  modify fun p => { p with messages := p.messages ++ [Text.showHalves line] }

/-- Stops the run with a crash. -/
def crash {α : Type} (c : Crash) : Step α :=
  throw (.crash c)

/-- Prints a marked-up line to standard error. -/
def sayMarked (line : String) : Step Unit :=
  match Console.plain line with
  | .ok s => say s
  | .error fault => crash (.markup fault)

/-- The texts that are printed. -/
def Printed.texts : Printed → List String
  | .nothing => []
  | .text s => [s]
  | .table t => t.title :: t.rows.flatten

/-- Prints to standard output. -/
def print (output : Printed) : Step Unit :=
  if output.texts.any Text.hasHalf then crash .brokenText else modify fun p => { p with output }

/-- Prints a text to standard output, without the control sequences in it. -/
def printText (s : String) : Step Unit :=
  print (.text (Console.dropSequences s))

/-- Stops a run unless a result is there. -/
def expect {α ε : Type} (stop : ε → Stop) : Except ε α → Step α
  | .ok a => pure a
  | .error e => throw (stop e)

/-- Prints the notices of a reading, if warnings are logged. -/
def sayNotices (warnings : Bool) (notices : List Notice) : Step Unit :=
  if warnings then notices.forM fun n => say ("WARNING " ++ n.channel ++ ": " ++ n.text)
  else pure ()

/-! ## Failures -/

/-- A failure with its message. -/
def failure (message : String) : Stop :=
  .reported (Console.labelled "[red]Error:[/red] " message)

/-- A failure with its file. -/
def reported (file : Option Path) (message : String) : Stop :=
  failure (inContext (file.map fun f => ⟨f, none⟩) message)

/-- What unusable settings do to a run. -/
def settingsStop (file : Option Path) (e : SettingsError) : Stop :=
  match e.message? with
  | some message => reported file message
  | none => .crash (.settings e)

/-- What an unusable snapshot does to a run. -/
def snapshotStop (file : Path) (e : Design.LoadError) : Stop :=
  match e.message? with
  | some message => reported (some file) message
  | none => .crash (.snapshot e)

/-- What a failed detection does to a run. -/
def detectionStop : DetectionError → Stop
  | .source reason => failure reason
  | .number e => .crash (.number e)

/-! ## Steps -/

/-- The settings of a run: those of the given file, else of the nearest one. -/
def loadSettings (config : Option Path) (overrides : List (Key × Document)) : Step Settings := do
  let w := (← get).workspace
  let file := config.or (Settings.find? w w.currentPath)
  expect (settingsStop file) (Settings.load w file overrides)

/-- The design in a snapshot file. -/
def loadSource (file : Path) : Step Design.Source := do
  let snapshot ← expect (snapshotStop file) (Design.Snapshot.load (← get).workspace file)
  return snapshot.source

/-- Writes a file. -/
def write (file : Path) (content : String) : Step Unit := do
  let p ← get
  let w ← expect (fun t => .crash (.write t)) (p.workspace.writeText file content)
  set { p with workspace := w, written := p.written ++ [(file, content)] }

/-- Writes a file and says so. Of a text that cannot be written an empty file is left. -/
def save (file : Path) (content : String) : Step Unit := do
  if Text.hasHalf content then
    write file ""
    crash .brokenText
  write file content
  sayMarked ("Wrote " ++ file.text)

/-- Makes the folder that a file goes into. -/
def makeParent (file : Path) : Step Unit := do
  let p ← get
  let w ← expect (fun t => .crash (.write t)) (p.workspace.makeFolders file.parent)
  set { p with workspace := w }

/-- A line with a count, unless the count is zero. -/
def countLine (n : Nat) (what : String) : Step Unit :=
  if n = 0 then pure () else say ("  " ++ toString n ++ " " ++ what)

/-- Prints the summary of a report. -/
def summarize (r : Report) : Step Unit := do
  say ("✓ " ++ toString r.tokens ++ " variables from " ++ toString r.collections ++ " collections")
  countLine r.textStyles "text styles"
  countLine r.viewportProperties.length "viewport-relative values"
  countLine r.proportionProperties.length "grid proportions"
  countLine r.piecewiseProperties.length "piecewise values"
  countLine r.viewportAdvice.length "viewport-relative candidates"
  countLine r.nonLinearAdvice.length "non-linear candidates"
  r.diagnostics.forM fun d => say (Console.labelled "  [yellow]![/yellow] " d.text)

/-- The widths of a run, read from the design if that is asked for. -/
def chooseWidths (detecting : Bool) (s : Design.Source) (w : Widths) : Step Widths := do
  if detecting then
    match ← expect detectionStop (detect s) with
    | none =>
      say "No breakpoints detected; using configured widths"
      return w
    | some d =>
      sayMarked ("Breakpoints from [cyan]" ++ d.sourceName ++ "[/cyan]")
      return d.apply w
  else return w

/-! ## Commands -/

/-- Generates a stylesheet. -/
def runGenerate (env : Environment) (warnings : Bool) (r : GenerateRequest) : Step Unit := do
  let settings ← loadSettings r.config r.overrides
  let source ← loadSource r.snapshot
  let widths ← chooseWidths r.detect source settings.widths
  let g ← expect (fun e => .crash (.number e)) (generate source settings.options widths env.now)
  sayNotices warnings g.notices
  match r.output with
  | some file => do
    makeParent file
    save file g.css
  | none => printText (g.css ++ "\n")
  match r.report with
  | some file => do
    let content := Json.text g.report.document
    if Text.hasHalf content then crash .brokenReport
    save file content
  | none => pure ()
  summarize g.report

/-- A mode with its width, as a list of collections shows it. -/
def modeText (m : Mode) : String :=
  match m.width? with
  | some px => m.name ++ " (" ++ toString px ++ "px)"
  | none => m.name

/-- The row of a collection. -/
def collectionRow (c : Collection) : List String :=
  [c.name, c.domain, c.layer.label, ", ".intercalate (c.modes.map modeText), c.kind.label,
    toString c.tokenIds.length]

/-- Prints a table whose title and cells may hold markup. -/
def printTable (title : String) (rows : List (List String)) : Step Unit := do
  let shown := do
    return (⟨← Console.plain title, ← rows.mapM fun row => row.mapM Console.plain⟩ : Table)
  let t ← expect (fun fault => .crash (.markup fault)) shown
  print (.table t)

/-- Lists the collections of a snapshot. -/
def runScan (warnings : Bool) (r : ScanRequest) : Step Unit := do
  let settings ← loadSettings r.config []
  let source ← loadSource r.snapshot
  sayNotices warnings (scanNotices source settings.widths)
  let found := scan source settings.widths
  printTable "Collections"
    (["Collection", "Domain", "Layer", "Modes", "Type", "Variables"] :: found.map collectionRow)
  let tokens := (found.flatMap fun c => c.tokenIds).length
  say (toString found.length ++ " collections, " ++ toString tokens ++ " variables")

/-- The row of a device: its default width, and the width that was found. -/
def widthRow (d : Detected) (device : Device) : List String :=
  let found := match d.width? device with
    | some px => if px = 0 then "-" else toString px ++ "px"
    | none => "-"
  [device.label, toString (Widths.default.get device).px ++ "px", found]

/-- Compares the widths in a snapshot with the defaults. -/
def runBreakpoints (file : Path) : Step Unit := do
  let source ← loadSource file
  match ← expect detectionStop (detect source) with
  | none => throw (.reported "No viewport variable with breakpoint values found")
  | some d =>
    printTable ("Breakpoints from " ++ d.sourceName)
      (["Breakpoint", "Default", "Detected"] :: Device.all.map (widthRow d))

/-! ## Runs -/

/-- The log levels above that of warnings. -/
def quietLevels : List String := ["ERROR", "CRITICAL", "FATAL"]

/-- Whether warnings are logged. -/
def logsWarnings (env : Environment) (verbose : Bool) : Bool :=
  verbose || !quietLevels.contains (Text.upper (env.logLevel.getD ""))

/-- The version of the program. -/
def versionText : String := "varcss 0.1.0\n"

/-- The steps of a request. -/
def runRequest (env : Environment) (c : Call) : Step Unit :=
  let warnings := logsWarnings env c.verbose
  match c.request with
  | .version => print (.text versionText)
  | .help => pure ()
  | .generate r => runGenerate env warnings r
  | .scan r => runScan warnings r
  | .breakpoints file => runBreakpoints file

/-- The outcome of steps that started in a workspace. -/
def outcomeOf (steps : Step Unit) (w : Workspace) : Outcome :=
  let (result, p) := steps.run { workspace := w }
  let ended (ending : Ending) (messages : List String) : Outcome :=
    ⟨ending, p.output, messages, p.written, p.workspace⟩
  match result with
  | .ok () => ended .done p.messages
  | .error (.crash c) => ended (.crashed c) p.messages
  | .error (.reported line) => ended .failed (p.messages ++ [Text.showHalves line])

/-- Runs a command line. -/
def run (env : Environment) (args : List String) (w : Workspace) : Outcome :=
  match Call.ofArguments args with
  | .ok call => outcomeOf (runRequest env call) w
  | .error e => ⟨.misused e, .nothing, [], [], w⟩

end TokenSheet.Command
