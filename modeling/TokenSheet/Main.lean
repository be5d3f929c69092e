import Std.Time.Zoned
import TokenSheet.Command.Run
import TokenSheet.Generation.Timestamp

/-!
The command line program: it reads the files that a request names, runs the request on them, and then writes and
prints what the run left behind.
-/

namespace TokenSheet

open Command

/-- The time of the clock. -/
def clockText : IO String := do
  let t ← Std.Time.PlainDateTime.now
  let moment : Timestamp := {
    day := ⟨t.date.year.toInt.toNat, t.date.month.val.toNat, t.date.day.val.toNat⟩
    hour := t.time.hour.val.toNat
    minute := t.time.minute.val.toNat
    second := t.time.second.val.toNat
    microsecond := t.time.nanosecond.val.toNat / 1000 }
  return moment.text

/-- What is at a location on the disk. -/
def nodeAt (here : Location) : IO (Option Node) := do
  try
    return some (.file (← IO.FS.readBinFile (Path.text ⟨"/", here⟩)))
  catch
    | .inappropriateType .. => return some .folder
    | _ => return none

/-- The workspace with all that is found along a path. -/
def lookAlong (here : Location) (w : Workspace) : List String → IO Workspace
  | [] => return w
  | part :: rest => do
    let next := if part = ".." then here.dropLast else here ++ [part]
    match ← nodeAt next with
    | some .folder => lookAlong next (w.put next .folder) rest
    | some n => return w.put next n
    | none => return w

/-- The workspace with all that is found along the paths of a request. -/
def lookAround (current : Location) (request : Request) : IO Workspace := do
  let folder : Path := ⟨"/", current⟩
  let paths := folder :: (request.paths settingsFile folder).map folder.below
  paths.foldlM (fun w p => lookAlong [] w p.parts) ⟨current, []⟩

/-- The text of a table, its cells between bars. -/
def Command.Table.text (t : Table) : String :=
  "\n".intercalate (t.title :: t.rows.map fun row => " | ".intercalate row) ++ "\n"

/-- Writes a file on the disk, with the folder that it goes into. -/
def writeOut (folder : Path) (file : Path) (content : String) : IO Unit := do
  let target := folder.below file
  IO.FS.createDirAll target.parent.text
  IO.FS.writeFile target.text content

/-- Prints what a run has to say, and writes its files. -/
def finish (current : Location) (o : Outcome) : IO UInt32 := do
  match o.output with
  | .nothing => pure ()
  | .text s => IO.print s
  | .table t => IO.print t.text
  o.written.forM fun f => writeOut ⟨"/", current⟩ f.1 f.2
  o.messages.forM IO.eprintln
  match o.ending with
  | .misused _ => IO.eprintln "Usage: varcss COMMAND [OPTIONS] [ARGUMENTS]"
  | .crashed _ => IO.eprintln "Aborted"
  | _ => pure ()
  return UInt32.ofNat o.ending.code

end TokenSheet

open TokenSheet in
/-- Runs a command line. -/
def main (args : List String) : IO UInt32 := do
  let environment : Command.Environment :=
    ⟨← IO.getEnv "VARCSS_LOG_LEVEL", ← clockText⟩
  let current := (Path.ofText (← IO.currentDir).toString).parts
  let workspace ← match Command.Call.ofArguments args with
    | .ok call => lookAround current call.request
    | .error _ => pure ⟨current, []⟩
  finish current (Command.run environment args workspace)
