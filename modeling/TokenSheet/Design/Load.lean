import TokenSheet.Design.Snapshot
import TokenSheet.Document.Json
import TokenSheet.Document.Yaml.Reading
import TokenSheet.Workspace.Tree

/-!
Loading a snapshot from a file.

The ending of the file decides on the format, letter case apart. Every failure names the file.
-/

namespace TokenSheet.Design

/-- Why a file holds no snapshot. -/
inductive LoadError where
  /-- The text of the file cannot be had. -/
  | file (trouble : ReadTrouble)
  /-- The text holds no document. -/
  | text (fault : ReadFault)
  | invalid (error : SnapshotError)

/-- What is said about a document that is no snapshot. -/
def SnapshotError.message : SnapshotError → String
  | .notMapping => "Snapshot root must be a mapping"
  | .invalid _ => "Invalid snapshot"

/-- What is said about a file that holds no snapshot; nothing if its content is not text, if no file can have
its name, or if its text follows the format and only a value in it does not exist. -/
def LoadError.message? : LoadError → Option String
  | .file .unreadable => some "Cannot read snapshot"
  | .file _ => none
  | .text .malformed => some "Malformed snapshot"
  | .text _ => none
  | .invalid e => some e.message

/-- The endings of files in the block format. -/
def blockEndings : List String := [".yaml", ".yml"]

/-- The document of a text, in the format that a path asks for. -/
def parseDocument (path : Path) (s : String) : Except ReadFault Document :=
  if blockEndings.contains (Text.lower path.ending) then Yaml.parse s else Json.parse s

/-- The snapshot in a file. -/
def Snapshot.load (w : Workspace) (path : Path) : Except LoadError Snapshot := do
  let s ← (w.readText path).mapError .file
  let d ← (parseDocument path s).mapError .text
  (Snapshot.ofDocument d).mapError .invalid

end TokenSheet.Design
