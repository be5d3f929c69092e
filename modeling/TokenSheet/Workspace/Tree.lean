import TokenSheet.Text.Blank
import TokenSheet.Workspace.Path

/-!
Files and folders as a value.

A workspace lists the files and folders that are there, each at its location below the root, and the folder that
relative paths start from. Reading and writing go through `locate`, which follows a path part by part.
-/

namespace TokenSheet

/-- The parts of the way from the root to a file or folder. -/
abbrev Location := List String

/-- What is at a location. -/
inductive Node where
  | file (content : ByteArray)
  | folder

/-- Why a path cannot be reached or written. -/
inductive PathTrouble where
  /-- Nothing is at the path, or at a folder on the way to it. -/
  | missing
  /-- A part on the way is a file. -/
  | throughFile
  /-- The path is a folder. -/
  | isFolder
  /-- There is a file where a folder is asked for. -/
  | isFile
  /-- The path or one of its parts is longer than a disk allows. -/
  | tooLong
deriving DecidableEq, Repr

/-- Why the text of a file cannot be had. -/
inductive ReadTrouble where
  | unreadable
  /-- The content is not encoded text. -/
  | notText
  /-- The path holds a character that no name can have. -/
  | badPath
deriving DecidableEq, Repr

/-- What is said about a path that no file can be at. -/
def badPathMessage : String := "embedded null byte"

/-- The files and folders that are there. -/
structure Workspace where
  current : Location
  nodes : List (Location × Node)

namespace Workspace

/-- What is at a location. The root is always a folder. -/
def node? (w : Workspace) (here : Location) : Option Node :=
  if here.isEmpty then some .folder else w.nodes.lookup here

/-- The workspace with something at a location. -/
def put (w : Workspace) (here : Location) (n : Node) : Workspace :=
  { w with nodes := (here, n) :: w.nodes }

/-- The greatest size of a part of a path, in bytes. -/
def maxPartSize : Nat := 255

/-- The greatest size of a path, in bytes. -/
def maxPathSize : Nat := 4095

/-- Follows parts from a location. All but the last must be folders; two points lead up. -/
def follow (w : Workspace) (here : Location) : List String → Except PathTrouble Location
  | [] => .ok here
  | part :: rest =>
    match w.node? here with
    | none => .error .missing
    | some (.file _) => .error .throughFile
    | some .folder =>
      if maxPartSize < part.utf8ByteSize then .error .tooLong
      else follow w (if part = ".." then here.dropLast else here ++ [part]) rest

/-- The location of a path. -/
def locate (w : Workspace) (p : Path) : Except PathTrouble Location :=
  if maxPathSize < p.text.utf8ByteSize then .error .tooLong
  else w.follow (if p.root.isEmpty then w.current else []) p.parts

/-- What is at a path, if it can be reached. -/
def at? (w : Workspace) (p : Path) : Option Node :=
  match w.locate p with
  | .ok here => w.node? here
  | .error _ => none

/-- Whether there is a file at a path. -/
def isFile (w : Workspace) (p : Path) : Bool :=
  match w.at? p with
  | some (.file _) => true
  | _ => false

/-- The text of a file, with unified line ends. -/
def readText (w : Workspace) (p : Path) : Except ReadTrouble String :=
  if p.hasEndMark then .error .badPath
  else match w.at? p with
    | some (.file content) => match String.fromUTF8? content with
      | some s => .ok (String.ofList (Text.unifyLineEnds s.toList))
      | none => .error .notText
    | _ => .error .unreadable

/-- Writes a text into a file, which need not be there yet. -/
def writeText (w : Workspace) (p : Path) (s : String) : Except PathTrouble Workspace := do
  let here ← w.locate p
  match w.node? here with
  | some .folder => throw .isFolder
  | some (.file _) => return w.put here (.file s.toUTF8)
  | none =>
    match w.node? here.dropLast with
    | some .folder => return w.put here (.file s.toUTF8)
    | some (.file _) => throw .throughFile
    | none => throw .missing

/-- Makes a folder unless it is there; `asked` says whether it is the one that was asked for. -/
def makeFolder (asked : Bool) (w : Workspace) (p : Path) : Except PathTrouble Workspace := do
  let here ← w.locate p
  match w.node? here with
  | some .folder => return w
  | some (.file _) => throw (if asked then .isFile else .throughFile)
  | none => return w.put here .folder

/-- Makes a folder and all folders on the way to it. -/
def makeFolders (w : Workspace) (p : Path) : Except PathTrouble Workspace := do
  let w ← p.upwards.reverse.dropLast.foldlM (makeFolder false) w
  makeFolder true w p

/-- The path of the current folder. -/
def currentPath (w : Workspace) : Path :=
  ⟨"/", w.current⟩

/-- The nearest file of a name, in a folder or in one above it. -/
def findUpwards (w : Workspace) (start : Path) (name : String) : Option Path :=
  (start.upwards.map fun p => p.child name).find? w.isFile

end Workspace

end TokenSheet
