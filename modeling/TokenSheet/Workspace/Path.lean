/-!
Paths of files, as texts and as lists of parts.

A path is read part by part: empty parts and single points are dropped, two points are kept. A path that starts
with a slash is absolute, and exactly two slashes at the start are kept as they are.
-/

namespace TokenSheet

/-- A path: what it starts from, and its parts. -/
structure Path where
  /-- The slashes at the start; none for a relative path. -/
  root : String
  parts : List String
deriving DecidableEq, Repr

namespace Path

/-- The parts of a text between slashes. -/
def splitSlashes : List Char → List (List Char)
  | [] => [[]]
  | c :: rest =>
    if c = '/' then [] :: splitSlashes rest
    else match splitSlashes rest with
      | [] => [[c]]
      | part :: parts => (c :: part) :: parts

/-- The start of a path with a count of slashes in front. -/
def rootOf (slashes : Nat) : String :=
  if slashes = 0 then "" else if slashes = 2 then "//" else "/"

/-- Whether a path holds the character that ends names on a disk, so that no file can be at it. -/
def hasEndMark (p : Path) : Bool :=
  p.parts.any fun part => part.toList.contains (Char.ofNat 0)

/-- The path that a text stands for. -/
def ofText (s : String) : Path :=
  let parts := (splitSlashes s.toList).filter fun p => !p.isEmpty && p != ['.']
  ⟨rootOf (s.toList.takeWhile (· == '/')).length, parts.map String.ofList⟩

/-- The text of a path; a point for the empty path. -/
def text (p : Path) : String :=
  if p.root.isEmpty && p.parts.isEmpty then "." else p.root ++ "/".intercalate p.parts

/-- The path of a part below a path. -/
def child (p : Path) (name : String) : Path :=
  { p with parts := p.parts ++ [name] }

/-- A path read from a base; an absolute path stays as it is. -/
def below (base p : Path) : Path :=
  if p.root.isEmpty then { base with parts := base.parts ++ p.parts } else p

/-- The path without its last part. -/
def parent (p : Path) : Path :=
  { p with parts := p.parts.dropLast }

/-- The paths from a path up to its start, the path itself first. -/
def upwards (p : Path) : List Path :=
  ((List.range (p.parts.length + 1)).map fun n => { p with parts := p.parts.take n }).reverse

/-- The ending of the last part, from its last point on; none if the point is at an end. -/
def ending (p : Path) : String :=
  let name := (p.parts.getLast?.getD "").toList
  let tail := (name.reverse.takeWhile (· != '.')).reverse
  let head := name.take (name.length - tail.length - 1)
  if tail.length < name.length && !tail.isEmpty && !head.isEmpty then String.ofList ('.' :: tail)
  else ""

end Path

/-! ## Messages about files -/

/-- The file that a message is about, perhaps with a key in it. -/
structure Context where
  file : Path
  key : Option String := none

/-- The text of a context. -/
def Context.text (c : Context) : String :=
  match c.key.filter (· != "") with
  | some key => c.file.text ++ " [" ++ key ++ "]"
  | none => c.file.text

/-- A message below the line of its context. -/
def inContext (context : Option Context) (message : String) : String :=
  match context with
  | some c => c.text ++ "\n" ++ message
  | none => message

end TokenSheet
