import TokenSheet.Document.Basic

/-!
The tree of a TOML document while it is read.

Each table keeps a record of how it came to be (`Origin`), because a table may be declared once only and a key may
be set once only: `declare?`, `append?` and `assign?` fail where the format forbids the step. A path that leads
through an array of tables goes on in its last table.
-/

namespace TokenSheet.Toml

/-- How a table came to be: by a longer header, by its own header, or by a dotted key. A table that a dotted key
leads through counts as made by it. -/
inductive Origin where
  | implied
  | declared
  | dotted
deriving DecidableEq, Repr

/-- A value, an open table, or an array of tables, of which the last is open. -/
inductive Node where
  | leaf (value : Document)
  | table (origin : Origin) (entries : List (String × Node))
  | array (closed : List Document) (entries : List (String × Node))

/-- The entries of a table. -/
abbrev Entries := List (String × Node)

mutual

/-- The document of a node. -/
def Node.toDocument : Node → Document
  | .leaf value => value
  | .table _ entries => .mapping (Node.toEntries entries)
  | .array closed entries => .list (closed ++ [.mapping (Node.toEntries entries)])

/-- The entries of a table as a document. -/
def Node.toEntries : Entries → List (Key × Document)
  | [] => []
  | (name, node) :: rest => (.text name, Node.toDocument node) :: Node.toEntries rest

end

/-- Replaces the node of a key, or adds it at the end. -/
def setNode (name : String) (node : Node) : Entries → Entries
  | [] => [(name, node)]
  | (k, n) :: rest => if k = name then (k, node) :: rest else (k, n) :: setNode name node rest

/-- Makes a step in the table at the end of a path. Tables on the way are implied; no value may be in the way. -/
def atEnd? (step : String → Entries → Option Entries) : List String → Entries → Option Entries
  | [], _ => none
  | [k], es => step k es
  | k :: ks, es =>
    match es.lookup k with
    | none => do return setNode k (.table .implied (← atEnd? step ks [])) es
    | some (.table origin inner) => do return setNode k (.table origin (← atEnd? step ks inner)) es
    | some (.array closed inner) => do return setNode k (.array closed (← atEnd? step ks inner)) es
    | some (.leaf _) => none

/-- Declares a table, which may be new or implied so far. -/
def declareHere? (k : String) (es : Entries) : Option Entries :=
  match es.lookup k with
  | none => some (setNode k (.table .declared []) es)
  | some (.table .implied inner) => some (setNode k (.table .declared inner) es)
  | some _ => none

/-- Adds a table to an array of tables, which may be new. -/
def appendHere? (k : String) (es : Entries) : Option Entries :=
  match es.lookup k with
  | none => some (setNode k (.array [] []) es)
  | some (.array closed inner) =>
    some (setNode k (.array (closed ++ [.mapping (Node.toEntries inner)]) []) es)
  | some _ => none

/-- Declares the table at a path. -/
def declare? : List String → Entries → Option Entries :=
  atEnd? declareHere?

/-- Adds a table to the array at a path. -/
def append? : List String → Entries → Option Entries :=
  atEnd? appendHere?

/-- Sets a dotted key inside a table. The key may not be set before, and the tables on the way may not have a
header of their own. -/
def assign? (value : Document) : List String → Entries → Option Entries
  | [], _ => none
  | [k], es => if (es.lookup k).isSome then none else some (setNode k (.leaf value) es)
  | k :: ks, es =>
    match es.lookup k with
    | none => do return setNode k (.table .dotted (← assign? value ks [])) es
    | some (.table .declared _) => none
    | some (.table _ inner) => do return setNode k (.table .dotted (← assign? value ks inner)) es
    | some (.array ..) => none
    | some (.leaf _) => none

/-- Sets a dotted key inside the table at a path. -/
def assignAt? (value : Document) (key : List String) : List String → Entries → Option Entries
  | [], es => assign? value key es
  | p :: ps, es =>
    match es.lookup p with
    | some (.table origin inner) => do
      return setNode p (.table origin (← assignAt? value key ps inner)) es
    | some (.array closed inner) => do
      return setNode p (.array closed (← assignAt? value key ps inner)) es
    | _ => none

end TokenSheet.Toml
