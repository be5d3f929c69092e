import TokenSheet.Document.Moment
import TokenSheet.Number.Text

/-!
Documents: the untyped data that a snapshot or a settings file holds.

All file formats are read into this one tree. Integers are kept apart from doubles, because an integer
may be of any size and because the two are told apart when a field is checked. A mapping keeps its
entries in the order of their first appearance and holds each key once (`insertEntry`). Keys that are numbers
or booleans are one key if they have one value, and the form of the first one is kept.
-/

namespace TokenSheet

/-- A number as written: an integer of any size, or a double. -/
inductive Number where
  | int (value : Int)
  | real (value : Float)

/-- A key of a mapping: a text, or another scalar with the value that tells it from others and the form it is
shown in. -/
inductive Key where
  | text (name : String)
  | scalar (value shown : String)
deriving DecidableEq, Repr

namespace Key

/-- How a key is named in a location. -/
def shown : Key → String
  | .text name => name
  | .scalar _ shown => shown

/-- Whether two keys stand for one entry. -/
def same : Key → Key → Bool
  | .text a, .text b => a == b
  | .scalar a _, .scalar b _ => a == b
  | _, _ => false

/-- An integer as a key. -/
def ofInt (n : Int) : Key :=
  .scalar (toString n) (toString n)

/-- A double as a key; without a fraction it has the value of an integer. -/
def ofDouble (x : Float) : Key :=
  let shown := Number.exactText x
  .scalar (((Binary.integer? x).map toString).getD shown) shown

/-- A boolean as a key: it has the value of one or zero. -/
def ofFlag (b : Bool) : Key :=
  ofInt (if b then 1 else 0)

end Key

/-- Untyped data. -/
inductive Document where
  | null
  | flag (value : Bool)
  | number (value : Number)
  | text (value : String)
  | moment (value : Moment)
  | list (items : List Document)
  | mapping (entries : List (Key × Document))

namespace Document

/-- The value of a text key. -/
def find? (entries : List (Key × Document)) (name : String) : Option Document :=
  entries.lookup (.text name)

/-- Sets the value of a key: an old entry keeps its place, a new one goes to the end. -/
def insertEntry (key : Key) (value : Document) :
    List (Key × Document) → List (Key × Document)
  | [] => [(key, value)]
  | (k, v) :: rest =>
    if k.same key then (k, value) :: rest else (k, v) :: insertEntry key value rest

/-- The mapping of a list of entries, where the last value of a key counts. -/
def ofEntries (entries : List (Key × Document)) : List (Key × Document) :=
  entries.foldl (fun done e => insertEntry e.1 e.2 done) []

/-- The key that a document stands for; lists and mappings are no keys. -/
def key? : Document → Option Key
  | .text s => some (.text s)
  | .null => some (.scalar "None" "None")
  | .flag b => some (.ofFlag b)
  | .number (.int n) => some (.ofInt n)
  | .number (.real x) => some (.ofDouble x)
  | .moment m => some (.scalar m.shown m.shown)
  | .list _ => none
  | .mapping _ => none

/-- Whether a value counts as absent where a filled one is asked for: null, false, zero and the empty
text, list and mapping. -/
def isEmptyValue : Document → Bool
  | .null => true
  | .flag value => !value
  | .number (.int n) => n == 0
  | .number (.real x) => x == 0
  | .text s => s.isEmpty
  | .moment _ => false
  | .list items => items.isEmpty
  | .mapping entries => entries.isEmpty

end Document

end TokenSheet
