import TokenSheet.Document.Basic
import TokenSheet.Number.Double
import TokenSheet.Token.Basic

/-!
What a design tool exports: collections, variables and text styles.

The values of a variable stay untyped documents until a mode needs them; `RawValue.read` then narrows one
down to a reference, a color, a number, a text or a flag. `Source` is the view that the rest of the library
has of the design: a list of collections and a look-up of variables that may fail for single ids.
-/

namespace TokenSheet.Design

/-- A mode as exported. -/
structure RawMode where
  id : String
  name : String

/-- A collection as exported. -/
structure RawCollection where
  id : String
  name : String
  modes : List RawMode
  variableIds : List String
  remote : Bool

/-- A variable as exported, its values still untyped. -/
structure RawVariable where
  id : String
  name : String
  description : Option String
  kind : TokenKind
  values : List (String × Document)

/-- A line height or letter spacing with its unit. -/
structure Metric where
  unit : String
  value : Float

/-- A text style; `bindings` gives the variable that a property is bound to. -/
structure RawTextStyle where
  id : String
  name : String
  fontFamily : String
  fontStyle : String
  fontSize : Float
  lineHeight : Metric
  letterSpacing : Metric
  bindings : List (String × String)

/-- A whole export. -/
structure Snapshot where
  collections : List RawCollection
  variableRecords : List RawVariable
  textStyles : List RawTextStyle

/-- An export without content. -/
def Snapshot.empty : Snapshot := ⟨[], [], []⟩

/-! ## Raw values -/

/-- The value of a variable in one mode, as the design gives it. -/
inductive RawValue where
  | reference (target : String)
  | color (red green blue : Float) (alpha : Option Number)
  | number (value : Float)
  | text (value : String)
  | flag (value : Bool)

/-- The mark of a reference in an export. -/
def referenceMark : String := "VARIABLE_ALIAS"

/-- A number as a double. -/
def toDouble : Number → Except NumberError Float
  | .int n => doubleOfInt n
  | .real x => .ok x

/-- The number under a key. -/
def channel? (entries : List (Key × Document)) (name : String) : Option Number :=
  match Document.find? entries name with
  | some (.number n) => some n
  | _ => none

/-- The target of a marked reference with a text id. -/
def referenceTarget? (entries : List (Key × Document)) : Option String :=
  match Document.find? entries "type", Document.find? entries "id" with
  | some (.text mark), some (.text id) => if mark == referenceMark then some id else none
  | _, _ => none

/-- The value that a mapping stands for: a marked reference, or a color with three channels. -/
def readMapping (entries : List (Key × Document)) : Except NumberError (Option RawValue) :=
  match referenceTarget? entries with
  | some id => .ok (some (.reference id))
  | none =>
    match channel? entries "r", channel? entries "g", channel? entries "b" with
    | some r, some g, some b => do
      let red ← toDouble r
      let green ← toDouble g
      let blue ← toDouble b
      return some (.color red green blue (channel? entries "a"))
    | _, _, _ => .ok none

/-- Narrows an untyped value; nothing if it has none of the known shapes. -/
def RawValue.read : Document → Except NumberError (Option RawValue)
  | .mapping entries => readMapping entries
  | .flag b => .ok (some (.flag b))
  | .number n => do return some (.number (← toDouble n))
  | .text s => .ok (some (.text s))
  | .null => .ok none
  | .moment _ => .ok none
  | .list _ => .ok none

/-- The value of a variable in a mode. -/
def RawVariable.valueIn (v : RawVariable) (modeId : String) : Except NumberError (Option RawValue) :=
  match v.values.lookup modeId with
  | some d => RawValue.read d
  | none => .ok none

/-! ## Sources -/

/-- A look-up that the design tool did not answer, with the reason it gave. -/
structure LookupFailure where
  reason : String

/-- Read access to a design. -/
structure Source where
  collections : List RawCollection
  lookup : String → Except LookupFailure (Option RawVariable)
  textStyles : List RawTextStyle

/-- The variable with an id; the last one if several share it. -/
def Snapshot.lookup? (s : Snapshot) (id : String) : Option RawVariable :=
  s.variableRecords.reverse.find? fun v => v.id == id

/-- The design of a snapshot, where every look-up is answered. -/
def Snapshot.source (s : Snapshot) : Source where
  collections := s.collections
  lookup id := .ok (s.lookup? id)
  textStyles := s.textStyles

/-- The source in which the look-ups of some ids fail, each for its reason. -/
def Source.failingOn (s : Source) (reason? : String → Option String) : Source :=
  { s with
    lookup := fun id => match reason? id with
      | some reason => .error ⟨reason⟩
      | none => s.lookup id }

/-- The source in which the look-ups of the ids in a table fail. -/
def Source.withFailures (s : Source) (reasons : List (String × String)) : Source :=
  s.failingOn fun id => reasons.lookup id

/-- The collections that belong to the design itself. -/
def Source.localCollections (s : Source) : List RawCollection :=
  s.collections.filter fun c => !c.remote

end TokenSheet.Design
