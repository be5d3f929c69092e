/-!
Design tokens: named values, one per mode of the collection that a token belongs to.

A collection has a domain (`space`, `color`), a layer in the hierarchy of references and a kind that says
what its modes vary over. The value of a token in a mode is either a reference to another token or a
literal. Values are kept in the order of the modes, and a mode without a value has no entry.
-/

namespace TokenSheet

/-- The position of a collection in the hierarchy of references. -/
inductive Layer where
  | foundations
  | aliases
  | extendedAliases
  | mappings
  | other
deriving DecidableEq, Repr

namespace Layer

/-- All layers, in the order in which they are written inside one domain. -/
def all : List Layer :=
  [.foundations, .aliases, .extendedAliases, .mappings, .other]

/-- The place of a layer in that order. -/
def rank : Layer → Nat
  | .foundations => 0
  | .aliases => 1
  | .extendedAliases => 2
  | .mappings => 3
  | .other => 4

/-- The name of a layer. -/
def label : Layer → String
  | .foundations => "foundations"
  | .aliases => "aliases"
  | .extendedAliases => "aliases-extended"
  | .mappings => "mappings"
  | .other => "other"

/-- The layer of a name. -/
def ofLabel? (s : String) : Option Layer :=
  all.find? fun l => l.label == s

end Layer

/-- What the modes of a collection vary over. -/
inductive ModeKind where
  | breakpoint
  | theme
  | single
deriving DecidableEq, Repr

/-- The name of a mode kind. -/
def ModeKind.label : ModeKind → String
  | .breakpoint => "breakpoint"
  | .theme => "theme"
  | .single => "single"

/-- The type that a token is declared with. -/
inductive TokenKind where
  | color
  | float
  | string
  | boolean
deriving DecidableEq, Repr

namespace TokenKind

/-- All token types. -/
def all : List TokenKind :=
  [.color, .float, .string, .boolean]

/-- The name of a token type. -/
def label : TokenKind → String
  | .color => "color"
  | .float => "float"
  | .string => "string"
  | .boolean => "boolean"

/-- The token type of a name. -/
def ofLabel? (s : String) : Option TokenKind :=
  all.find? fun k => k.label == s

end TokenKind

/-- A mode of a collection, with the viewport width it stands for if its name says one. -/
structure Mode where
  id : String
  name : String
  width? : Option Int
deriving DecidableEq, Repr

/-- The width of a mode in pixels; zero if it has none. -/
def Mode.px (m : Mode) : Int :=
  m.width?.getD 0

/-- A classified collection. -/
structure Collection where
  id : String
  name : String
  domain : String
  layerName : String
  layer : Layer
  modes : List Mode
  kind : ModeKind
  tokenIds : List String

/-- The first mode of a collection. -/
def Collection.firstMode? (c : Collection) : Option Mode :=
  c.modes.head?

/-- A literal value: a number, a boolean or a text; colors are texts. -/
inductive Literal where
  | number (value : Float)
  | flag (value : Bool)
  | text (value : String)

/-- A literal as a number, for the two kinds that have one. -/
def Literal.number? : Literal → Option Float
  | .number x => some x
  | .flag b => some (if b then 1.0 else 0.0)
  | .text _ => none

/-- The value of a token in one mode. -/
inductive TokenValue where
  /-- A reference to a token, with the property name of the target if the target is known. -/
  | reference (target : String) (property? : Option String)
  | literal (value : Literal)

/-- Whether a value is a reference. -/
def TokenValue.isReference : TokenValue → Bool
  | .reference .. => true
  | .literal _ => false

/-- A token with its values by mode. -/
structure Token where
  id : String
  name : String
  description : String
  collectionId : String
  collectionName : String
  domain : String
  layer : Layer
  kind : TokenKind
  values : List (String × TokenValue)
  /-- The custom property that the token is written as. -/
  property : String

namespace Token

/-- The value in a mode. -/
def valueIn (t : Token) (modeId : String) : Option TokenValue :=
  t.values.lookup modeId

/-- Whether a value in some mode is a reference. -/
def hasReference (t : Token) : Bool :=
  t.values.any (·.2.isReference)

/-- The number in a mode, if the value there is a literal that has one. -/
def numberIn (t : Token) (modeId : String) : Option Float :=
  match t.valueIn modeId with
  | some (.literal l) => l.number?
  | _ => none

/-- The characters in front of the last slash, if there is a slash. -/
def beforeLastSlash : List Char → Option (List Char)
  | [] => none
  | c :: rest => match beforeLastSlash rest with
    | some front => some (c :: front)
    | none => if c = '/' then some [] else none

/-- The folder of the token: its name up to the last slash. -/
def group (t : Token) : String :=
  String.ofList ((beforeLastSlash t.name.toList).getD [])

end Token

end TokenSheet
