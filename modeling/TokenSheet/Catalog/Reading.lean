import TokenSheet.Catalog.Literal
import TokenSheet.Catalog.Walk
import TokenSheet.Css.PropertyName

/-!
Reading a design into a catalog.

Only the collections of the design itself are read. Each id that a collection lists is looked up; an id that
the design does not know is passed over, and a failed look-up is kept as a problem. Then every reference
gets the property of its target, and on request the catalog is flattened.
-/

namespace TokenSheet

open Design (Source RawVariable RawValue)

namespace Token

/-- The value of a variable in a mode, for a token of its type. -/
def valueOf? (colors : ColorNotation) (v : RawVariable) (modeId : String) :
    Except NumberError (Option TokenValue) := do
  match ← v.valueIn modeId with
  | none => return none
  | some (.reference target) => return some (.reference target none)
  | some value => return (← literalOf? colors v.kind value).map .literal

/-- The values of a variable in the order of the modes; modes without a usable value have none. -/
def valuesOf (colors : ColorNotation) (v : RawVariable) (modeIds : List String) :
    Except NumberError (List (String × TokenValue)) :=
  modeIds.filterMapM fun id => do return (← valueOf? colors v id).map fun value => (id, value)

/-- The token of a variable that a collection lists. -/
def ofRaw (colors : ColorNotation) (c : Collection) (v : RawVariable) : Except NumberError Token := do
  let values ← valuesOf colors v (c.modes.map (·.id)).eraseDups
  return {
    id := v.id
    name := v.name
    description := v.description.getD ""
    collectionId := c.id
    collectionName := c.name
    domain := c.domain
    layer := c.layer
    kind := v.kind
    values
    property := Css.propertyName v.name c.domain c.layer }

end Token

namespace Catalog

/-- The variables that a collection lists, as far as the design knows them. -/
def listedVariables (s : Source) (c : Collection) : List RawVariable :=
  c.tokenIds.filterMap fun id => match s.lookup id with
    | .ok found => found
    | .error _ => none

/-- The look-ups of a collection that fail. -/
def failedLookupsOf (s : Source) (c : Collection) : List (String × String) :=
  c.tokenIds.filterMap fun id => match s.lookup id with
    | .ok _ => none
    | .error failure => some (id, failure.reason)

/-- The tokens of a collection. -/
def readTokens (s : Source) (colors : ColorNotation) (c : Collection) :
    Except NumberError (List Token) :=
  (listedVariables s c).mapM (Token.ofRaw colors c)

/-- The catalog of a design, its references without the properties of their targets. -/
def unnamed (s : Source) (w : Widths) (colors : ColorNotation) : Except NumberError Catalog := do
  let collections := s.localCollections.map (Collection.ofRaw w)
  let tokens ← collections.mapM (readTokens s colors)
  return {
    collections
    tokens := tokens.flatten
    failedLookups := collections.flatMap (failedLookupsOf s) }

/-- A value with the property of its target, where the target exists. -/
def nameValue (c : Catalog) : TokenValue → TokenValue
  | .literal l => .literal l
  | .reference target _ => .reference target ((c.token? target).map (·.property))

/-- A token with the properties of its targets. -/
def nameToken (c : Catalog) (t : Token) : Token :=
  { t with values := t.values.map fun v => (v.1, c.nameValue v.2) }

/-- Whether a value refers to a token that does not exist. -/
def isBroken (c : Catalog) : TokenValue → Bool
  | .literal _ => false
  | .reference target _ => (c.token? target).isNone

/-- The catalog with the properties of all targets. -/
def nameReferences (c : Catalog) : Catalog :=
  { c with
    tokens := c.tokens.map c.nameToken
    broken := (c.tokens.filter fun t => t.values.any fun v => c.isBroken v.2).map (·.name) }

/-- The catalog of a design. -/
def ofSource (s : Source) (w : Widths) (o : Options) : Except NumberError Catalog := do
  let named := (← unnamed s w o.colors).nameReferences
  match o.references with
  | .preserved => return named
  | .resolved => return named.flatten

end Catalog

end TokenSheet
