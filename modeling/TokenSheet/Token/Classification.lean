import TokenSheet.Design.Basic
import TokenSheet.Text.Blank
import TokenSheet.Text.Case
import TokenSheet.Text.Listing
import TokenSheet.Viewport.Widths

/-!
Classification of collections by their names and by the names of their modes.

A name of the form `Space - 2. Aliases` has a domain in front of the hyphen and a layer name behind it; any
other name is its own domain. The layer follows from the first keyword of `layerWords` that occurs in
the name. Modes vary over widths only if every one of them names a device.
-/

namespace TokenSheet

open Text (lower mentions isBlank trimBlanks)

/-! ## Names of collections -/

/-- The parts of the name of a collection. -/
structure CollectionName where
  domain : String
  layerName : String
deriving DecidableEq, Repr

/-- Whether a character is an ASCII letter. -/
def isLatinLetter (c : Char) : Bool :=
  ('a' ≤ c && c ≤ 'z') || ('A' ≤ c && c ≤ 'Z')

/-- The text without a line feed at its very end. -/
def dropFinalFeed (s : List Char) : List Char :=
  if s.getLast? = some '\n' then s.dropLast else s

/-- Whether a layer name stands on one line: it is not empty, and no line ends inside it. Blanks in front
of it may hold line ends, but its last character counts even if it is blank. -/
def isLayerLine (s : List Char) : Bool :=
  let blanks := min (s.takeWhile isBlank).length (s.length - 1)
  !s.isEmpty && !(s.drop blanks).contains '\n'

/-- Splits a name at its first hyphen, if letters and blanks are all that stands before it. -/
def splitName? (name : List Char) : Option (List Char × List Char) :=
  let letters := name.takeWhile isLatinLetter
  match (name.dropWhile isLatinLetter).dropWhile isBlank with
  | '-' :: rest =>
    let line := dropFinalFeed rest
    if !letters.isEmpty && isLayerLine line then some (letters, trimBlanks line) else none
  | _ => none

/-- The parts of a name; without a layer name the whole name is the domain. -/
def CollectionName.ofName (name : String) : CollectionName :=
  match splitName? name.toList with
  | some (letters, layerName) => ⟨lower (String.ofList letters), String.ofList layerName⟩
  | none => ⟨lower name, "default"⟩

/-- The words that mark a layer, the first match counting. -/
def layerWords : List (String × Layer) := [
  ("foundation", .foundations), ("extended", .extendedAliases), ("2.1", .extendedAliases),
  ("alias", .aliases), ("mapping", .mappings)]

/-- The layer that a collection belongs to by its name. -/
def Layer.ofName (name : String) : Layer :=
  ((layerWords.find? fun w => mentions (lower name) w.1).map (·.2)).getD .other

/-! ## Modes -/

/-- Whether a mode name speaks of a theme. -/
def isThemeName (name : String) : Bool :=
  ["light", "dark"].any fun word => mentions (lower name) word

/-- What a list of modes varies over. -/
def ModeKind.ofModes (modes : List Mode) : ModeKind :=
  if modes.length ≤ 1 then .single
  else if modes.all (·.width?.isSome) then .breakpoint
  else if modes.any fun m => isThemeName m.name then .theme
  else .single

/-- A mode with the width of the device that it names. -/
def Mode.ofRaw (w : Widths) (m : Design.RawMode) : Mode :=
  ⟨m.id, m.name, w.ofMode? m.name⟩

/-- The collection as classified under given widths. -/
def Collection.ofRaw (w : Widths) (c : Design.RawCollection) : Collection :=
  let parts := CollectionName.ofName c.name
  let modes := c.modes.map (Mode.ofRaw w)
  { id := c.id
    name := c.name
    domain := parts.domain
    layerName := parts.layerName
    layer := .ofName c.name
    modes
    kind := .ofModes modes
    tokenIds := c.variableIds }

/-! ## Notices -/

/-- What is worth telling the user while a design is read. -/
inductive Notice where
  /-- Some modes name a device and some do not, so that the collection does not vary over widths. -/
  | unmatchedModes (collection : String) (modes : List String) (kind : ModeKind)
  /-- A token refers to a token that does not exist. -/
  | brokenReference (token : String)
  /-- The references of a token lead back to a token already met. -/
  | circularReference (token : String)
deriving DecidableEq, Repr

namespace Notice

/-- The text of a notice. -/
def text : Notice → String
  | .unmatchedModes collection modes kind =>
    "Collection '" ++ collection ++ "': modes " ++ Text.listing modes ++
      " match no breakpoint keyword; treating it as " ++ kind.label
  | .brokenReference token => "Broken alias: " ++ token ++ " references unknown variable"
  | .circularReference token =>
    "Circular alias: " ++ token ++ " references itself through a chain"

/-- The log channel that a notice goes to. -/
def channel : Notice → String
  | .unmatchedModes .. => "varcss.core.classifier"
  | .brokenReference _ => "varcss.core.graph"
  | .circularReference _ => "varcss.core.graph"

end Notice

/-- The notice about a collection with both kinds of modes, unless it is a theme collection. -/
def Collection.notice? (c : Collection) : Option Notice :=
  let unmatched := c.modes.filter (·.width?.isNone)
  if !unmatched.isEmpty && decide (unmatched.length < c.modes.length) && c.kind != .theme then
    some (.unmatchedModes c.name (unmatched.map (·.name)) c.kind)
  else none

/-- The first mode whose name holds a word, letter case apart. -/
def Collection.modeNamed? (c : Collection) (word : String) : Option Mode :=
  c.modes.find? fun m => mentions (lower m.name) word

end TokenSheet
