import TokenSheet.Text.Slug
import TokenSheet.Text.Segment
import TokenSheet.Token.Basic

/-!
Names of custom properties, and what a name says about the unit of a number.

A property name is two hyphens and a slug. Foundations and aliases carry the domain of their collection in
front, mappings never do, and other layers only if the name does not already start with a word that
reads as a domain.
-/

namespace TokenSheet.Css

open Text (slug hasAnySegment)

/-- The words that read as a domain at the start of a name. -/
def domainWords : List String :=
  ["typo", "space", "color", "dimension", "static", "size", "radius", "border"]

/-- Whether a name goes on with a hyphen after the given word. -/
def startsWithPart (name word : List Char) : Bool :=
  (word ++ ['-']).isPrefixOf name

/-- A name below a domain; a domain alone if the name is empty. -/
def qualified (domain name : List Char) : List Char :=
  if name.isEmpty then domain else domain ++ '-' :: name

/-- Whether a name is written without its domain. -/
def standsAlone (layer : Layer) (domain name : List Char) : Bool :=
  match layer with
  | .mappings => true
  | .foundations | .aliases | .extendedAliases =>
    domain.isEmpty || startsWithPart name domain || name == domain
  | .other =>
    domain.isEmpty || startsWithPart name domain ||
      domainWords.any fun word => startsWithPart name word.toList

/-- The slug that a token is known by. -/
def identifier (name domain : String) (layer : Layer) : List Char :=
  let nameSlug := (slug name).toList
  let domainSlug := (slug domain).toList
  if standsAlone layer domainSlug nameSlug then nameSlug else qualified domainSlug nameSlug

/-- The custom property of a token. -/
def propertyName (name domain : String) (layer : Layer) : String :=
  String.ofList ('-' :: '-' :: identifier name domain layer)

/-- The words of a name that mark a bare number. A line height is not among them: it is given in pixels. -/
def unitlessWords : List String := [
  "weight", "column-count", "column count", "columncount", "opacity", "z-index", "zindex", "z index",
  "order", "flex-grow", "flex-shrink", "flex grow", "flex shrink", "ratio", "columns", "rows", "count"]

/-- Whether a number with this name and property is written without a unit. -/
def isUnitless (name property : String) : Bool :=
  hasAnySegment name unitlessWords || hasAnySegment property unitlessWords

/-- The unit of the numbers of a token. -/
def unitOf (name property : String) : String :=
  if isUnitless name property then "" else "px"

end TokenSheet.Css
