import TokenSheet.Export.Options
import TokenSheet.Section.Basic
import TokenSheet.Typography.Style

/-!
Composite text styles as the last part of a stylesheet.

A property that is bound to a token is a reference to it; the others have the values of the style. The styles
come as mixins, as rules of classes, or as custom properties in one default block.
-/

namespace TokenSheet.Typography

open Design (RawTextStyle)

/-- The value of a property: a reference to the token that it is bound to, else that of the style.
`propertyOf?` gives the custom property of a token. -/
def boundValue (propertyOf? : String → Option String) (s : RawTextStyle) (p : StyleProperty) :
    Except NumberError String :=
  match ((s.bindings.lookup p.key).filter (· != "")).bind propertyOf? with
  | some property => .ok ("var(" ++ property ++ ")")
  | none => ownValue s p

/-- The six properties of a style with their values. -/
def propertyValues (propertyOf? : String → Option String) (s : RawTextStyle) :
    Except NumberError (List (StyleProperty × String)) :=
  StyleProperty.all.mapM fun p => do return (p, ← boundValue propertyOf? s p)

/-- The name of a form in the header of the section. -/
def formTitle : TextStyleForm → String
  | .mixin => "SCSS Mixins"
  | .ruleSet => "CSS Classes"
  | .properties => "CSS Custom Properties"

/-- The lines of one style in a form. -/
def styleLines (form : TextStyleForm) (name : String) (values : List (StyleProperty × String)) :
    List String :=
  let rules := values.map fun v => Css.declared v.1.cssName v.2
  match form with
  | .mixin => Css.braced ("@mixin " ++ name) rules
  | .ruleSet => Css.braced ("." ++ name) rules
  | .properties =>
    values.map fun v => Css.inner (Css.declared ("--" ++ name ++ "-" ++ v.1.suffix) v.2)

/-- The lines of one style, with a blank line after it. -/
def composedStyle (form : TextStyleForm) (propertyOf? : String → Option String) (s : RawTextStyle) :
    Except NumberError (List String) := do
  return styleLines form (styleSlug s.name) (← propertyValues propertyOf? s) ++ [""]

/-- The lines of all styles; none if there are no styles. -/
def compose (form : TextStyleForm) (propertyOf? : String → Option String)
    (styles : List RawTextStyle) : Except NumberError (List String) := do
  let bodies ← styles.mapM (composedStyle form propertyOf?)
  let banner := Section.banner '-' [
    "TEXT STYLES — Composite typography tokens from text styles", "Format: " ++ formTitle form]
  if styles.isEmpty then return []
  else if form = .properties then
    return banner ++ [Css.rootSelector ++ " \x7b"] ++ bodies.flatten ++ ["\x7d"]
  else return banner ++ bodies.flatten

end TokenSheet.Typography
