import TokenSheet.Document.Check

/-!
The options of an export.

Each option has a name in documents (`outputMode`) and a plain name (`output_mode`). A document of options may
hold no other fields, and everything that is wrong with it is reported at once.
-/

namespace TokenSheet

/-- How breakpoint collections are written. -/
inductive OutputMode where
  | fluid
  | fixed
deriving DecidableEq, Repr

/-- Which end of the range of widths holds the default block. -/
inductive Direction where
  | mobileFirst
  | desktopFirst
deriving DecidableEq, Repr

/-- Whether references stay references or become literals. -/
inductive ReferenceMode where
  | preserved
  | resolved
deriving DecidableEq, Repr

/-- How theme collections choose between light and dark. -/
inductive ThemeOutput where
  | colorScheme
  | attribute
  | both
deriving DecidableEq, Repr

/-- The notation of colors. -/
inductive ColorNotation where
  | hex
  | oklch
deriving DecidableEq, Repr

/-- The form of composite text styles. -/
inductive TextStyleForm where
  | mixin
  | ruleSet
  | properties
deriving DecidableEq, Repr

/-- The names of the output modes. -/
def OutputMode.choices : List (String × OutputMode) :=
  [("fluid", .fluid), ("fixed", .fixed)]

/-- The names of the directions. -/
def Direction.choices : List (String × Direction) :=
  [("mobile-first", .mobileFirst), ("desktop-first", .desktopFirst)]

/-- The names of the reference modes. -/
def ReferenceMode.choices : List (String × ReferenceMode) :=
  [("preserved", .preserved), ("resolved", .resolved)]

/-- The names of the theme outputs. -/
def ThemeOutput.choices : List (String × ThemeOutput) :=
  [("prefers-color-scheme", .colorScheme), ("class", .attribute), ("both", .both)]

/-- The names of the color notations. -/
def ColorNotation.choices : List (String × ColorNotation) :=
  [("hex", .hex), ("oklch", .oklch)]

/-- The names of the forms of text styles. -/
def TextStyleForm.choices : List (String × TextStyleForm) :=
  [("scss-mixin", .mixin), ("css-class", .ruleSet), ("css-vars", .properties)]

/-- The name of a choice. -/
def choiceName {α : Type} [DecidableEq α] (choices : List (String × α)) (a : α) : String :=
  ((choices.find? fun c => c.2 = a).map (·.1)).getD ""

/-- All options of an export. -/
structure Options where
  outputMode : OutputMode := .fluid
  direction : Direction := .desktopFirst
  references : ReferenceMode := .preserved
  themes : ThemeOutput := .both
  colors : ColorNotation := .hex
  legacyFallbacks : Bool := false
  ids : Bool := false
  timestamp : Bool := false
  /-- Properties that are written relative to the viewport. -/
  viewportRelative : List String := []
  /-- Properties that are interpolated piece by piece. -/
  piecewise : List String := []
  textStyles : Bool := false
  textStyleForm : TextStyleForm := .properties

/-- Why a document holds no options. -/
structure OptionsError where
  failures : List Failure

namespace Options

/-- Whether the widest mode is the default. -/
def desktopFirst (o : Options) : Bool :=
  o.direction == .desktopFirst

/-- Whether themes follow the color scheme of the system. -/
def followsScheme (o : Options) : Bool :=
  o.themes == .colorScheme || o.themes == .both

/-- Whether themes follow an attribute of the page. -/
def followsAttribute (o : Options) : Bool :=
  o.themes == .attribute || o.themes == .both

/-- The names of the fields, in documents and plain. -/
def fields : List (String × String) := [
  ("outputMode", "output_mode"),
  ("breakpointDirection", "breakpoint_direction"),
  ("aliasMode", "alias_mode"),
  ("darkModeOutput", "dark_mode_output"),
  ("colorFormat", "color_format"),
  ("includeLegacyFallbacks", "include_legacy_fallbacks"),
  ("includeIds", "include_ids"),
  ("includeTimestamp", "include_timestamp"),
  ("viewportRelativeOverrides", "viewport_relative_overrides"),
  ("nonLinearOverrides", "non_linear_overrides"),
  ("includeTextStyles", "include_text_styles"),
  ("textStyleFormat", "text_style_format")]

open Check in
/-- The options of a record. -/
def check (es : List (Key × Document)) : Checked Options :=
  (fun a b c d e f g h i j k l _ => Options.mk a b c d e f g h i j k l)
    <$> optional es "outputMode" "output_mode" .fluid (choice OutputMode.choices)
    <*> optional es "breakpointDirection" "breakpoint_direction" .desktopFirst
      (choice Direction.choices)
    <*> optional es "aliasMode" "alias_mode" .preserved (choice ReferenceMode.choices)
    <*> optional es "darkModeOutput" "dark_mode_output" .both (choice ThemeOutput.choices)
    <*> optional es "colorFormat" "color_format" .hex (choice ColorNotation.choices)
    <*> optional es "includeLegacyFallbacks" "include_legacy_fallbacks" false flag
    <*> optional es "includeIds" "include_ids" false flag
    <*> optional es "includeTimestamp" "include_timestamp" false flag
    <*> optional es "viewportRelativeOverrides" "viewport_relative_overrides" [] (list text)
    <*> optional es "nonLinearOverrides" "non_linear_overrides" [] (list text)
    <*> optional es "includeTextStyles" "include_text_styles" false flag
    <*> optional es "textStyleFormat" "text_style_format" .properties (choice TextStyleForm.choices)
    <*> onlyFields fields es

/-- The options of a mapping. -/
def ofEntries (es : List (Key × Document)) : Except OptionsError Options :=
  (check es).toExcept.mapError .mk

end Options

end TokenSheet
