import TokenSheet.Catalog.Basic
import TokenSheet.Document.Basic
import TokenSheet.Stylesheet.Emission

/-!
The report of a generation: counts, problems, the tokens that were written in a special form, and advice
about tokens that could be. `Report.document` is the report as a document, field by field.
-/

namespace TokenSheet

/-- What a generation has to tell besides the stylesheet. -/
structure Report where
  collections : Nat
  tokens : Nat
  diagnostics : List Diagnostic
  entries : List Css.Entry
  advice : List Advice
  textStyles : Nat

namespace Report

/-- The properties written relative to the viewport. -/
def viewportProperties (r : Report) : List String :=
  r.entries.filterMap fun e => match e.form with
    | .viewport _ => some e.property
    | _ => none

/-- The properties written as proportions of the grid. -/
def proportionProperties (r : Report) : List String :=
  r.entries.filterMap fun e => match e.form with
    | .proportion _ => some e.property
    | _ => none

/-- The properties that are interpolated piece by piece. -/
def piecewiseProperties (r : Report) : List String :=
  r.entries.filterMap fun e => match e.form with
    | .piecewise .. => some e.property
    | _ => none

/-- Advice to write a token relative to the viewport. -/
def viewportAdvice (r : Report) : List (String × String × ViewportHint) :=
  r.advice.filterMap fun a => match a with
    | .viewport property name hint => some (property, name, hint)
    | _ => none

/-- Notes on proportions of the grid. -/
def proportionAdvice (r : Report) : List (String × String × Nat) :=
  r.advice.filterMap fun a => match a with
    | .proportion property name columns => some (property, name, columns)
    | _ => none

/-- Tokens that vary, with how far they stray from a line. -/
def nonLinearAdvice (r : Report) : List (Token × Fluid.Profile Float) :=
  r.advice.filterMap fun a => match a with
    | .nonLinear t p => some (t, p)
    | _ => none

/-- The report of an emission. -/
def ofEmission (c : Catalog) (e : Emission) (textStyles : Nat) : Report where
  collections := c.collections.length
  tokens := c.tokens.length
  diagnostics := c.diagnostics
  entries := e.entries
  advice := e.advice
  textStyles := textStyles

/-! ## The report as a document -/

/-- A record with named fields. -/
def fields (entries : List (String × Document)) : Document :=
  .mapping (entries.map fun e => (.text e.1, e.2))

/-- A list of texts. -/
def texts (items : List String) : Document :=
  .list (items.map .text)

/-- An integer. -/
def whole (n : Int) : Document :=
  .number (.int n)

/-- A measured inner mode. -/
def strayDocument (s : Fluid.Stray Float) : Document :=
  fields [
    ("name", .text s.name), ("breakpoint_px", whole s.px), ("actual", .number (.real s.actual)),
    ("expected", .number (.real s.expected)), ("deviation", .number (.real s.deviation))]

/-- A mode with its value. -/
def sampleDocument (s : Fluid.NamedSample Float) : Document :=
  fields [("name", .text s.name), ("value", .number (.real s.value)), ("breakpoint_px", whole s.px)]

/-- A token that strays from a line. -/
def profileDocument (t : Token) (p : Fluid.Profile Float) : Document :=
  fields [
    ("css_name", .text t.property), ("original_name", .text t.name),
    ("collection_id", .text t.collectionId), ("collection_name", .text t.collectionName),
    ("group", .text t.group), ("interior", .list (p.interior.map strayDocument)),
    ("max_deviation", .number (.real p.greatest)),
    ("mode_values", .list (p.samples.map sampleDocument))]

/-- The report as a document. -/
def document (r : Report) : Document :=
  fields [
    ("collections", whole r.collections),
    ("variables", whole r.tokens),
    ("errors", texts (r.diagnostics.map Diagnostic.text)),
    ("viewport_relative_vars", texts r.viewportProperties),
    ("viewport_candidates", .list (r.viewportAdvice.map fun (property, name, hint) => fields [
      ("css_name", .text property), ("original_name", .text name), ("reason", .text hint.label)])),
    ("proportion_vars", texts r.proportionProperties),
    ("proportion_candidates", .list (r.proportionAdvice.map fun (property, name, columns) => fields [
      ("css_name", .text property), ("original_name", .text name), ("column_count", whole columns)])),
    ("non_linear_vars", texts r.piecewiseProperties),
    ("non_linear_candidates", .list (r.nonLinearAdvice.map fun (t, p) => profileDocument t p)),
    ("text_style_count", whole r.textStyles)]

end Report

end TokenSheet
