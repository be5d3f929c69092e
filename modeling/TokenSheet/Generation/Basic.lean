import TokenSheet.Catalog.Reading
import TokenSheet.Generation.Report
import TokenSheet.Stylesheet.Header
import TokenSheet.Typography.Composition

/-!
Generation: from a design to a stylesheet with its report.

The design is read into a catalog, the catalog is emitted below a header, and the composite text styles follow if
they are asked for. Nothing but the design, the options, the widths and the date decides the result.
-/

namespace TokenSheet

open Design (Source)

/-- A stylesheet with its report and the notices of the reading. -/
structure Generation where
  css : String
  report : Report
  notices : List Notice

/-- The lines of the composite text styles, if they are asked for. -/
def textStyleLines (o : Options) (s : Source) (c : Catalog) : Except NumberError (List String) :=
  if o.textStyles then
    Typography.compose o.textStyleForm (fun id => (c.token? id).map (·.property)) s.textStyles
  else .ok []

/-- The stylesheet of a design. -/
def generate (s : Source) (o : Options) (w : Widths) (date : Option String) :
    Except NumberError Generation := do
  let catalog ← Catalog.ofSource s w o
  let emission ← Emission.ofCatalog o catalog
  let styles ← textStyleLines o s catalog
  let lines := headerLines o date ++ emission.lines o.ids ++ styles
  let count := if o.textStyles then s.textStyles.length else 0
  return ⟨"\n".intercalate lines, Report.ofEmission catalog emission count, catalog.notices⟩

/-- The local collections of a design as they are classified, in order of their domains and layer names. -/
def scan (s : Source) (w : Widths) : List Collection :=
  (s.localCollections.map (Collection.ofRaw w)).mergeSort fun a b =>
    a.domain < b.domain || (a.domain == b.domain && a.layerName ≤ b.layerName)

/-- The notices of a scan, in the order of the design. -/
def scanNotices (s : Source) (w : Widths) : List Notice :=
  (s.localCollections.map (Collection.ofRaw w)).filterMap Collection.notice?

end TokenSheet
