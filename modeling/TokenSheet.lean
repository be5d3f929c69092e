import TokenSheet.Main
import TokenSheet.Number.Exact
import TokenSheet.Proofs.Catalog.Chains
import TokenSheet.Proofs.Css.Cascade
import TokenSheet.Proofs.Css.Widths
import TokenSheet.Proofs.Steps
import TokenSheet.Proofs.Css.References
import TokenSheet.Proofs.Section.Admission
import TokenSheet.Proofs.Section.Drafts
import TokenSheet.Proofs.Section.FluidDraft
import TokenSheet.Proofs.Section.StepFunction
import TokenSheet.Proofs.Catalog.Provenance
import TokenSheet.Proofs.Stylesheet.Run
import TokenSheet.Proofs.Section.Names
import TokenSheet.Proofs.Stylesheet.Ownership
import TokenSheet.Proofs.Section.SelfReference
import TokenSheet.Proofs.Stylesheet.SelfReference
import TokenSheet.Proofs.Css.Segments
import TokenSheet.Proofs.Section.PieceBlocks
import TokenSheet.Proofs.Section.Shown
import TokenSheet.Proofs.Section.Piecewise
import TokenSheet.Proofs.Section.Themes
import TokenSheet.Proofs.Section.Declared
import TokenSheet.Proofs.Stylesheet.OutputModes
import TokenSheet.Proofs.Lists
import TokenSheet.Proofs.Lockstep
import TokenSheet.Proofs.Catalog.Lookups
import TokenSheet.Proofs.Catalog.Flattening
import TokenSheet.Proofs.Generation.LookupFailures
import TokenSheet.Proofs.Catalog.Rearrangement
import TokenSheet.Proofs.Generation.DiscoveryOrder
import TokenSheet.Proofs.Section.ValueOrder
import TokenSheet.Proofs.Catalog.ModeOrder
import TokenSheet.Proofs.Generation.ModeOrder
import TokenSheet.Proofs.Section.Holders
import TokenSheet.Proofs.Stylesheet.DeclaredNames
import TokenSheet.Proofs.Stylesheet.References
import TokenSheet.Proofs.Section.Fallback
import TokenSheet.Proofs.Returns
import TokenSheet.Proofs.Number.Rounding
import TokenSheet.Proofs.Number.Magnitude
import TokenSheet.Proofs.Fluid.Totality
import TokenSheet.Proofs.Css.ColorRange
import TokenSheet.Proofs.Section.Totality
import TokenSheet.Proofs.Catalog.Totality
import TokenSheet.Proofs.Generation.Totality
import TokenSheet.Proofs.Section.Proportions
import TokenSheet.Proofs.Section.Overrides
import TokenSheet.Proofs.Css.Besides
import TokenSheet.Proofs.Section.OverrideTotality
import TokenSheet.Proofs.Stylesheet.Overrides
import TokenSheet.Proofs.Document.Fields
import TokenSheet.Proofs.Export.Layers
import TokenSheet.Proofs.Viewport.DetectedWidths
import TokenSheet.Proofs.Generation.LocalData
import TokenSheet.Proofs.Command.InputFiles
import TokenSheet.Proofs.Text.Alphabets
import TokenSheet.Proofs.Typography.Names
import TokenSheet.Proofs.Css.Reading
import TokenSheet.Proofs.Css.Marks
import TokenSheet.Proofs.Section.Marks
import TokenSheet.Proofs.Section.Origins
import TokenSheet.Proofs.Typography.Marks
import TokenSheet.Proofs.Stylesheet.Legible
import TokenSheet.Proofs.Generation.Reading
import TokenSheet.Proofs.Stylesheet.Locality
import TokenSheet.Proofs.Number.Exact
import TokenSheet.Proofs.Number.Decimal
import TokenSheet.Proofs.Fluid.Line
import TokenSheet.Proofs.Fluid.Deviation
import TokenSheet.Proofs.Fluid.Interpolation
import TokenSheet.Proofs.Workspace.Files
import TokenSheet.Proofs.Command.Saving
import TokenSheet.Proofs.Css.Terms
import TokenSheet.Proofs.Section.Units
import TokenSheet.Proofs.Section.PieceOrder
import TokenSheet.Proofs.Section.Additions
import TokenSheet.Proofs.Stylesheet.Advice
import TokenSheet.Proofs.Stylesheet.Additions
import TokenSheet.Proofs.Text.Slugs
import TokenSheet.Proofs.Css.PropertyNames
import TokenSheet.Proofs.Css.HexColors
import TokenSheet.Proofs.Css.Outline
import TokenSheet.Proofs.Stylesheet.Outline
import TokenSheet.Proofs.Css.Companions
import TokenSheet.Proofs.Stylesheet.Companions
import TokenSheet.Proofs.Section.Variation
import TokenSheet.Proofs.Text.Segments
import TokenSheet.Proofs.Fluid.ProportionWords
