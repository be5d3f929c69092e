import TokenSheet.Export.Options
import TokenSheet.Section.Basic

/-!
The comment at the top of a stylesheet: what it is, when it was made on request, and the two options that decide
how it reads.
-/

namespace TokenSheet

/-- The name of the output mode in the header. -/
def modeTitle : OutputMode → String
  | .fluid => "Fluid (clamp)"
  | .fixed => "Fixed (per-breakpoint)"

/-- The name of the direction in the header. -/
def directionTitle : Direction → String
  | .desktopFirst => "Desktop-first (max-width)"
  | .mobileFirst => "Mobile-first (min-width)"

/-- The header of a stylesheet; `date` is written only if the options ask for it. -/
def headerLines (o : Options) (date : Option String) : List String :=
  let dateLine := if o.timestamp then (date.map fun d => "Date: " ++ d).toList else []
  Section.banner '=' (["DESIGN TOKENS — Generated from design variables"] ++ dateLine ++
    ["Mode: " ++ modeTitle o.outputMode, "Direction: " ++ directionTitle o.direction])

end TokenSheet
