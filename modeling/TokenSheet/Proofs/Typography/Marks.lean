import TokenSheet.Proofs.Section.Marks
import TokenSheet.Proofs.Typography.Names

/-!
What text styles are read as.

Of the values that a style has itself only the family is quoted. The names of styles are slugs and all
other values are words or references, so a text style is read as it is meant if its family stands for
itself between quotation marks, in each of the three forms.
-/

namespace TokenSheet

open Css (Value Mark Reads Balanced LineByLine braces textOf isQuotable)
open Design (RawTextStyle)
open Text (Over isWordChar)

namespace Typography

variable {propertyOf? : String → Option String} {style : RawTextStyle} {styles : List RawTextStyle}
  {p : StyleProperty} {v : String} {form : TextStyleForm} {lines : List String}

/-- What the value of a property is meant to be read as: a family that is no reference is quoted. -/
def valueMarks (propertyOf? : String → Option String) (style : RawTextStyle) (p : StyleProperty) :
    List Mark :=
  if p = .family ∧ boundProperty? propertyOf? style p = none then [.text style.fontFamily.toList]
  else []

/-- What the values of a style are meant to be read as. -/
def styleMarks (propertyOf? : String → Option String) (style : RawTextStyle) : List Mark :=
  StyleProperty.all.flatMap (valueMarks propertyOf? style)

/-- What a style is meant to be read as in a form. -/
def formMarks (form : TextStyleForm) (ms : List Mark) : List Mark :=
  if form = .properties then ms else braces ms

/-- What text styles are meant to be read as. -/
def marks (form : TextStyleForm) (propertyOf? : String → Option String)
    (styles : List RawTextStyle) : List Mark :=
  let each := styles.flatMap fun style => formMarks form (styleMarks propertyOf? style)
  if styles.isEmpty then []
  else bannerMark '-' ["TEXT STYLES — Composite typography tokens from text styles",
      "Format: " ++ formTitle form] :: if form = .properties then braces each else each

/-- Whether a text style is read as it is meant: its family, if it is written, stands for itself. -/
def Legible (propertyOf? : String → Option String) (style : RawTextStyle) : Prop :=
  boundProperty? propertyOf? style .family = none → Over isQuotable style.fontFamily

theorem balanced_styleMarks (propertyOf? : String → Option String) (style : RawTextStyle) :
    Balanced (styleMarks propertyOf? style) := by
  refine Balanced.flatMap _ fun p _ => ?_
  unfold valueMarks
  split
  · exact Css.balanced_text _
  · exact Css.balanced_nil

theorem balanced_marks (form : TextStyleForm) (propertyOf? : String → Option String)
    (styles : List RawTextStyle) : Balanced (marks form propertyOf? styles) := by
  have each := Balanced.flatMap styles
    (f := fun style => formMarks form (styleMarks propertyOf? style)) fun style _ => by
      unfold formMarks
      split
      · exact balanced_styleMarks propertyOf? style
      · exact (balanced_styleMarks propertyOf? style).braces
  unfold marks
  dsimp only
  split
  · exact Css.balanced_nil
  · have all : Balanced (if form = .properties then
        braces (styles.flatMap fun style => formMarks form (styleMarks propertyOf? style))
        else styles.flatMap fun style => formMarks form (styleMarks propertyOf? style)) := by
      split
      · exact each.braces
      · exact each
    exact (Css.balanced_comment _).append all

end Typography

end TokenSheet
