import TokenSheet.Text.Case

/-!
Keywords as segments of a name.

A keyword counts only where it is bounded on both sides by an end of the text or by one of the
separators hyphen, slash, point and space, so that `order` is not found inside `border`.
-/

namespace TokenSheet.Text

/-- The characters that separate the segments of a name. -/
def segmentSeparators : List Char :=
  ['-', '/', '.', ' ']

/-- Whether a segment may end here: at an end of the text or beside a separator. -/
def isSegmentEdge : Option Char → Bool
  | none => true
  | some c => segmentSeparators.contains c

/-- Looks for a bounded occurrence of `keyword`; `before` is the character in front of the text. -/
def segmentFrom (keyword : List Char) (before : Option Char) : List Char → Bool
  | [] => false
  | c :: rest =>
    (isSegmentEdge before && keyword.isPrefixOf (c :: rest) &&
      isSegmentEdge ((c :: rest).drop keyword.length).head?) ||
    segmentFrom keyword (some c) rest

/-- Whether `keyword` occurs in `text` as a whole segment or a run of whole segments. -/
def hasSegment (text keyword : String) : Bool :=
  !keyword.toList.isEmpty && segmentFrom keyword.toList none text.toList

/-- Whether one of the keywords is a segment of the text, letter case apart. -/
def hasAnySegment (text : String) (keywords : List String) : Bool :=
  let low := lower text
  keywords.any (hasSegment low ·)

end TokenSheet.Text
