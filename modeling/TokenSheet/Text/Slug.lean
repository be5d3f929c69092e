import TokenSheet.Text.Blank
import TokenSheet.Text.Case

/-!
Slugs: the reduced form of a name that may stand in a custom property.

A slug holds small letters, digits and hyphens, has no hyphen at an end and never three in a row
(`IsSlug`). Two hyphens in a row are allowed, so that a doubled hyphen survives.
-/

namespace TokenSheet.Text

/-- Small letters, digits and the hyphen. -/
def isSlugChar (c : Char) : Bool :=
  ('a' ≤ c && c ≤ 'z') || ('0' ≤ c && c ≤ '9') || c = '-'

/-- Each run of blanks becomes one hyphen; `inRun` says whether the previous character was blank. -/
def joinBlanks (inRun : Bool) : List Char → List Char
  | [] => []
  | c :: rest =>
    if isBlank c then
      if inRun then joinBlanks true rest else '-' :: joinBlanks true rest
    else
      c :: joinBlanks false rest

/-- Keeps at most two hyphens of each run; `seen` counts those of the run so far. -/
def capHyphens (seen : Nat) : List Char → List Char
  | [] => []
  | c :: rest =>
    if c = '-' then
      if seen < 2 then '-' :: capHyphens (seen + 1) rest else capHyphens seen rest
    else
      c :: capHyphens 0 rest

/-- The text without the hyphens at its two ends. -/
def trimHyphens (s : List Char) : List Char :=
  (((s.dropWhile (· == '-')).reverse).dropWhile (· == '-')).reverse

/-- The characters of the slug of a text that is in lowercase already. -/
def slugOfLower (s : List Char) : List Char :=
  trimHyphens (capHyphens 0 ((joinBlanks false s).map fun c => if isSlugChar c then c else '-'))

/-- The slug of a name: lowercase, blanks and all other characters as hyphens, at most two hyphens in
a row and none at the ends. -/
def slug (name : String) : String :=
  String.ofList (slugOfLower (lower name).toList)

/-- The form that slugs have: slug characters only, no hyphen at an end, no three in a row. -/
def IsSlug (s : List Char) : Prop :=
  (∀ c ∈ s, isSlugChar c = true) ∧ s.head? ≠ some '-' ∧ s.getLast? ≠ some '-' ∧
    ¬ ['-', '-', '-'] <:+: s

end TokenSheet.Text
