import TokenSheet.Catalog.Literal
import TokenSheet.Proofs.Css.Reading
import TokenSheet.Proofs.Section.Drafts

/-!
What blocks are read as.

Every part of a stylesheet is meant to be read in one way: a value as the text that it quotes if it
quotes one, a block as its header, its declarations and its braces, an explanation as a comment
(`marks`). It is read in that way if the texts in it that come from a design keep to their places
(`Legible`): quoted texts stand for themselves, comments are not ended early, and all other texts have
nothing that stands out.
-/

namespace TokenSheet

open Css
open Text (Over isWordChar)

/-! ## Lines -/

namespace Css

variable {s : String} {ms ns : List Mark} {ls ls' : List String}

/-- The text of lines, each with a line end in front. -/
def textOf : List String → String
  | [] => ""
  | l :: rest => "\n" ++ l ++ textOf rest

theorem textOf_append (ls ls' : List String) : textOf (ls ++ ls') = textOf ls ++ textOf ls' := by
  induction ls with
  | nil => simp [textOf]
  | cons l rest ih => simp [textOf, ih, String.append_assoc]

/-- Groups of lines one after the other are read one after the other. -/
theorem reads_flatMap {α : Type} {xs : List α} {f : α → List String} {g : α → List Mark}
    (each : ∀ x ∈ xs, Reads (textOf (f x)) (g x)) : Reads (textOf (xs.flatMap f)) (xs.flatMap g) := by
  induction xs with
  | nil => rfl
  | cons x rest ih =>
      obtain ⟨here, there⟩ := List.forall_mem_cons.1 each
      rw [List.flatMap_cons, List.flatMap_cons, textOf_append]
      exact here.append (ih there)

theorem toList_textOf (ls : List String) :
    (textOf ls).toList = ls.flatMap fun l => '\n' :: l.toList := by
  induction ls with
  | nil => rfl
  | cons l rest ih =>
      rw [textOf, String.toList_append, String.toList_append, ih, List.flatMap_cons]
      rfl

theorem textOf_eq_intercalate (nonempty : ls ≠ []) : textOf ls = "\n" ++ "\n".intercalate ls := by
  induction ls with
  | nil => exact absurd rfl nonempty
  | cons l rest ih =>
      cases rest with
      | nil => simp [textOf]
      | cons l' rest =>
          rw [textOf, ih (List.cons_ne_nil _ _), String.intercalate_cons_cons]
          simp only [String.append_assoc]

/-- Lines with line ends between them are read as lines with line ends in front of them. -/
theorem reads_intercalate_iff (nonempty : ls ≠ []) :
    Reads ("\n".intercalate ls) ms ↔ Reads (textOf ls) ms := by
  have still : Place.plain.step '\n' = (.plain, []) := by decide
  have start : "\n".toList = ['\n'] := by decide
  rw [textOf_eq_intercalate nonempty, Reads, Reads, String.toList_append, start,
    List.singleton_append, Place.read_cons_of_step still]

/-- Lines that are read one by one. -/
inductive LineByLine : List String → List Mark → Prop where
  | nil : LineByLine [] []
  | cons {l : String} {rest : List String} {ms ns : List Mark} (here : Reads l ms)
      (there : LineByLine rest ns) : LineByLine (l :: rest) (ms ++ ns)

theorem LineByLine.reads (h : LineByLine ls ms) : Reads (textOf ls) ms := by
  induction h with
  | nil => rfl
  | cons here _ ih =>
      have lineEnd : Reads "\n" [] := by decide
      exact (lineEnd.append here).append ih

theorem LineByLine.single (h : Reads s ms) : LineByLine [s] ms := by
  rw [← List.append_nil ms]
  exact .cons h .nil

theorem LineByLine.append (h : LineByLine ls ms) (h' : LineByLine ls' ns) :
    LineByLine (ls ++ ls') (ms ++ ns) := by
  induction h with
  | nil => exact h'
  | cons here _ ih =>
      rw [List.cons_append, List.append_assoc]
      exact .cons here ih

theorem LineByLine.flatMap {α : Type} {xs : List α} {f : α → List String} {g : α → List Mark}
    (each : ∀ x ∈ xs, LineByLine (f x) (g x)) : LineByLine (xs.flatMap f) (xs.flatMap g) := by
  induction xs with
  | nil => exact .nil
  | cons x rest ih =>
      obtain ⟨here, there⟩ := List.forall_mem_cons.1 each
      rw [List.flatMap_cons, List.flatMap_cons]
      exact here.append (ih there)

theorem LineByLine.map {α : Type} {xs : List α} {f : α → String} {g : α → List Mark}
    (each : ∀ x ∈ xs, Reads (f x) (g x)) : LineByLine (xs.map f) (xs.flatMap g) := by
  rw [← List.flatMap_pure_eq_map]
  exact .flatMap fun x mem => .single (each x mem)

theorem LineByLine.inner (h : LineByLine ls ms) : LineByLine (ls.map inner) ms := by
  induction h with
  | nil => exact .nil
  | cons here _ ih =>
      have indent : Reads "  " [] := by decide
      exact .cons (indent.append here) ih

theorem LineByLine.braced {header : String} {hs : List Mark} (head : Reads header hs)
    (body : LineByLine ls ms) : LineByLine (braced header ls) (hs ++ braces ms) := by
  have opening : Reads " \x7b" [.opening] := by decide
  have closing : Reads "\x7d" [.closing] := by decide
  have all := LineByLine.cons (head.append opening) (body.inner.append (.single closing))
  rw [List.append_assoc] at all
  exact all

theorem LineByLine.blank (h : LineByLine ls ms) : LineByLine ("" :: ls) ms := by
  have blank : Reads "" [] := by decide
  exact .cons blank h

/-- Groups with blank lines between them. -/
theorem LineByLine.separated {α : Type} {xs : List α} {f : α → List String} {g : α → List Mark}
    (each : ∀ x ∈ xs, LineByLine (f x) (g x)) :
    LineByLine (separated (xs.map f)) (xs.flatMap g) := by
  induction xs with
  | nil => exact .nil
  | cons x rest ih =>
      obtain ⟨here, there⟩ := List.forall_mem_cons.1 each
      cases rest with
      | nil =>
          rw [List.flatMap_cons, List.flatMap_nil, List.append_nil]
          exact here
      | cons y rest => exact here.append (ih there).blank

/-! ## Comments -/

/-- The comment that a line is meant to be. -/
def commentMark (s : String) : Mark :=
  .comment (" " ++ s ++ " ").toList

theorem reads_commentLine (free : ¬ EndsComment s) : Reads (comment s) [commentMark s] :=
  reads_comment_iff.2 free

/-- A text without an asterisk ends no comment. -/
theorem not_endsComment_of_over (plain : Over (· != '*') s) : ¬ EndsComment s := by
  intro ends
  have inside := plain '*' (ends.subset (by decide))
  revert inside
  decide

theorem over_of_word (word : Over isWordChar s) : Over (· != '*') s :=
  word.ne (by decide)

/-! ## Values -/

namespace Value

/-- What a value is meant to be read as. -/
def marks : Value Float → List Mark
  | .quantity .. => []
  | .clamp .. => []
  | .viewportCapped .. => []
  | .reference _ => []
  | .quoted s => [.text s.toList]
  | .verbatim _ => []

/-- Whether a value is read as it is meant. -/
def Legible (v : Value Float) : Prop :=
  Reads v.text v.marks

/-- Whether a value is made of numbers with a unit that is a word. -/
def IsNumeric : Value Float → Prop
  | .quantity _ unit => Over isWordChar unit
  | .clamp _ _ _ unit => Over isWordChar unit
  | .viewportCapped _ unit => Over isWordChar unit
  | .reference _ => False
  | .quoted _ => False
  | .verbatim _ => False

theorem legible_quoted_iff : (Value.quoted s).Legible ↔ Over isQuotable s :=
  reads_quoted_iff

theorem legible_reference (word : Over isWordChar s) : (Value.reference s).Legible := by
  have inert := word.mono fun _ => isInert_of_isWordChar
  exact reads_of_inert ((Over.append (by decide) inert).append (by decide))

theorem legible_of_word (word : Over isWordChar s) : (Value.verbatim s).Legible :=
  reads_of_word word

theorem over_number (x : Float) : Over isInert (Scalar.text x) :=
  (Number.over_plainText x).word.mono fun _ => isInert_of_isWordChar

theorem over_preferred {unit : String} (inert : Over isInert unit) (p : Preferred Float) :
    Over isInert (p.text unit) := by
  cases p with
  | interceptFirst intercept slope =>
      exact ((((over_number intercept).append inert).append (by decide)).append
        (over_number slope)).append (by decide)
  | slopeFirst slope offset =>
      exact (((over_number slope).append (by decide)).append (over_number offset)).append inert

theorem IsNumeric.legible {v : Value Float} (h : v.IsNumeric) : v.Legible := by
  cases v with
  | quantity x unit =>
      have inert := Over.mono h fun _ => isInert_of_isWordChar
      exact reads_of_inert ((over_number x).append inert)
  | clamp lower p upper unit =>
      have inert := Over.mono h fun _ => isInert_of_isWordChar
      have opening : Over isInert "clamp(" := by decide
      have calculation : Over isInert ", calc(" := by decide
      have behind : Over isInert "), " := by decide
      have lowest := (opening.append (over_number lower)).append inert
      have middle := (lowest.append calculation).append (over_preferred inert p)
      have highest := ((middle.append behind).append (over_number upper)).append inert
      exact reads_of_inert (highest.append (by decide))
  | viewportCapped x unit =>
      have inert := Over.mono h fun _ => isInert_of_isWordChar
      exact reads_of_inert
        (((Over.append (by decide) (over_number x)).append inert).append (by decide))
  | reference => cases h
  | quoted => cases h
  | verbatim => cases h

end Value

/-! ## Colors -/

theorem reads_hexColor {red green blue : Float} {alpha : Option (Alpha Float)}
    (run : hexColor red green blue alpha = .ok s) : Reads s [] := by
  have byte (n : Int) : Reads (byteText n) [] := reads_of_word (over_byteText n)
  have sign : Reads "#" [] := by decide
  obtain ⟨r, -, run⟩ := bind_eq_ok.1 run
  obtain ⟨g, -, run⟩ := bind_eq_ok.1 run
  obtain ⟨b, -, run⟩ := bind_eq_ok.1 run
  have channels := ((sign.append (byte r)).append (byte g)).append (byte b)
  dsimp only at run
  split at run
  · rw [← pure_eq_ok.1 run]
    exact channels
  · obtain ⟨a, -, done⟩ := bind_eq_ok.1 run
    rw [← pure_eq_ok.1 done]
    exact channels.append (byte a)

theorem reads_polarColor {red green blue : Float} {alpha : Option (Alpha Float)}
    (run : polarColor red green blue alpha = .ok s) : Reads s [] := by
  have number (x : Float) : Reads (Scalar.text x) [] := reads_of_word (Number.over_plainText x).word
  have opening : Reads "oklch(" [] := by decide
  have blank : Reads " " [] := by decide
  obtain ⟨⟨lightness, chroma, hue⟩, -, run⟩ := bind_eq_ok.1 run
  have body := (((((number lightness).append blank).append (number chroma)).append blank).append
    (number hue))
  dsimp only at run
  split at run
  · have closing : Reads ")" [] := by decide
    rw [← pure_eq_ok.1 run]
    exact (opening.append body).append closing
  · have slash : Reads " / " [] := by decide
    have closing : Reads "%)" [] := by decide
    obtain ⟨a, -, done⟩ := bind_eq_ok.1 run
    rw [← pure_eq_ok.1 done]
    exact (((opening.append body).append slash).append
      (reads_of_word (Number.over_intText a).word)).append closing

/-- A color has nothing that stands out, in either notation. -/
theorem reads_colorText {colors : ColorNotation} {red green blue : Float} {alpha : Option Number}
    (run : colorText colors red green blue alpha = .ok s) : Reads s [] := by
  cases colors with
  | hex => exact reads_hexColor run
  | oklch => exact reads_polarColor run

/-! ## Declarations and entries -/

/-- A name that is a word declares what its value is read as. -/
theorem reads_declared {name text : String} (word : Over isWordChar name) (value : Reads text ms) :
    Reads (declared name text) ms := by
  have colon : Reads ": " [] := by decide
  have semicolon : Reads ";" [] := by decide
  have all := (((reads_of_word word).append colon).append value).append semicolon
  rw [List.append_nil] at all
  exact all

/-- What a declaration is meant to be read as. -/
def Declaration.marks (d : Declaration) : List Mark :=
  d.value.marks

/-- Whether a declaration is read as it is meant. -/
structure Declaration.Legible (d : Declaration) : Prop where
  property : Over isWordChar d.property
  value : d.value.Legible

theorem Declaration.Legible.reads {d : Declaration} (h : d.Legible) : Reads d.text d.marks :=
  reads_declared h.property h.value

namespace Entry

/-- The value of an entry; a proportion has a count of columns instead. -/
def value? (e : Entry) : Option (Value Float) :=
  match e.form with
  | .plain v => some v
  | .piecewise _ v => some v
  | .viewport v => some v
  | .proportion _ => none

/-- What an entry is meant to be read as. -/
def marks (gridColumns : Nat) (ids : Bool) (e : Entry) : List Mark :=
  let idMarks := if ids then [commentMark e.id] else []
  let noteMarks := ((e.parts gridColumns).1.map commentMark).toList
  match e.form with
  | .proportion _ => idMarks ++ noteMarks
  | .plain v => noteMarks ++ idMarks ++ v.marks
  | .piecewise _ v => noteMarks ++ idMarks ++ v.marks
  | .viewport v => noteMarks ++ idMarks ++ v.marks

/-- Whether an entry is read as it is meant. -/
structure Legible (ids : Bool) (e : Entry) : Prop where
  id : ids = true → ¬ EndsComment e.id
  property : Over isWordChar e.property
  value : ∀ v, e.value? = some v → v.Legible

theorem Legible.lineByLine {gridColumns : Nat} {ids : Bool} {e : Entry} (h : e.Legible ids) :
    LineByLine (e.lines gridColumns ids) (e.marks gridColumns ids) := by
  have idLine : LineByLine (if ids then [comment e.id] else [])
      (if ids then [commentMark e.id] else []) := by
    cases ids with
    | false => exact .nil
    | true => exact .single (reads_commentLine (h.id rfl))
  have number (n : Nat) : Over (· != '*') (toString n) := over_of_word (Number.over_natText n).word
  have companionWord : Over isWordChar (companion e.property) :=
    h.property.append (by decide)
  have value {v : Value Float} (value : e.value? = some v) :
      LineByLine [Css.declared e.property v.text] v.marks :=
    .single (reads_declared h.property (h.value v value))
  unfold value? at value
  unfold lines marks parts
  cases form : e.form with
  | plain v =>
      rw [form] at value
      exact idLine.append (value rfl)
  | piecewise n v =>
      rw [form] at value
      have free : ¬ EndsComment ("Piecewise clamp: non-linear scaling (" ++ toString n ++ " segments)") :=
        not_endsComment_of_over ((Over.append (by decide) (number n)).append (by decide))
      exact ((LineByLine.single (reads_commentLine free)).append idLine).append (value rfl)
  | viewport v =>
      rw [form] at value
      have free : ¬ EndsComment "Viewport-relative: uses min() instead of clamp()" := by decide
      exact ((LineByLine.single (reads_commentLine free)).append idLine).append (value rfl)
  | proportion n =>
      have free : ¬ EndsComment ("Proportion: " ++ toString n ++ "/" ++ toString gridColumns ++
          " columns (flex/grid-ready)") :=
        not_endsComment_of_over ((((Over.append (by decide) (number n)).append
          (by decide)).append (number gridColumns)).append (by decide))
      have count := reads_declared h.property (reads_of_word (Number.over_natText n).word)
      have fraction := reads_declared companionWord
        (reads_of_word ((Number.over_natText n).word.append (by decide : Over isWordChar "fr")))
      have counts := (LineByLine.single count).append (.single fraction)
      have all := (idLine.append (.single (reads_commentLine free))).append counts
      rw [List.append_nil, List.append_nil] at all
      exact all

end Entry

/-! ## Blocks -/

/-- What declarations below a selector are meant to be read as. -/
def ruleMarks (ds : List Declaration) : List Mark :=
  braces (ds.flatMap Declaration.marks)

/-- What declarations under a condition are meant to be read as. -/
def mediaMarks (ds : List Declaration) : List Mark :=
  braces (ruleMarks ds)

/-- What a theme that the page may choose is meant to be read as. -/
def ThemeBlock.marks (b : ThemeBlock) : List Mark :=
  .text b.theme.toList :: ruleMarks b.declarations

/-- The comment that explains the themes that the page may choose. -/
def themeMark : Mark :=
  .comment (" Explicit theme selectors - These override system preferences\n" ++
    "   and enable manual theme switching via JavaScript ").toList

/-- What a block is meant to be read as. -/
def Block.marks : Block → List Mark
  | .media b => mediaMarks b.declarations
  | .pieces label b =>
    commentMark ("Piecewise clamp: " ++ label ++ " segment") :: mediaMarks b.declarations
  | .scheme b => mediaMarks b.declarations
  | .chosenThemes bs =>
    themeMark :: bs.flatMap ThemeBlock.marks
  | .furtherTheme b => b.marks
  | .fallback bs =>
    commentMark "Fallback for older browsers" :: braces (bs.flatMap fun b => mediaMarks b.declarations)

/-- The themes that a block names. -/
def Block.themes : Block → List String
  | .media _ => []
  | .pieces .. => []
  | .scheme b => [b.theme]
  | .chosenThemes bs => bs.map (·.theme)
  | .furtherTheme b => [b.theme]
  | .fallback _ => []

/-- Whether a block is read as it is meant. -/
structure Block.Legible (b : Block) : Prop where
  declarations : ∀ d ∈ b.declarations, d.Legible
  themes : ∀ theme ∈ b.themes, Over isWordChar theme
  label : ∀ label block, b = .pieces label block → Inside (label ++ " ")

variable {ds : List Declaration}

theorem ruleLines_lineByLine {selector : String} {hs : List Mark} (head : Reads selector hs)
    (legible : ∀ d ∈ ds, d.Legible) : LineByLine (ruleLines selector ds) (hs ++ ruleMarks ds) :=
  .braced head (.map fun d mem => (legible d mem).reads)

theorem mediaLines_lineByLine {condition : String} (inert : Over isInert condition)
    (legible : ∀ d ∈ ds, d.Legible) : LineByLine (mediaLines condition ds) (mediaMarks ds) := by
  have head : Reads ("@media " ++ condition) [] :=
    reads_of_inert (Over.append (by decide) inert)
  have root : Reads rootSelector [] := by decide
  exact .braced head (ruleLines_lineByLine root legible)

theorem over_condition (c : Condition) : Over isInert c.text := by
  have number (n : Int) : Over isInert (toString n) :=
    (Number.over_intText n).word.mono fun _ => isInert_of_isWordChar
  cases c with
  | maxWidth px => exact (Over.append (by decide) (number px)).append (by decide)
  | minWidth px => exact (Over.append (by decide) (number px)).append (by decide)

theorem MediaBlock.lineByLine {b : MediaBlock} (legible : ∀ d ∈ b.declarations, d.Legible) :
    LineByLine b.lines (mediaMarks b.declarations) :=
  mediaLines_lineByLine (over_condition b.condition) legible

theorem ThemeBlock.ruleLines_lineByLine {b : ThemeBlock} (word : Over isWordChar b.theme)
    (legible : ∀ d ∈ b.declarations, d.Legible) : LineByLine b.ruleLines b.marks := by
  have quoted := reads_quoted_iff.2 (word.mono fun _ => isQuotable_of_isWordChar)
  have front : Reads "[data-theme=" [] := by decide
  have back : Reads "]" [] := by decide
  have selector : Reads (themeSelector b.theme) [.text b.theme.toList] := by
    have before : "[data-theme=\x22" = "[data-theme=" ++ "\x22" := by decide
    have behind : "\x22]" = "\x22" ++ "]" := by decide
    have split : "[data-theme=" ++ ("\x22" ++ b.theme ++ "\x22") ++ "]" =
        "[data-theme=\x22" ++ b.theme ++ "\x22]" := by
      rw [before, behind]
      simp only [String.append_assoc]
    have all := (front.append quoted).append back
    rw [split] at all
    exact all
  exact Css.ruleLines_lineByLine selector legible

theorem ThemeBlock.schemeLines_lineByLine {b : ThemeBlock} (word : Over isWordChar b.theme)
    (legible : ∀ d ∈ b.declarations, d.Legible) :
    LineByLine b.schemeLines (mediaMarks b.declarations) := by
  have inert := word.mono fun _ => isInert_of_isWordChar
  exact mediaLines_lineByLine ((Over.append (by decide) inert).append (by decide)) legible

theorem reads_pieceNote {label : String} (inside : Inside (label ++ " ")) :
    Reads (comment ("Piecewise clamp: " ++ label ++ " segment"))
      [commentMark ("Piecewise clamp: " ++ label ++ " segment")] := by
  have front : Inside (" " ++ "Piecewise clamp: ") := inside_of_over (by decide)
  have back : Inside ("segment" ++ " ") := inside_of_over (by decide)
  -- The blank behind the label belongs to it: behind an asterisk it is what keeps the comment open.
  have blank : " segment" = " " ++ "segment" := by decide
  have inside := (front.append inside).append back
  have split : " " ++ "Piecewise clamp: " ++ (label ++ " ") ++ ("segment" ++ " ") =
      " " ++ ("Piecewise clamp: " ++ label ++ " segment") ++ " " := by
    rw [blank]
    simp only [String.append_assoc]
  rw [split] at inside
  exact reads_comment_spaced inside

theorem reads_themeNote : Reads (textOf themeNote) [themeMark] := by
  have inside : Inside (" Explicit theme selectors - These override system preferences\n" ++
      "   and enable manual theme switching via JavaScript ") :=
    inside_of_over (Over.append (by decide) (by decide))
  have lineEnd : Reads "\n" [] := by decide
  have split : textOf themeNote = "\n" ++ ("/*" ++
      (" Explicit theme selectors - These override system preferences\n" ++
        "   and enable manual theme switching via JavaScript ") ++ "*/") := by decide +kernel
  rw [split]
  exact lineEnd.append (reads_comment inside)

theorem Block.Legible.reads {b : Block} (h : b.Legible) : Reads (textOf b.lines) b.marks := by
  have body : Reads (textOf b.body) b.marks := by
    cases b with
    | media b => exact (MediaBlock.lineByLine h.declarations).reads
    | pieces label b =>
        have note := reads_pieceNote (h.label label b rfl)
        exact (LineByLine.cons note (MediaBlock.lineByLine h.declarations)).reads
    | scheme b =>
        exact (ThemeBlock.schemeLines_lineByLine (h.themes _ List.mem_cons_self)
          h.declarations).reads
    | chosenThemes bs =>
        have rules : LineByLine (separated (bs.map ThemeBlock.ruleLines))
            (bs.flatMap ThemeBlock.marks) := by
          refine .separated fun b mem => ThemeBlock.ruleLines_lineByLine
            (h.themes _ (List.mem_map_of_mem mem)) fun d inside => h.declarations d ?_
          exact List.mem_flatMap.2 ⟨b, mem, inside⟩
        rw [body, textOf_append]
        exact reads_themeNote.append rules.reads
    | furtherTheme b =>
        exact (ThemeBlock.ruleLines_lineByLine (h.themes _ List.mem_cons_self)
          h.declarations).reads
    | fallback bs =>
        have note := reads_commentLine (s := "Fallback for older browsers") (by decide)
        have head : Reads withoutClamp [] := by decide
        have each : LineByLine (bs.flatMap MediaBlock.lines)
            (bs.flatMap fun b => mediaMarks b.declarations) :=
          .flatMap fun b mem => MediaBlock.lineByLine fun d inside =>
            h.declarations d (List.mem_flatMap.2 ⟨b, mem, inside⟩)
        exact (LineByLine.cons note (.braced head each)).reads
  have lineEnd : Reads ("\n" ++ "") [] := by decide
  exact lineEnd.append body

/-! ## Braces -/

theorem Value.balanced_marks (v : Value Float) : Balanced v.marks := by
  cases v with
  | quoted s => exact balanced_text _
  | _ => exact balanced_nil

theorem Entry.balanced_marks (gridColumns : Nat) (ids : Bool) (e : Entry) :
    Balanced (e.marks gridColumns ids) := by
  have idMarks : Balanced (if ids then [commentMark e.id] else []) := by
    cases ids with
    | false => exact balanced_nil
    | true => exact balanced_comment _
  have noteMarks : Balanced ((e.parts gridColumns).1.map commentMark).toList := by
    cases (e.parts gridColumns).1 with
    | none => exact balanced_nil
    | some note => exact balanced_comment _
  unfold marks
  dsimp only
  split
  · exact idMarks.append noteMarks
  all_goals exact (noteMarks.append idMarks).append (Value.balanced_marks _)

theorem balanced_ruleMarks (ds : List Declaration) : Balanced (ruleMarks ds) :=
  (Balanced.flatMap ds fun d _ => d.value.balanced_marks).braces

theorem balanced_mediaMarks (ds : List Declaration) : Balanced (mediaMarks ds) :=
  (balanced_ruleMarks ds).braces

theorem ThemeBlock.balanced_marks (b : ThemeBlock) : Balanced b.marks :=
  (balanced_text _).append (balanced_ruleMarks b.declarations)

theorem Block.balanced_marks (b : Block) : Balanced b.marks := by
  cases b with
  | media b => exact balanced_mediaMarks b.declarations
  | pieces label b => exact (balanced_comment _).append (balanced_mediaMarks b.declarations)
  | scheme b => exact balanced_mediaMarks b.declarations
  | chosenThemes bs =>
      exact (balanced_comment _).append (Balanced.flatMap bs fun b _ => b.balanced_marks)
  | furtherTheme b => exact b.balanced_marks
  | fallback bs =>
      have each := Balanced.flatMap bs fun b _ => balanced_mediaMarks b.declarations
      exact (balanced_comment _).append each.braces

/-! ## Quoted texts -/

variable {u : List Char}

theorem text_mem_braces : Mark.text u ∈ braces ms ↔ Mark.text u ∈ ms := by
  simp [braces]

/-- Only quoted values are read as texts. -/
theorem Value.exists_quoted {v : Value Float} (mem : Mark.text u ∈ v.marks) :
    ∃ x, v = .quoted x ∧ x.toList = u := by
  cases v with
  | quoted x => exact ⟨x, rfl, (Mark.text.inj (List.mem_singleton.1 mem)).symm⟩
  | _ => cases mem

theorem Entry.exists_quoted {gridColumns : Nat} {ids : Bool} {e : Entry}
    (mem : Mark.text u ∈ e.marks gridColumns ids) :
    ∃ x, e.value? = some (.quoted x) ∧ x.toList = u := by
  have idMarks : Mark.text u ∉ if ids then [commentMark e.id] else [] := by
    cases ids <;> simp [commentMark]
  have noteMarks : Mark.text u ∉ ((e.parts gridColumns).1.map commentMark).toList := by
    cases (e.parts gridColumns).1 <;> simp [commentMark]
  unfold marks at mem
  unfold value?
  cases form : e.form with
  | proportion n =>
      rw [form] at mem
      rcases List.mem_append.1 mem with mem | mem
      · exact absurd mem idMarks
      · exact absurd mem noteMarks
  | _ =>
      rw [form] at mem
      rcases List.mem_append.1 mem with mem | mem
      · rcases List.mem_append.1 mem with mem | mem
        · exact absurd mem noteMarks
        · exact absurd mem idMarks
      · obtain ⟨x, rfl, same⟩ := Value.exists_quoted mem
        exact ⟨x, rfl, same⟩

theorem exists_quoted_of_ruleMarks (mem : Mark.text u ∈ ruleMarks ds) :
    ∃ d ∈ ds, ∃ x, d.value = .quoted x ∧ x.toList = u := by
  obtain ⟨d, inside, mem⟩ := List.mem_flatMap.1 (text_mem_braces.1 mem)
  exact ⟨d, inside, Value.exists_quoted mem⟩

theorem exists_quoted_of_mediaMarks (mem : Mark.text u ∈ mediaMarks ds) :
    ∃ d ∈ ds, ∃ x, d.value = .quoted x ∧ x.toList = u :=
  exists_quoted_of_ruleMarks (text_mem_braces.1 mem)

theorem ThemeBlock.exists_quoted {b : ThemeBlock} (mem : Mark.text u ∈ b.marks) :
    (∃ d ∈ b.declarations, ∃ x, d.value = .quoted x ∧ x.toList = u) ∨ b.theme.toList = u := by
  rcases List.mem_cons.1 mem with same | mem
  · exact .inr (Mark.text.inj same).symm
  · exact .inl (exists_quoted_of_ruleMarks mem)

/-- The texts of a block are quoted values and names of themes. -/
theorem Block.exists_quoted {b : Block} (mem : Mark.text u ∈ b.marks) :
    (∃ d ∈ b.declarations, ∃ x, d.value = .quoted x ∧ x.toList = u) ∨
      ∃ theme ∈ b.themes, theme.toList = u := by
  cases b with
  | media b => exact .inl (exists_quoted_of_mediaMarks mem)
  | pieces label b =>
      rcases List.mem_cons.1 mem with same | mem
      · cases same
      · exact .inl (exists_quoted_of_mediaMarks mem)
  | scheme b => exact .inl (exists_quoted_of_mediaMarks mem)
  | chosenThemes bs =>
      rcases List.mem_cons.1 mem with same | mem
      · cases same
      · obtain ⟨b, block, mem⟩ := List.mem_flatMap.1 mem
        rcases ThemeBlock.exists_quoted mem with ⟨d, inside, quoted⟩ | same
        · exact .inl ⟨d, List.mem_flatMap.2 ⟨b, block, inside⟩, quoted⟩
        · exact .inr ⟨b.theme, List.mem_map_of_mem block, same⟩
  | furtherTheme b =>
      rcases ThemeBlock.exists_quoted mem with quoted | same
      · exact .inl quoted
      · exact .inr ⟨b.theme, List.mem_cons_self, same⟩
  | fallback bs =>
      rcases List.mem_cons.1 mem with same | mem
      · cases same
      · obtain ⟨b, block, mem⟩ := List.mem_flatMap.1 (text_mem_braces.1 mem)
        obtain ⟨d, inside, quoted⟩ := exists_quoted_of_mediaMarks mem
        exact .inl ⟨d, List.mem_flatMap.2 ⟨b, block, inside⟩, quoted⟩

end Css

end TokenSheet
