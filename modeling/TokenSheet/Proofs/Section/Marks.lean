import TokenSheet.Proofs.Css.Marks

/-!
What sections are read as.

A section is a banner with its title, its default block and its further blocks. A banner is one comment
of several lines: none of its texts may end it.
-/

namespace TokenSheet

open Css (Entry Block Mark Reads Inside EndsComment Balanced LineByLine braces textOf)

/-! ## Banners -/

/-- The texts of a banner, each on a line of its own. -/
def bannerLines : List String → String
  | [] => ""
  | s :: rest => "   " ++ (s ++ "\n") ++ bannerLines rest

/-- The comment that a banner is meant to be. -/
def bannerMark (sign : Char) (texts : List String) : Mark :=
  let rule := String.ofList (List.replicate 74 sign)
  .comment (" " ++ rule ++ "\n" ++ bannerLines texts ++ "   " ++ rule ++ " ").toList

theorem textOf_bannerLines (texts : List String) :
    textOf (texts.map fun s => "   " ++ s) ++ "\n" = "\n" ++ bannerLines texts := by
  induction texts with
  | nil => rfl
  | cons s rest ih =>
      rw [List.map_cons, textOf, String.append_assoc, ih, bannerLines]
      simp only [String.append_assoc]

theorem inside_bannerLines {texts : List String} (inside : ∀ s ∈ texts, Inside (s ++ "\n")) :
    Inside (bannerLines texts) := by
  induction texts with
  | nil => exact Css.inside_of_over (by decide)
  | cons s rest ih =>
      obtain ⟨here, there⟩ := List.forall_mem_cons.1 inside
      have indent : Inside "   " := Css.inside_of_over (by decide)
      exact (indent.append here).append (ih there)

theorem reads_banner (sign : Char) (texts : List String) (plain : sign ≠ '*')
    (inside : ∀ s ∈ texts, Inside (s ++ "\n")) :
    Reads (textOf (Section.banner sign texts)) [bannerMark sign texts] := by
  unfold Section.banner bannerMark
  dsimp only
  have rule_inside : Inside (String.ofList (List.replicate 74 sign)) := by
    refine Css.inside_of_over (Text.over_ofList.2 fun c mem => ?_)
    rw [List.eq_of_mem_replicate mem]
    exact bne_iff_ne.2 plain
  generalize String.ofList (List.replicate 74 sign) = rule at *
  have blank : Inside " " := Css.inside_of_over (by decide)
  have lineEnd : Inside "\n" := Css.inside_of_over (by decide)
  have indent : Inside "   " := Css.inside_of_over (by decide)
  have body := (((((blank.append rule_inside).append lineEnd).append
    (inside_bannerLines inside)).append indent).append rule_inside).append blank
  have whole : textOf (("/* " ++ rule) :: texts.map (fun s => "   " ++ s) ++
      ["   " ++ rule ++ " */", ""]) =
        "\n" ++ ("/*" ++ (" " ++ rule ++ "\n" ++ bannerLines texts ++ "   " ++ rule ++ " ") ++ "*/") ++
          "\n" := by
    have front : "/* " = "/*" ++ " " := rfl
    have back : " */" = " " ++ "*/" := rfl
    have join (x : String) : textOf (texts.map fun s => "   " ++ s) ++ ("\n" ++ x) =
        "\n" ++ (bannerLines texts ++ x) := by
      rw [← String.append_assoc, textOf_bannerLines, String.append_assoc]
    simp only [List.cons_append, Css.textOf_append, textOf, front, back, String.append_assoc, join,
      String.append_empty]
  have between : Reads "\n" [] := by decide
  rw [whole]
  exact (between.append (Css.reads_comment body)).append between

/-! ## Sections -/

/-- What a section is meant to be read as. -/
def Section.marks (ids : Bool) (s : Section) : List Mark :=
  if s.entries.isEmpty then []
  else bannerMark '-' [s.title] :: (braces (s.entries.flatMap (Entry.marks Fluid.gridColumns ids)) ++
    s.blocks.flatMap Block.marks)

/-- Whether a section is read as it is meant. -/
structure Section.Legible (ids : Bool) (s : Section) : Prop where
  title : ¬ EndsComment s.title
  entries : ∀ e ∈ s.entries, e.Legible ids
  blocks : ∀ b ∈ s.blocks, b.Legible

theorem Section.Legible.reads {ids : Bool} {s : Section} (h : s.Legible ids) :
    Reads (textOf (s.lines ids)) (s.marks ids) := by
  unfold lines marks
  split
  · rfl
  · have title : Inside (s.title ++ "\n") :=
      Css.inside_of_not_endsComment (d := '\n') h.title (by decide) (by decide)
    have banner := reads_banner '-' [s.title] (by decide) (List.forall_mem_singleton.2 title)
    have root : Reads Css.rootSelector [] := by decide
    have entries : LineByLine (Css.braced Css.rootSelector
        (s.entries.flatMap (Entry.lines Fluid.gridColumns ids)))
        (braces (s.entries.flatMap (Entry.marks Fluid.gridColumns ids))) :=
      .braced root (.flatMap fun e mem => (h.entries e mem).lineByLine)
    have blocks : Reads (textOf (s.blocks.flatMap Block.lines)) (s.blocks.flatMap Block.marks) :=
      Css.reads_flatMap fun b mem => (h.blocks b mem).reads
    have blank : Reads (textOf [""]) [] := by decide
    have all := ((banner.append entries.reads).append blocks).append blank
    rw [List.append_nil] at all
    rw [Css.textOf_append, Css.textOf_append, Css.textOf_append]
    exact all

theorem Section.balanced_marks (ids : Bool) (s : Section) : Balanced (s.marks ids) := by
  unfold marks
  split
  · exact Css.balanced_nil
  · have entries := Balanced.flatMap s.entries fun e _ =>
      e.balanced_marks Fluid.gridColumns ids
    have blocks := Balanced.flatMap s.blocks fun b _ => b.balanced_marks
    exact (Css.balanced_comment _).append (entries.braces.append blocks)

end TokenSheet
