import TokenSheet.Proofs.Section.Marks
import TokenSheet.Proofs.Section.Origins
import TokenSheet.Proofs.Stylesheet.References

/-!
When the sections of a catalog are read as they are meant.

What a section writes that is no number and no name of a property comes from the texts of its tokens,
from their ids and from the names of the collection and its modes. `Catalog.Legible` says what these
have to keep to; everything else is read as it is meant whatever the design.
-/

namespace TokenSheet

open Css (Value Reads Inside EndsComment isQuotable)
open Design (Source)
open Text (Over isWordChar)

variable {o : Options} {s : Source} {w : Widths} {cat : Catalog}

/-! ## Tokens -/

/-- Whether a token with a text for its value is read as it is meant. A token of texts quotes the text,
which then has to stand for itself, or writes it as a font style; where a reference has brought it
to a token of another type, it is written as it is. -/
def Token.Takes (t : Token) (x : String) : Prop :=
  match t.kind, isFontStyle x with
  | .string, false => Over isQuotable x
  | .string, true => Reads (keywordForm x) []
  | _, _ => Reads x []

namespace Token

variable {t : Token} {modeId : String} {v : Value Float}

theorem takes_of_reads {x : String} (other : t.kind ≠ .string) (reads : Reads x []) : t.Takes x := by
  unfold Takes
  split
  · rename_i kind _
    exact absurd kind other
  · rename_i kind _
    exact absurd kind other
  · exact reads

theorem legible_of_renderLiteral {l : Literal} (takes : ∀ x, l = .text x → t.Takes x)
    (run : t.renderLiteral l = .ok v) : v.Legible := by
  unfold renderLiteral at run
  split at run
  · obtain ⟨y, -, done⟩ := bind_eq_ok.1 run
    rw [← pure_eq_ok.1 done]
    exact Value.IsNumeric.legible t.over_unit
  · obtain ⟨y, -, done⟩ := bind_eq_ok.1 run
    rw [← pure_eq_ok.1 done]
    exact Value.IsNumeric.legible t.over_unit
  · rename_i x kind
    have here := takes x rfl
    rw [Takes, kind] at here
    rw [← Except.ok.inj run]
    cases style : isFontStyle x with
    | false =>
        rw [style] at here
        exact Value.legible_quoted_iff.2 here
    | true =>
        rw [style] at here
        exact here
  · rename_i l' _ _ _ _ no_text
    rw [← Except.ok.inj run]
    cases l' with
    | number x => exact Value.legible_of_word (Number.over_exactText x).word
    | flag b =>
        have digit : Over isWordChar (if b then "1" else "0") := by split <;> decide
        exact Value.legible_of_word digit
    | text x =>
        have here := takes x rfl
        unfold Takes at here
        split at here
        · rename_i kind _
          exact (no_text x kind rfl).elim
        · rename_i kind _
          exact (no_text x kind rfl).elim
        · exact here

end Token

/-! ## Catalogs -/

/-- Whether a text is a color in a notation. -/
def IsColorText (colors : ColorNotation) (x : String) : Prop :=
  ∃ red green blue alpha, colorText colors red green blue alpha = .ok x

/-- Whether the texts that a design brings into its sections keep to their places. -/
structure Catalog.Legible (o : Options) (cat : Catalog) : Prop where
  titles : ∀ c ∈ cat.rendered, ¬ EndsComment (Text.upper c.name)
  modes : ∀ c ∈ cat.rendered, c.IsFluid o → ∀ m ∈ c.modes, ¬ EndsComment m.name
  ids : o.ids = true → ∀ t ∈ cat.tokens, ¬ EndsComment t.id
  strings : ∀ t ∈ cat.tokens, t.kind = .string → ∀ modeId x,
    t.valueIn modeId = some (.literal (.text x)) → t.Takes x
  /-- Texts that come to a token of another type are colors, or texts that have been brought there
  along references. -/
  moved : o.references = .resolved → ∀ t ∈ cat.tokens, t.kind ≠ .string → ∀ modeId x,
    t.valueIn modeId = some (.literal (.text x)) → IsColorText o.colors x ∨ t.Takes x

namespace Catalog

theorem over_property (read : ofSource s w o = .ok cat) {t : Token} (mem : t ∈ cat.tokens) :
    Over isWordChar t.property := by
  obtain ⟨c, -, v, listing⟩ := (ofSource_listed read).2 t mem
  rw [listing.property]
  exact Css.over_propertyName _ _ _

theorem isColorText_of_literalOf? {colors : ColorNotation} {kind : TokenKind}
    {value : Design.RawValue} {x : String} (other : kind ≠ .string)
    (run : literalOf? colors kind value = .ok (some (.text x))) : IsColorText colors x := by
  unfold literalOf? at run
  split at run
  · obtain ⟨color, made, done⟩ := bind_eq_ok.1 run
    cases pure_eq_ok.1 done
    exact ⟨_, _, _, _, made⟩
  · cases run
  · exact absurd rfl other
  · cases run
  · cases run
  · cases run

theorem isColorText_of_ofRaw {colors : ColorNotation} {c : Collection} {v : Design.RawVariable}
    {t : Token} (run : Token.ofRaw colors c v = .ok t) (other : t.kind ≠ .string) {modeId x : String}
    (mem : (modeId, TokenValue.literal (.text x)) ∈ t.values) : IsColorText colors x := by
  obtain ⟨values, read, done⟩ := bind_eq_ok.1 run
  rw [← pure_eq_ok.1 done] at mem other
  obtain ⟨id, -, step⟩ := (mem_filterMapM read).1 mem
  obtain ⟨value?, value, done⟩ := bind_eq_ok.1 step
  obtain ⟨given, rfl, same⟩ := Option.map_eq_some_iff.1 (pure_eq_ok.1 done)
  cases same
  obtain ⟨raw?, -, value⟩ := bind_eq_ok.1 value
  split at value
  · cases value
  · cases pure_eq_ok.1 value
  · obtain ⟨literal?, made, done⟩ := bind_eq_ok.1 value
    obtain ⟨l, rfl, same⟩ := Option.map_eq_some_iff.1 (pure_eq_ok.1 done)
    cases same
    exact isColorText_of_literalOf? other made

/-- While references are preserved, the texts of tokens of other types are colors. -/
theorem isColorText_of_preserved (read : ofSource s w o = .ok cat) (kept : o.references = .preserved)
    {t : Token} (mem : t ∈ cat.tokens) (other : t.kind ≠ .string) {modeId x : String}
    (value : t.valueIn modeId = some (.literal (.text x))) : IsColorText o.colors x := by
  obtain ⟨unnamed, read, done⟩ := bind_eq_ok.1 read
  rw [kept] at done
  obtain ⟨tokens, readings, made⟩ := bind_eq_ok.1 read
  rw [← pure_eq_ok.1 done] at mem
  obtain ⟨u, unnamed_mem, rfl⟩ := List.mem_map.1 mem
  rw [← pure_eq_ok.1 made] at unnamed_mem
  obtain ⟨ts, group, listed⟩ := List.mem_flatten.1 unnamed_mem
  obtain ⟨c, -, reading⟩ := mem_mapM readings group
  obtain ⟨v, -, raw⟩ := mem_mapM reading listed
  -- naming references leaves literals as they are
  obtain ⟨⟨id, given⟩, inside, named⟩ := List.mem_map.1 (mem_of_lookup value)
  obtain ⟨rfl, same⟩ := Prod.mk.inj named
  cases given with
  | literal l =>
      cases same
      exact isColorText_of_ofRaw raw other inside
  | reference target property? => cases same

namespace Legible

variable (h : cat.Legible o) (read : ofSource s w o = .ok cat)
include h read

theorem value {t : Token} (mem : t ∈ cat.tokens) {modeId : String} {v : Value Float}
    (run : t.rendered o modeId = .ok (some v)) : v.Legible := by
  unfold Token.rendered at run
  split at run
  · rename_i value found
    cases value with
    | reference target property? =>
        cases property? with
        | none => cases run
        | some property =>
            have same := Except.ok.inj run
            split at same
            · cases same
              obtain ⟨id, u, token, rfl⟩ := ofSource_namesTargets read t mem modeId target _ found
              exact Value.legible_reference (over_property read (mem_tokens_of_token? token).1)
            · cases same
    | literal l =>
        obtain ⟨v, made, done⟩ := bind_eq_ok.1 run
        cases pure_eq_ok.1 done
        refine Token.legible_of_renderLiteral ?_ made
        rintro x rfl
        by_cases kind : t.kind = .string
        · exact h.strings t mem kind modeId x found
        · have color_or_taken : IsColorText o.colors x ∨ t.Takes x := by
            cases references : o.references with
            | preserved => exact .inl (isColorText_of_preserved read references mem kind found)
            | resolved => exact h.moved references t mem kind modeId x found
          rcases color_or_taken with ⟨red, green, blue, alpha, color⟩ | taken
          · exact Token.takes_of_reads kind (Css.reads_colorText color)
          · exact taken
  · cases run

theorem valueOf {tokens : List Token} (sub : tokens ⊆ cat.tokens) {v : Value Float}
    (value : IsValueOf o tokens v) : v.Legible := by
  cases value with
  | rendered mem run => exact h.value read (sub mem) run
  | numeric numbers => exact numbers.legible

/-- The section of a collection is read as it is meant. -/
theorem sectionOf {gate : Gate} {c : Collection} {sec : Section} (rendered : c ∈ cat.rendered)
    (run : sectionOf o gate c (cat.tokensIn c.id) = .ok sec) : sec.Legible o.ids := by
  have inside : cat.tokensIn c.id ⊆ cat.tokens := List.filter_subset_self _
  obtain ⟨d, draft, rfl⟩ := exists_draft_of_sectionOf run
  have written := draftOf_madeFrom draft
  refine ⟨h.titles c rendered, fun e mem => ?_, fun b mem => ?_⟩
  · obtain ⟨⟨t, mem, id, property⟩, value⟩ := written.entries e mem
    refine ⟨fun shown => ?_, ?_, fun v same => h.valueOf read inside (value v same)⟩
    · rw [id]
      exact h.ids shown t (inside mem)
    · rw [property]
      exact over_property read (inside mem)
  · obtain ⟨declarations, themes, label⟩ := written.blocks b mem
    refine ⟨fun d mem => ?_, themes, fun name block same => ?_⟩
    · obtain ⟨⟨t, mem, property⟩, value⟩ := declarations d mem
      refine ⟨?_, h.valueOf read inside value⟩
      rw [property]
      exact over_property read (inside mem)
    · obtain ⟨first, first_mem, last, last_mem, rfl⟩ := label name block same
      split at first_mem
      · rename_i fluid
        rw [if_pos fluid] at last_mem
        have mode {m : Mode} (mem : m ∈ Mode.widestFirst c.modes) : Inside (m.name ++ " ") :=
          Css.inside_of_not_endsComment (d := ' ')
            (h.modes c rendered fluid m (Mode.mem_widestFirst.1 mem)) (by decide) (by decide)
        have arrow : Inside "→ " := Css.inside_of_over (by decide)
        have split : Fluid.pieceLabel first last ++ " " =
            (first.name ++ " ") ++ "→ " ++ (last.name ++ " ") := by
          simp [Fluid.pieceLabel, ← String.toList_inj]
        rw [split]
        exact ((mode first_mem).append arrow).append (mode last_mem)
      · cases first_mem

end Legible

end Catalog

end TokenSheet
