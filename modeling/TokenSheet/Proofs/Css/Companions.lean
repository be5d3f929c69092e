import TokenSheet.Proofs.Css.Cascade
import TokenSheet.Proofs.Css.PropertyNames

/-!
Names that read as companions.

The companion of a property is the property with a mark behind it, two hyphens and `fr`, and slugs keep
two hyphens in a row. So a token may be called what the companion of another one is called. Whether it
is can be told from the token alone: its own slug ends in the mark, or it has none and the slug of
its domain does (`exists_companion_iff`). Where a name goes on behind its domain, the hyphen between
them is not part of a mark, since a slug ends in no hyphen (`mark_suffix_join_iff`).
-/

namespace TokenSheet.Css

open Text (slug IsSlug)

variable {name domain : String} {layer : Layer} {p x : List Char}

/-- What a companion has behind the property. -/
def companionMark : List Char := ['-', '-', 'f', 'r']

/-- A token with this name is called what a companion may be called: its slug ends in the mark, or it
is called after its domain, and the slug of that does. -/
def NamesCompanion (name domain : String) (layer : Layer) : Prop :=
  companionMark <:+ (slug name).toList ∨
    slug name = "" ∧ layer ≠ .mappings ∧ companionMark <:+ (slug domain).toList

/-! ## Companions -/

theorem toList_companion (property : String) :
    (companion property).toList = property.toList ++ companionMark := by
  have mark : "--fr".toList = companionMark := by decide
  rw [companion, String.toList_append, mark]

/-! ## Names with their domains -/

/-- The hyphen in front of a slug belongs to no mark. -/
theorem mark_suffix_join_iff (front : IsSlug p) (back : IsSlug x) (named : x ≠ []) :
    companionMark <:+ p ++ '-' :: x ↔ companionMark <:+ x := by
  constructor
  · intro ending
    by_cases long : companionMark.length ≤ x.length
    · have behind : x <:+ p ++ '-' :: x := (List.suffix_cons '-' x).trans (List.suffix_append p _)
      exact List.suffix_of_suffix_length_le ending behind long
    · have short : ('-' :: x).length ≤ companionMark.length := by
        rw [List.length_cons]
        omega
      have inside : '-' :: x <:+ companionMark :=
        List.suffix_of_suffix_length_le (List.suffix_append p _) ending short
      obtain rfl | rfl : x = ['-', 'f', 'r'] ∨ x = ['f', 'r'] := by
        simpa [companionMark, List.suffix_cons_iff, named] using inside
      · exact absurd rfl back.2.1
      · -- the other hyphen of the mark would be the last character in front
        obtain ⟨start, split⟩ := ending
        have last : p = start ++ ['-'] := by
          rw [companionMark, List.append_cons start, List.append_left_inj] at split
          exact split.symm
        have hyphen : p.getLast? = some '-' := by rw [last, List.getLast?_concat]
        exact absurd hyphen front.2.2.1
  · intro ending
    exact ending.trans ((List.suffix_cons '-' x).trans (List.suffix_append p _))

theorem not_mark_suffix_nil : ¬ companionMark <:+ [] := by
  decide

/-- A name that stands alone and is empty has no domain, or no layer that shows it. -/
theorem eq_nil_of_standsAlone_nil (alone : standsAlone layer p [] = true)
    (shown : layer ≠ .mappings) : p = [] := by
  by_contra inDomain
  cases layer with
  | mappings => exact shown rfl
  | other => simp [standsAlone_other_nil inDomain] at alone
  | foundations => simp [standsAlone, startsWithPart, inDomain] at alone
  | aliases => simp [standsAlone, startsWithPart, inDomain] at alone
  | extendedAliases => simp [standsAlone, startsWithPart, inDomain] at alone

theorem mark_suffix_withDomain_iff (prefixed : IsSlug p) (named : IsSlug x) :
    companionMark <:+ withDomain layer p x ↔
      companionMark <:+ x ∨ x = [] ∧ layer ≠ .mappings ∧ companionMark <:+ p := by
  by_cases alone : standsAlone layer p x = true
  · rw [withDomain, if_pos alone]
    refine (or_iff_left ?_).symm
    intro named
    obtain ⟨nameless, shown, ending⟩ := named
    subst nameless
    rw [eq_nil_of_standsAlone_nil alone shown] at ending
    exact not_mark_suffix_nil ending
  · rw [withDomain, if_neg alone]
    have shown : layer ≠ .mappings := by
      intro mappings
      rw [mappings] at alone
      exact alone rfl
    rcases qualified_cases p x with ⟨nameless, same⟩ | ⟨nonempty, same⟩
    · rw [same, nameless]
      refine (or_iff_right not_mark_suffix_nil).symm.trans (or_congr_right ?_)
      simp [shown]
    · rw [same, mark_suffix_join_iff prefixed named nonempty]
      simp [nonempty]

/-! ## Properties that read as companions -/

theorem mark_suffix_identifier_iff (name domain : String) (layer : Layer) :
    companionMark <:+ identifier name domain layer ↔ NamesCompanion name domain layer := by
  rw [identifier_eq, mark_suffix_withDomain_iff (Text.isSlug_slug domain) (Text.isSlug_slug name),
    String.toList_eq_nil_iff]
  rfl

/-- A property is the companion of some property exactly if its token is named like one. -/
theorem exists_companion_iff (name domain : String) (layer : Layer) :
    (∃ text, propertyName name domain layer = companion ("--" ++ text)) ↔
      NamesCompanion name domain layer := by
  rw [← mark_suffix_identifier_iff]
  constructor
  · intro companioned
    obtain ⟨text, same⟩ := companioned
    rw [companion, String.append_assoc, propertyName_eq_iff] at same
    refine ⟨text.toList, ?_⟩
    rw [same, ← companion, toList_companion]
  · intro ending
    obtain ⟨front, ending⟩ := ending
    refine ⟨String.ofList front, ?_⟩
    rw [companion, String.append_assoc, propertyName_eq_iff, ← companion, toList_companion,
      String.toList_ofList, ending]

end TokenSheet.Css
