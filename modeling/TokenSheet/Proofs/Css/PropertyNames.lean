import TokenSheet.Css.PropertyName
import TokenSheet.Proofs.Text.Slugs

/-!
Names of properties as names of tokens.

A name joined to its domain is a slug again, so a property name is two hyphens and a slug, and a token
that is named by its own property is known by the same slug. Whether it keeps the property is decided by
the domain alone: a layer puts a name below a domain only if the name does not show the domain already,
and each layer recognizes what it has put together itself (`standsAlone_withDomain_iff`). One case is
missed: a name that is nothing but the domain, in the layers that look for words.
-/

namespace TokenSheet.Css

open Text (slug IsSlug)

variable {name domain : String} {layer : Layer} {p x : List Char}

/-! ## Names below a domain -/

/-- A name below a domain is the domain alone, or it goes on behind the domain. -/
theorem qualified_cases (p x : List Char) :
    x = [] ∧ qualified p x = p ∨ x ≠ [] ∧ qualified p x = p ++ '-' :: x := by
  cases x with
  | nil => exact .inl ⟨rfl, rfl⟩
  | cons c rest => exact .inr ⟨List.cons_ne_nil c rest, rfl⟩

theorem startsWithPart_append (p x : List Char) : startsWithPart (p ++ '-' :: x) p = true := by
  rw [startsWithPart, List.isPrefixOf_iff_prefix, List.append_cons p '-' x]
  exact List.prefix_append _ x

theorem startsWithPart_self (p : List Char) : startsWithPart p p = false := by
  rw [startsWithPart, ← Bool.not_eq_true, List.isPrefixOf_iff_prefix]
  intro inside
  have longer := inside.length_le
  rw [List.length_append, List.length_singleton] at longer
  omega

/-! ## What stands alone -/

/-- Without a domain every name stands alone. -/
theorem standsAlone_nil (layer : Layer) (x : List Char) : standsAlone layer [] x = true := by
  cases layer <;> rfl

theorem standsAlone_of_startsWithPart (layer : Layer) (below : startsWithPart x p = true) :
    standsAlone layer p x = true := by
  cases layer <;> simp [standsAlone, below]

/-- Where no word is looked for, the domain itself stands alone. -/
theorem standsAlone_self (known : layer ≠ .other) (p : List Char) :
    standsAlone layer p p = true := by
  cases layer <;> simp_all [standsAlone]

theorem standsAlone_self_other (inDomain : p ≠ []) :
    standsAlone .other p p = domainWords.any fun word => startsWithPart p word.toList := by
  simp [standsAlone, startsWithPart_self, inDomain]

theorem standsAlone_other_nil (inDomain : p ≠ []) : standsAlone .other p [] = false := by
  simp [standsAlone, startsWithPart, inDomain, domainWords]

/-! ## Names with their domains -/

/-- A name in a domain, as a layer writes it. -/
def withDomain (layer : Layer) (p x : List Char) : List Char :=
  if standsAlone layer p x then x else qualified p x

theorem identifier_eq (name domain : String) (layer : Layer) :
    identifier name domain layer = withDomain layer (slug domain).toList (slug name).toList := rfl

theorem withDomain_mappings (p x : List Char) : withDomain .mappings p x = x :=
  if_pos rfl

theorem isSlug_withDomain (layer : Layer) (prefixed : IsSlug p) (named : IsSlug x) :
    IsSlug (withDomain layer p x) := by
  unfold withDomain
  split
  · exact named
  · rename_i below
    have inDomain : p ≠ [] := by
      rintro rfl
      exact below (standsAlone_nil layer x)
    rcases qualified_cases p x with ⟨-, same⟩ | ⟨nonempty, same⟩
    · rw [same]
      exact prefixed
    · rw [same]
      exact prefixed.join named inDomain nonempty

/-- Whether a name in a domain is a bare domain that is not recognized: in the layers that look for words
at the start of a name, where the name is empty and the domain does not start with such a word. -/
structure IsBareDomain (layer : Layer) (p x : List Char) : Prop where
  other : layer = .other
  nameless : x = []
  inDomain : p ≠ []
  wordless : ∀ word ∈ domainWords, startsWithPart p word.toList = false

theorem IsBareDomain.withDomain (bare : IsBareDomain layer p x) : withDomain layer p x = p := by
  obtain ⟨rfl, rfl, inDomain, -⟩ := bare
  rw [Css.withDomain, standsAlone_other_nil inDomain]
  rfl

/-- A name with its domain stands alone in the domain, unless it is a bare domain. -/
theorem standsAlone_withDomain_iff (layer : Layer) (p x : List Char) :
    standsAlone layer p (withDomain layer p x) = true ↔ ¬ IsBareDomain layer p x := by
  unfold withDomain
  by_cases alone : standsAlone layer p x = true
  · rw [if_pos alone]
    refine iff_of_true alone ?_
    rintro ⟨rfl, rfl, inDomain, -⟩
    rw [standsAlone_other_nil inDomain] at alone
    exact Bool.noConfusion alone
  · rw [if_neg alone]
    have inDomain : p ≠ [] := by
      rintro rfl
      exact alone (standsAlone_nil layer x)
    rcases qualified_cases p x with ⟨nameless, same⟩ | ⟨named, same⟩
    · rw [same]
      by_cases other : layer = .other
      · rw [other, standsAlone_self_other inDomain, ← Bool.not_eq_false, List.any_eq_false]
        refine not_congr ⟨fun wordless => ⟨rfl, nameless, inDomain, ?_⟩, fun bare => ?_⟩
        · simpa using wordless
        · simpa using bare.wordless
      · exact iff_of_true (standsAlone_self other p) fun bare => other bare.other
    · rw [same]
      refine iff_of_true (standsAlone_of_startsWithPart layer (startsWithPart_append p x)) ?_
      exact fun bare => named bare.nameless

/-- A bare domain is put below itself. -/
theorem IsBareDomain.withDomain_withDomain (bare : IsBareDomain layer p x) :
    Css.withDomain layer p (Css.withDomain layer p x) = p ++ '-' :: p := by
  have below : ¬ standsAlone layer p (Css.withDomain layer p x) = true := fun alone =>
    (standsAlone_withDomain_iff layer p x).1 alone bare
  rw [Css.withDomain, if_neg below, bare.withDomain, qualified, if_neg]
  rw [List.isEmpty_iff]
  exact bare.inDomain

/-- Names with their domains are stable, bare domains apart. -/
theorem withDomain_withDomain_iff (layer : Layer) (p x : List Char) :
    withDomain layer p (withDomain layer p x) = withDomain layer p x ↔
      ¬ IsBareDomain layer p x := by
  constructor
  · intro same bare
    rw [bare.withDomain_withDomain, bare.withDomain] at same
    have lengths := congrArg List.length same
    rw [List.length_append, List.length_cons] at lengths
    omega
  · intro usual
    rw [withDomain, if_pos ((standsAlone_withDomain_iff layer p x).2 usual)]

/-- Foundations and aliases are known by their domain, alone or in front of a name. -/
theorem withDomain_of_carries
    (carries : layer = .foundations ∨ layer = .aliases ∨ layer = .extendedAliases)
    (inDomain : p ≠ []) (x : List Char) :
    withDomain layer p x = p ∨ p ++ ['-'] <+: withDomain layer p x := by
  unfold withDomain
  split
  · rename_i alone
    have known : startsWithPart x p = true ∨ x = p := by
      rcases carries with rfl | rfl | rfl <;> simpa [standsAlone, inDomain] using alone
    rcases known with below | same
    · exact .inr (List.isPrefixOf_iff_prefix.1 below)
    · exact .inl same
  · rcases qualified_cases p x with ⟨-, same⟩ | ⟨-, same⟩
    · exact .inl same
    · rw [same, List.append_cons]
      exact .inr (List.prefix_append _ x)

/-! ## Property names -/

theorem toList_propertyName (name domain : String) (layer : Layer) :
    (propertyName name domain layer).toList = '-' :: '-' :: identifier name domain layer :=
  String.toList_ofList

theorem propertyName_eq_iff {text : String} :
    propertyName name domain layer = "--" ++ text ↔ identifier name domain layer = text.toList := by
  have hyphens : "--".toList = ['-', '-'] := by decide
  rw [← String.toList_inj, toList_propertyName, String.toList_append, hyphens]
  simp

theorem propertyName_inj {name' domain' : String} :
    propertyName name domain layer = propertyName name' domain' layer ↔
      identifier name domain layer = identifier name' domain' layer := by
  rw [← String.toList_inj, toList_propertyName, toList_propertyName]
  simp

theorem isSlug_identifier (name domain : String) (layer : Layer) :
    IsSlug (identifier name domain layer) :=
  isSlug_withDomain layer (Text.isSlug_slug domain) (Text.isSlug_slug name)

/-- A token that is named by a property is known by what the property is. -/
theorem identifier_propertyName (name domain : String) (layer : Layer) :
    identifier (propertyName name domain layer) domain layer =
      withDomain layer (slug domain).toList (identifier name domain layer) := by
  rw [identifier_eq, propertyName, Text.slug_hyphens_append (isSlug_identifier name domain layer),
    String.toList_ofList]

/-- Names of properties are stable: a token that is named by its own property keeps it, unless the
property is a bare domain, which is put below itself. A property name is two hyphens and a slug; foundations
and aliases are known by their domain, and mappings do not depend on it. -/
theorem property_names_stable_iff (name domain : String) (layer : Layer) :
    (propertyName (propertyName name domain layer) domain layer = propertyName name domain layer ↔
      ¬ IsBareDomain layer (slug domain).toList (slug name).toList) ∧
    (IsBareDomain layer (slug domain).toList (slug name).toList →
      propertyName name domain layer = "--" ++ slug domain ∧
        propertyName (propertyName name domain layer) domain layer =
          "--" ++ slug domain ++ "-" ++ slug domain) ∧
    (∃ s : String, IsSlug s.toList ∧ propertyName name domain layer = "--" ++ s) ∧
    (layer = .foundations ∨ layer = .aliases ∨ layer = .extendedAliases → slug domain ≠ "" →
      propertyName name domain layer = "--" ++ slug domain ∨
        ("--" ++ slug domain ++ "-").toList <+: (propertyName name domain layer).toList) ∧
    (layer = .mappings →
      ∀ domain', propertyName name domain' layer = propertyName name domain layer) := by
  refine ⟨?_, fun bare => ⟨?_, ?_⟩, ?_, fun carries inDomain => ?_, ?_⟩
  · rw [propertyName_inj, identifier_propertyName, identifier_eq, withDomain_withDomain_iff]
  · rw [propertyName_eq_iff, identifier_eq, bare.withDomain]
  · rw [String.append_assoc, String.append_assoc, propertyName_eq_iff, identifier_propertyName,
      identifier_eq, bare.withDomain_withDomain, String.toList_append, String.toList_append]
    rfl
  · refine ⟨String.ofList (identifier name domain layer), ?_, ?_⟩
    · rw [String.toList_ofList]
      exact isSlug_identifier name domain layer
    · rw [propertyName_eq_iff, String.toList_ofList]
  · have nonempty : (slug domain).toList ≠ [] := fun none => inDomain (String.toList_eq_nil_iff.1 none)
    rcases withDomain_of_carries carries nonempty (slug name).toList with same | ⟨rest, below⟩
    · exact .inl (propertyName_eq_iff.2 same)
    · refine .inr ⟨rest, ?_⟩
      rw [toList_propertyName, identifier_eq, ← below]
      simp
  · rintro rfl domain'
    rw [propertyName_inj, identifier_eq, identifier_eq, withDomain_mappings, withDomain_mappings]

/-- A path that shows its domain, in a layer that carries domains. -/
theorem space_path_keeps_property :
    (Layer.aliases = .aliases ∧ slug "Space" ≠ "") ∧
      propertyName (propertyName "Space / Fixed" "Space" .aliases) "Space" .aliases =
        propertyName "Space / Fixed" "Space" .aliases ∧
      ("--" ++ slug "Space" ++ "-").toList <+:
        (propertyName "Space / Fixed" "Space" .aliases).toList := by
  have inDomain : slug "Space" ≠ "" := by decide +kernel
  obtain ⟨stable, -, -, carried, -⟩ := property_names_stable_iff "Space / Fixed" "Space" .aliases
  refine ⟨⟨rfl, inDomain⟩, stable.2 fun bare => Layer.noConfusion bare.other, ?_⟩
  refine (carried (.inr (.inl rfl)) inDomain).resolve_left ?_
  decide +kernel

/-- A token without a name is called after its domain, and loses that property when it is named by it. -/
theorem bare_domain_goes_below_itself :
    propertyName "" "grid" .other = "--grid" ∧
      propertyName (propertyName "" "grid" .other) "grid" .other = "--grid-grid" := by
  decide +kernel

end TokenSheet.Css
