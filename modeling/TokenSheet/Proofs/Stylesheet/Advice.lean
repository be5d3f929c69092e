import TokenSheet.Generation.Report
import TokenSheet.Proofs.Returns
import TokenSheet.Proofs.Section.Declared
import TokenSheet.Proofs.Stylesheet.Run

/-!
What the report of a generation speaks of.

Tokens that were written in a special form are found among the entries, so they are declared. Advice is
given when tokens enter a section, by their values in the widest mode, and the default block is filled
after that. Advice on how far a token strays from a line is about a token with a number in every mode,
which is declared. Other advice is about a declared token as well, except where the section starts from
the narrowest mode and the token has no value there: it is `LeftOut`, and everything that the section
declares under its name belongs to other tokens.
-/

namespace TokenSheet

open Css (Entry Block MediaBlock)

variable {o : Options} {gate : Gate} {tokens : List Token} {modes : List Mode} {t : Token}
  {c : Collection} {s : Section} {cat : Catalog} {e : Emission}

/-! ## Advice on a token -/

/-- Whether advice is about a token. -/
def Advice.IsAbout (t : Token) : Advice → Prop
  | .viewport property name _ => property = t.property ∧ name = t.name
  | .proportion property name _ => property = t.property ∧ name = t.name
  | .nonLinear u _ => u = t

/-- Only a token with a number in every mode is measured. -/
theorem Fluid.numbers_of_profileOf? {p : Fluid.Profile Float}
    (run : Fluid.profileOf? t modes = .ok (some p)) : ∀ m ∈ modes, (t.numberIn m.id).isSome := by
  unfold Fluid.profileOf? at run
  split at run
  · split at run
    · rename_i samples measured
      intro m mem
      obtain ⟨sample, -, found⟩ := exists_of_forall₂_left (mapM_eq_some measured) mem
      obtain ⟨x, number, -⟩ := Option.map_eq_some_iff.1 found
      rw [number]
      rfl
    · cases run
  · cases run

/-- All advice on a token is about it, and a token that is measured has a number in every mode. -/
theorem Token.isAbout_of_advice {as : List Advice} (run : t.advice modes = .ok as) {a : Advice}
    (mem : a ∈ as) :
    a.IsAbout t ∧ ∀ u p, a = .nonLinear u p → ∀ m ∈ modes, (t.numberIn m.id).isSome := by
  unfold Token.advice at run
  simp only [pure_bind] at run
  obtain ⟨onLine, measured, done⟩ := ite_bind_eq_ok run
  rw [← pure_eq_ok.1 done] at mem
  rcases List.mem_append.1 mem with mem | mem
  · rcases List.mem_append.1 mem with mem | mem
    · obtain ⟨h, -, rfl⟩ := Option.map_eq_some_iff.1 (Option.mem_toList.1 mem)
      exact ⟨⟨rfl, rfl⟩, nofun⟩
    · obtain ⟨n, -, rfl⟩ := Option.map_eq_some_iff.1 (Option.mem_toList.1 mem)
      exact ⟨⟨rfl, rfl⟩, nofun⟩
  · obtain ⟨p, profile, rfl⟩ := Option.map_eq_some_iff.1 (Option.mem_toList.1 mem)
    refine ⟨rfl, fun u p' same => ?_⟩
    rw [profile] at measured
    split at measured
    · exact Fluid.numbers_of_profileOf? measured
    · cases measured

/-- Advice is given on tokens that scale. -/
theorem advice_of_ofToken {en : Entrant} (run : Entrant.ofToken o modes t = .ok en) {a : Advice}
    (mem : a ∈ en.advice) :
    t.isScaling o modes = .ok true ∧ ∃ as, t.advice modes = .ok as ∧ a ∈ as := by
  unfold Entrant.ofToken at run
  obtain ⟨stepped, -, run⟩ := bind_eq_ok.1 run
  cases stepped with
  | true =>
      rw [if_pos rfl] at run
      rw [← pure_eq_ok.1 run] at mem
      cases mem
  | false =>
      rw [if_neg Bool.false_ne_true] at run
      obtain ⟨scaling, scales, run⟩ := bind_eq_ok.1 run
      cases scaling with
      | true =>
          rw [if_pos rfl] at run
          obtain ⟨as, advice, done⟩ := bind_eq_ok.1 run
          rw [← pure_eq_ok.1 done] at mem
          exact ⟨scales, as, advice, mem⟩
      | false =>
          rw [if_neg Bool.false_ne_true] at run
          rw [← pure_eq_ok.1 run] at mem
          cases mem

/-! ## The entries of a section -/

theorem Token.valueIn_isSome_of_isWritten {modeId : String} (written : t.IsWritten o modeId) :
    (t.valueIn modeId).isSome := by
  obtain ⟨v, run⟩ := written
  cases value : t.valueIn modeId with
  | none =>
      rw [Token.rendered, value] at run
      cases run
  | some _ => rfl

theorem Token.valueIn_isSome_of_numberIn {modeId : String} (number : (t.numberIn modeId).isSome) :
    (t.valueIn modeId).isSome := by
  unfold Token.numberIn at number
  split at number
  · rename_i value
    rw [value]
    rfl
  · cases number

/-- A token of a section that starts from the narrowest mode, where the token has no value. What the
section declares under its name belongs to other tokens. -/
structure Token.LeftOut (o : Options) (c : Collection) (tokens : List Token) (entries : List Entry)
    (t : Token) : Prop where
  fluid : c.IsFluid o
  upwards : o.direction = .mobileFirst
  missing : ∃ narrowest, (Mode.widestFirst c.modes).getLast? = some narrowest ∧
    t.valueIn narrowest.id = none
  others : ∀ x ∈ entries, x.property = t.property → ∃ u ∈ tokens, u ≠ t ∧ u.key = x.key

namespace FluidSteps

variable {widest standard : Mode} {entrants : List Entrant} {growing : List FluidEntry}
  {fixed : List Entry} {media : List MediaBlock} {fallback : List Block}
  (h : FluidSteps o gate modes tokens widest standard entrants growing fixed media fallback)

include h

/-- Advice is about a token that passed and scales. -/
theorem exists_advised {a : Advice} (mem : a ∈ entrants.flatMap (·.advice)) :
    ∃ t ∈ admitted widest.id gate tokens, t.isScaling o modes = .ok true ∧ a.IsAbout t ∧
      ∀ u p, a = .nonLinear u p → ∀ m ∈ modes, (t.numberIn m.id).isSome := by
  obtain ⟨en, entrant, given⟩ := List.mem_flatMap.1 mem
  obtain ⟨t, passed, run⟩ := mem_mapM h.enter entrant
  obtain ⟨scales, as, advice, listed⟩ := advice_of_ofToken run given
  obtain ⟨about, measured⟩ := Token.isAbout_of_advice advice listed
  exact ⟨t, passed, scales, about, measured⟩

/-- A scaling token with a value in the default mode is written there. -/
theorem isWritten_of_scaling (passed : t ∈ admitted widest.id gate tokens)
    (scales : t.isScaling o modes = .ok true) (value : (t.valueIn standard.id).isSome) :
    t.IsWritten o standard.id := by
  obtain ⟨en, entrant, known⟩ := h.exists_entrant passed
  obtain ⟨v, value⟩ := Option.isSome_iff_exists.1 value
  obtain ⟨l, rfl⟩ := Token.exists_literal (Token.number_of_isScaling scales).2 value
  have clampable := mem_clampable.2 ⟨entrant, (known.of_isScaling scales).1⟩
  obtain ⟨r, made⟩ := (filterMapM_eq_ok.1 h.grow).1 en clampable
  obtain ⟨v?, rendered, -⟩ := bind_eq_ok.1 made
  rw [known.token] at rendered
  obtain ⟨v, -, rfl⟩ := Token.rendered_of_literal value rendered
  exact ⟨v, rendered⟩

/-- Advice is about a token with an entry, unless the token has no value where the default block is
read. -/
theorem advised_cases (head : modes.head? = some widest)
    (default : Mode.default? o.desktopFirst modes = some standard) {a : Advice}
    (mem : a ∈ entrants.flatMap (·.advice)) :
    ∃ t ∈ tokens, a.IsAbout t ∧
      ((∃ x ∈ growing.map (·.entry) ++ fixed, x.key = t.key) ∨
        (∀ u p, a ≠ .nonLinear u p) ∧ o.desktopFirst = false ∧
          t.valueIn standard.id = none ∧
          ∀ x ∈ growing.map (·.entry) ++ fixed, x.property = t.property →
            ∃ u ∈ tokens, u ≠ t ∧ u.key = x.key) := by
  obtain ⟨t, passed, scales, about, measured⟩ := h.exists_advised mem
  refine ⟨t, admitted_sublist.subset passed, about, ?_⟩
  cases value : t.valueIn standard.id with
  | some v =>
      obtain ⟨x, listed, entry⟩ :=
        h.exists_entry passed (h.isWritten_of_scaling passed scales (by rw [value]; rfl))
      exact .inl ⟨x, listed, entry.key.symm⟩
  | none =>
      refine .inr ⟨fun u p same => ?_, ?_, rfl, fun x listed same => ?_⟩
      · have number := measured u p same standard (Mode.mem_of_default? default)
        have some_there := Token.valueIn_isSome_of_numberIn number
        rw [value] at some_there
        cases some_there
      · cases direction : o.desktopFirst with
        | false => rfl
        | true =>
            -- from the widest mode on the gate asks the default mode itself
            rw [direction, Mode.default?, if_pos rfl, head] at default
            obtain rfl := Option.some.inj default
            have some_there := (passed_of_mem_admitted passed).value
            rw [value] at some_there
            cases some_there
      · obtain ⟨u, listed', written, entry⟩ := h.exists_source listed
        refine ⟨u, admitted_sublist.subset listed', ?_, entry.key⟩
        rintro rfl
        have some_there := Token.valueIn_isSome_of_isWritten written
        rw [value] at some_there
        cases some_there

end FluidSteps

/-- Sections without interpolation give no advice. -/
theorem draftOf_advice_of_not_isFluid {d : Draft} (notFluid : ¬ c.IsFluid o)
    (run : draftOf o gate c tokens = .ok d) : d.advice = [] := by
  cases kind : c.kind with
  | breakpoint =>
      rw [draftOf_of_stepped kind notFluid] at run
      rcases steppedDraft_eq_ok run with ⟨-, rfl⟩ | ⟨_, _, _, -, -, -, rfl⟩ <;> rfl
  | theme =>
      rw [draftOf, kind] at run
      rcases themedDraft_eq_ok run with ⟨-, rfl⟩ | ⟨_, _, _, _, -, -, -, -, rfl⟩ <;> rfl
  | single =>
      rw [draftOf, kind] at run
      rcases flatDraft_eq_ok run with ⟨-, rfl⟩ | ⟨_, _, -, -, rfl⟩ <;> rfl

/-- Advice of a section is about a token that it declares, or about one that is left out. -/
theorem advice_of_sectionOf (run : sectionOf o gate c tokens = .ok s) {a : Advice}
    (mem : a ∈ s.advice) :
    ∃ t ∈ tokens, a.IsAbout t ∧ ((∃ x ∈ s.entries, x.key = t.key) ∨
      (∀ u p, a ≠ .nonLinear u p) ∧ t.LeftOut o c tokens s.entries) := by
  obtain ⟨d, draft, rfl⟩ := exists_draft_of_sectionOf run
  by_cases fluid : c.IsFluid o
  · obtain ⟨widest, standard, head, default⟩ := fluid.exists_ends
    rw [draftOf_of_isFluid fluid] at draft
    obtain ⟨entrants, growing, fixed, media, fallback, steps, rfl⟩ :=
      (fluidDraft_iff_steps head default).1 draft
    obtain ⟨t, inside, about, declared | ⟨unmeasured, upwards, missing, others⟩⟩ :=
      steps.advised_cases head default mem
    · exact ⟨t, inside, about, .inl declared⟩
    · refine ⟨t, inside, about, .inr ⟨unmeasured, fluid, ?_, ⟨standard, ?_, missing⟩, others⟩⟩
      · cases direction : o.direction with
        | mobileFirst => rfl
        | desktopFirst =>
            rw [Options.desktopFirst, direction] at upwards
            cases upwards
      · rwa [upwards, Mode.default?, if_neg Bool.false_ne_true] at default
  · rw [draftOf_advice_of_not_isFluid fluid draft] at mem
    cases mem

/-! ## The report -/

/-- Whether a default block of a stylesheet declares a token: the section of a collection that holds
the token has an entry under its id and its property. -/
def Emission.DeclaresToken (cat : Catalog) (e : Emission) (t : Token) : Prop :=
  ∃ p ∈ cat.rendered.zip e.sections, t ∈ cat.tokensIn p.1.id ∧ ∃ x ∈ p.2.entries, x.key = t.key

/-- Whether a section of a stylesheet leaves a token out. -/
def Emission.LeavesOut (o : Options) (cat : Catalog) (e : Emission) (t : Token) : Prop :=
  ∃ p ∈ cat.rendered.zip e.sections, t ∈ cat.tokensIn p.1.id ∧
    t.LeftOut o p.1 (cat.tokensIn p.1.id) p.2.entries

/-- Every entry of a section stands for a token of the collection. -/
theorem exists_token_of_entry (run : sectionOf o gate c tokens = .ok s) {x : Entry}
    (mem : x ∈ s.entries) : ∃ t ∈ tokens, x.key = t.key := by
  obtain ⟨d, draft, rfl⟩ := exists_draft_of_sectionOf run
  rcases draftOf_shape draft with rfl | ⟨gateMode, standard, -, -, shape⟩
  · cases mem
  · obtain ⟨t, passed, entry⟩ := shape.entries x mem
    exact ⟨t, admitted_sublist.subset passed, entry.key.symm⟩

section
variable (run : Emission.ofCatalog o cat = .ok e)

include run

/-- Every entry of a stylesheet declares a token. -/
theorem exists_declared {x : Entry} (mem : x ∈ e.entries) :
    ∃ t, e.DeclaresToken cat t ∧ t.property = x.property := by
  obtain ⟨names, -, sections⟩ := ofCatalog_eq_ok.1 run
  obtain ⟨s, listed, inside⟩ := List.mem_flatMap.1 mem
  obtain ⟨c, pair⟩ := sections.exists_pair listed
  obtain ⟨-, before, made⟩ := sections.exists_sectionOf pair
  obtain ⟨t, held, same⟩ := exists_token_of_entry made inside
  exact ⟨t, ⟨_, pair, held, x, inside, same⟩, (congrArg Prod.snd same).symm⟩

/-- What is told of entries by their properties is told of declared tokens. -/
theorem exists_declared_of_filterMap {f : Entry → Option String}
    (own : ∀ x n, f x = some n → x.property = n) {n : String} (mem : n ∈ e.entries.filterMap f) :
    ∃ t, e.DeclaresToken cat t ∧ t.property = n := by
  obtain ⟨x, listed, told⟩ := List.mem_filterMap.1 mem
  rw [← own x n told]
  exact exists_declared run listed

/-- All advice of a stylesheet is about a token that it declares or leaves out. -/
theorem exists_advised {a : Advice} (mem : a ∈ e.advice) :
    ∃ t, a.IsAbout t ∧ (e.DeclaresToken cat t ∨
      (∀ u p, a ≠ .nonLinear u p) ∧ e.LeavesOut o cat t) := by
  obtain ⟨names, -, sections⟩ := ofCatalog_eq_ok.1 run
  obtain ⟨s, listed, given⟩ := List.mem_flatMap.1 mem
  obtain ⟨c, pair⟩ := sections.exists_pair listed
  obtain ⟨-, before, made⟩ := sections.exists_sectionOf pair
  obtain ⟨t, inside, about, declared | ⟨unmeasured, out⟩⟩ := advice_of_sectionOf made given
  · exact ⟨t, about, .inl ⟨_, pair, inside, declared⟩⟩
  · exact ⟨t, about, .inr ⟨unmeasured, _, pair, inside, out⟩⟩

/-- What a report says of the forms of tokens, and of tokens that stray from a line, it says of tokens
that a default block declares. Any other advice is about a declared token as well, or about one that a
section leaves out. -/
theorem report_speaks_of_declared (textStyles : Nat) :
    (∀ n, n ∈ (Report.ofEmission cat e textStyles).viewportProperties ∨
          n ∈ (Report.ofEmission cat e textStyles).proportionProperties ∨
          n ∈ (Report.ofEmission cat e textStyles).piecewiseProperties →
        ∃ t, e.DeclaresToken cat t ∧ t.property = n) ∧
      (∀ p ∈ (Report.ofEmission cat e textStyles).nonLinearAdvice, e.DeclaresToken cat p.1) ∧
      ∀ n name, (∃ hint, (n, name, hint) ∈ (Report.ofEmission cat e textStyles).viewportAdvice) ∨
          (∃ columns, (n, name, columns) ∈
            (Report.ofEmission cat e textStyles).proportionAdvice) →
        ∃ t, t.property = n ∧ t.name = name ∧ (e.DeclaresToken cat t ∨ e.LeavesOut o cat t) := by
  refine ⟨?_, ?_, ?_⟩
  · rintro n (mem | mem | mem)
    all_goals
      refine exists_declared_of_filterMap run (fun x n told => ?_) mem
      split at told
      · exact Option.some.inj told
      · cases told
  · intro p mem
    obtain ⟨a, given, told⟩ := List.mem_filterMap.1 mem
    split at told
    · cases told
      obtain ⟨t, rfl, declared | ⟨unmeasured, -⟩⟩ := exists_advised run given
      · exact declared
      · exact absurd rfl (unmeasured _ _)
    · cases told
  · rintro n name (⟨hint, mem⟩ | ⟨columns, mem⟩)
    all_goals
      obtain ⟨a, given, told⟩ := List.mem_filterMap.1 mem
      split at told
      · cases told
        obtain ⟨t, ⟨property, name⟩, declared | ⟨-, out⟩⟩ := exists_advised run given
        · exact ⟨t, property.symm, name.symm, .inl declared⟩
        · exact ⟨t, property.symm, name.symm, .inr out⟩
      · cases told

end

namespace WideValues

/-- The only collection of a design, with three modes. -/
def collection : Collection :=
  .spaces [⟨"d", "Desktop", some 1680⟩, ⟨"t", "Tablet", some 840⟩, ⟨"m", "Mobile", some 480⟩]
    ["v", "u"]

/-- A number of the viewport and a proportion, with values in some modes. -/
def catalog (values : List (String × Float)) : Catalog where
  collections := [collection]
  tokens := [collection.number "v" "viewport-max" "--space-viewport-max" values,
    collection.number "u" "proportion-half" "--space-proportion-half" values]

/-- Options under which sections start from the narrowest mode. -/
def options : Options := { direction := .mobileFirst }

theorem widestFirst_modes : Mode.widestFirst collection.modes = collection.modes :=
  Mode.widestFirst_of_descending (by simp [Mode.Descending, collection, Collection.spaces, Mode.px])

/-- What a stylesheet declares, and what its report advises. -/
structure Summary where
  declared : List String
  onViewport : List (String × String × ViewportHint)
  onGrid : List (String × String × Nat)
deriving DecidableEq

/-- The summary of a stylesheet with one section. -/
def summary (cat : Catalog) (s : Section) : Summary where
  declared := s.properties
  onViewport := (Report.ofEmission cat ⟨[s]⟩ 0).viewportAdvice
  onGrid := (Report.ofEmission cat ⟨[s]⟩ 0).proportionAdvice

/-- With a value in every mode both numbers are declared, and the report speaks of them. -/
theorem complete_report_speaks_of_declared :
    ∃ s, Emission.ofCatalog options (catalog [("d", 10), ("t", 20), ("m", 30)]) = .ok ⟨[s]⟩ ∧
      s.properties = ["--space-viewport-max", "--space-proportion-half"] ∧
      ∃ t, t.property = "--space-viewport-max" ∧ t.name = "viewport-max" ∧
        ((Emission.mk [s]).DeclaresToken (catalog [("d", 10), ("t", 20), ("m", 30)]) t ∨
          (Emission.mk [s]).LeavesOut options (catalog [("d", 10), ("t", 20), ("m", 30)]) t) := by
  have found : (sectionOf options {} collection
        (catalog [("d", 10), ("t", 20), ("m", 30)]).tokens).toOption.map
      (summary (catalog [("d", 10), ("t", 20), ("m", 30)])) =
        some ⟨["--space-viewport-max", "--space-proportion-half"],
          [("--space-viewport-max", "viewport-max", .name)],
          [("--space-proportion-half", "proportion-half", 6)]⟩ := by
    rw [sectionOf, draftOf_of_isFluid (by decide), widestFirst_modes]
    decide +kernel
  obtain ⟨s, made, told⟩ := exists_of_toOption_map found
  obtain ⟨properties, advice, -⟩ := Summary.mk.inj told
  have run : Emission.ofCatalog options (catalog [("d", 10), ("t", 20), ("m", 30)]) = .ok ⟨[s]⟩ :=
    ofCatalog_of_only rfl (by decide) rfl made
  refine ⟨s, run, properties, ?_⟩
  refine (report_speaks_of_declared run 0).2.2 _ _ (.inl ⟨.name, ?_⟩)
  rw [advice]
  exact List.mem_cons_self

/-- Without a value in the narrowest mode neither is declared, and the report speaks of them all the
same. -/
theorem report_may_speak_of_undeclared :
    ∃ e, Emission.ofCatalog options (catalog [("d", 10), ("t", 20)]) = .ok e ∧
      e.properties = [] ∧
      (Report.ofEmission (catalog [("d", 10), ("t", 20)]) e 0).viewportAdvice =
        [("--space-viewport-max", "viewport-max", .name)] ∧
      (Report.ofEmission (catalog [("d", 10), ("t", 20)]) e 0).proportionAdvice =
        [("--space-proportion-half", "proportion-half", 6)] := by
  have found : (sectionOf options {} collection
        (catalog [("d", 10), ("t", 20)]).tokens).toOption.map
      (summary (catalog [("d", 10), ("t", 20)])) =
        some ⟨[], [("--space-viewport-max", "viewport-max", .name)],
          [("--space-proportion-half", "proportion-half", 6)]⟩ := by
    rw [sectionOf, draftOf_of_isFluid (by decide), widestFirst_modes]
    decide +kernel
  obtain ⟨s, made, told⟩ := exists_of_toOption_map found
  obtain ⟨properties, onViewport, onGrid⟩ := Summary.mk.inj told
  refine ⟨⟨[s]⟩, ofCatalog_of_only rfl (by decide) rfl made, ?_, onViewport, onGrid⟩
  rw [Emission.properties, List.flatMap_singleton, properties]

end WideValues

end TokenSheet
