import TokenSheet.Generation.Basic
import TokenSheet.Proofs.Catalog.Rearrangement
import TokenSheet.Proofs.Stylesheet.Ownership

/-!
The order of discovery.

Collections are written in the order of their domains and layers, so the order in which the design
lists them shows only where these do not decide. `generation_ignores_discovery_order` compares the
generations of a design and of one that lists its collections in another order: the emission sees
the same collections in the order of writing and the same tokens below each of them, and only the
diagnostics, which are reported in the order of the design, may change places.
-/

namespace TokenSheet

open Design (Source)

variable {s s' : Source} {cat cat' : Catalog} {o : Options}

/-- Of the catalog an emission sees the collections in the order of writing, and their tokens. -/
theorem Emission.ofCatalog_rearranged (h : cat.Rearranged cat') (o : Options) :
    Emission.ofCatalog o cat = Emission.ofCatalog o cat' := by
  have all (reserved : List String) (cs : List Collection) :
      emitAll o reserved cat cs = emitAll o reserved cat' cs := by
    simp only [emitAll, h.tokensIn]
  simp only [Emission.ofCatalog, foundationProperties, all, h.inOrder]

/-- Text styles see the tokens that they are bound to. -/
theorem textStyleLines_rearranged (h : cat.Rearranged cat') (styles : s'.textStyles = s.textStyles)
    (o : Options) : textStyleLines o s cat = textStyleLines o s' cat' := by
  simp only [textStyleLines, h.token, styles]

/-- The problems of rearranged catalogs are the same. -/
theorem Catalog.Rearranged.diagnostics (h : cat.Rearranged cat') :
    cat.diagnostics.Perm cat'.diagnostics :=
  ((h.failedLookups.map _).append (h.broken.map _)).append (h.circular.map _)

/-- The reports of rearranged catalogs differ in the order of the diagnostics. -/
theorem Report.ofEmission_rearranged (h : cat.Rearranged cat') (e : Emission) (styles : Nat) :
    Report.ofEmission cat' e styles =
      { Report.ofEmission cat e styles with diagnostics := cat'.diagnostics } := by
  simp only [Report.ofEmission, h.collections.length_eq, h.tokens.length_eq]

/-- The order in which collections are discovered does not show. A design whose collections share no
ids, neither their own nor those of their variables, has the same stylesheet in every order that
keeps the collections of one place in order, and the same report up to the order of the diagnostics;
or there is no stylesheet in either order. -/
theorem generation_ignores_discovery_order (faithful : s.Faithful) (apart : s.Apart)
    (reordered : s.Reordered s') (o : Options) (w : Widths) (date : Option String) :
    Lockstep
      (fun g g' => g'.css = g.css ∧
        g'.report = { g.report with diagnostics := g'.report.diagnostics } ∧
        g.report.diagnostics.Perm g'.report.diagnostics)
      (generate s o w date) (generate s' o w date) := by
  refine (Catalog.ofSource_rearranged faithful apart reordered w o).bind fun c c' h => ?_
  rw [← Emission.ofCatalog_rearranged h, ← textStyleLines_rearranged h reordered.textStyles,
    reordered.textStyles]
  exact .bind_same fun e => .bind_same fun styles =>
    .ok ⟨rfl, Report.ofEmission_rearranged h e _, h.diagnostics⟩

/-- Neighbours of different places may change places. -/
theorem Design.Source.Reordered.swap (front back : List Design.RawCollection)
    {a b : Design.RawCollection} (listed : s.collections = front ++ a :: b :: back)
    (places : a.place ≠ b.place) :
    s.Reordered { s with collections := front ++ b :: a :: back } where
  collections := listed ▸ (List.Perm.swap b a back).append_left front
  inPlace place := by
    rw [listed, List.filter_append, List.filter_append]
    congr 1
    by_cases first : a.place = place
    · have second : b.place ≠ place := fun second => places (first.trans second.symm)
      simp [first, second]
    · simp [List.filter_cons, first]
  lookup := rfl
  textStyles := rfl

namespace SharedName

/-- The same design, its collections discovered in the other order. -/
def rediscovered : Design.Snapshot :=
  { design with collections := design.collections.reverse }

theorem rediscovered_generation :
    design.source.Faithful ∧ design.source.Apart ∧ design.source.Reordered rediscovered.source ∧
      ∃ g g', generate design.source {} .default none = .ok g ∧
        generate rediscovered.source {} .default none = .ok g' ∧ g'.css = g.css ∧
        g'.report = { g.report with diagnostics := g'.report.diagnostics } ∧
        g.report.diagnostics.Perm g'.report.diagnostics := by
  have apart : design.source.Apart :=
    ⟨by decide, List.pairwise_pair.2 (List.disjoint_singleton.2 (by decide))⟩
  have reordered : design.source.Reordered rediscovered.source :=
    .swap [] [] rfl (by decide)
  have generated : ∃ g, generate design.source {} .default none = .ok g := by
    rw [generate, read, ok_bind, ofCatalog_catalog]
    exact ⟨_, rfl⟩
  obtain ⟨g, run⟩ := generated
  obtain ⟨g', run', same⟩ := (generation_ignores_discovery_order design.source_faithful apart
    reordered {} .default none).exists_of_ok run
  exact ⟨design.source_faithful, apart, reordered, g, g', run, run', same⟩

end SharedName

end TokenSheet
