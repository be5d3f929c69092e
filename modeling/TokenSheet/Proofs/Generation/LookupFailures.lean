import TokenSheet.Generation.Basic
import TokenSheet.Proofs.Catalog.Lookups
import TokenSheet.Proofs.Catalog.Provenance

/-!
Look-ups that fail.

A variable whose look-up fails leaves nothing behind but a diagnostic for each time that it is
listed. Everything else is as if the export did not have the variable: the tokens that are read,
the references that lead to nothing for want of it, the walks that break off, and the stylesheet.
-/

namespace TokenSheet

open Design (Source Snapshot RawVariable)

/-- The export without the variables of some ids. -/
def Design.Snapshot.without (p : Snapshot) (absent : String → Bool) : Snapshot :=
  { p with variableRecords := p.variableRecords.filter fun v => !absent v.id }

variable {p : Snapshot} {reason? : String → Option String} {w : Widths} {o : Options}

theorem Design.Snapshot.lookup?_without (p : Snapshot) (absent : String → Bool) (id : String) :
    (p.without absent).lookup? id = if absent id then none else p.lookup? id := by
  rw [lookup?, without, ← List.filter_reverse, List.find?_filter]
  by_cases gone : absent id = true
  · rw [if_pos gone]
    refine List.find?_eq_none.2 fun v _ found => ?_
    obtain ⟨here, same⟩ := of_decide_eq_true found
    rw [beq_iff_eq.1 same, gone] at here
    cases here
  · rw [if_neg gone, lookup?]
    congr 1
    funext v
    by_cases same : v.id = id <;> simp [same, gone]

namespace Catalog

/-- With failing look-ups the collections list the variables that remain. -/
theorem listedVariables_failingOn (c : Collection) :
    listedVariables (p.source.failingOn reason?) c =
      listedVariables (p.without fun id => (reason? id).isSome).source c := by
  refine List.filterMap_congr fun id _ => ?_
  simp only [Design.Source.failingOn, Design.Snapshot.source, Design.Snapshot.lookup?_without]
  cases reason? id <;> rfl

/-- With failing look-ups the catalog is read as without their variables. -/
theorem unnamed_failingOn (colors : ColorNotation) :
    unnamed (p.source.failingOn reason?) w colors =
      (unnamed (p.without fun id => (reason? id).isSome).source w colors).map fun c =>
        { c with failedLookups := (p.source.failingOn reason?).failedListings } := by
  have reading : readTokens (p.source.failingOn reason?) colors =
      readTokens (p.without fun id => (reason? id).isSome).source colors := by
    funext c
    rw [readTokens, readTokens, listedVariables_failingOn]
  have collections : (p.source.failingOn reason?).localCollections =
      (p.without fun id => (reason? id).isSome).source.localCollections := rfl
  simp only [unnamed, flatMap_failedLookupsOf]
  rw [reading, collections]
  cases ((p.without fun id => (reason? id).isSome).source.localCollections.map
    (Collection.ofRaw w)).mapM
      (readTokens (p.without fun id => (reason? id).isSome).source colors) <;> rfl

/-- What look-ups have failed makes no difference to the references. -/
theorem flatten_with_failedLookups (c : Catalog) (failed : List (String × String)) :
    flatten { c with failedLookups := failed } = { c.flatten with failedLookups := failed } := by
  have alike : AnswersAlike { c with failedLookups := failed } c := ⟨fun _ => rfl, fun _ => rfl⟩
  simp only [flatten, alike.flatToken_eq, alike.runsInCircle_eq]

/-- With failing look-ups the catalog is that of the remaining variables, with its own list of
look-ups that failed. -/
theorem ofSource_failingOn :
    ofSource (p.source.failingOn reason?) w o =
      (ofSource (p.without fun id => (reason? id).isSome).source w o).map fun c =>
        { c with failedLookups := (p.source.failingOn reason?).failedListings } := by
  rw [ofSource, ofSource, unnamed_failingOn]
  cases unnamed (p.without fun id => (reason? id).isSome).source w o.colors with
  | error e => rfl
  | ok c =>
      rw [Except.map, ok_bind, ok_bind]
      cases o.references with
      | preserved => rfl
      | resolved => exact congrArg Except.ok (flatten_with_failedLookups c.nameReferences _)

/-- No look-up of an export fails. -/
theorem failedLookups_of_source {c : Catalog} (run : ofSource p.source w o = .ok c) :
    c.failedLookups = [] := by
  rw [ofSource_failedLookups run]
  refine List.flatMap_eq_nil_iff.2 fun c _ => ?_
  exact List.filterMap_eq_nil_iff.2 fun _ _ => rfl

end Catalog

/-- One diagnostic for each time that a collection of the design lists an id whose look-up fails,
in the order of the listings. -/
def Design.Snapshot.lookupDiagnostics (p : Snapshot) (reason? : String → Option String) :
    List Diagnostic :=
  p.source.localCollections.flatMap fun c => c.variableIds.filterMap fun id =>
    (reason? id).map fun reason => .lookupFailed id reason

theorem Design.Snapshot.lookupDiagnostics_eq (p : Snapshot) (reason? : String → Option String) :
    p.lookupDiagnostics reason? =
      (p.source.failingOn reason?).failedListings.map fun f => .lookupFailed f.1 f.2 := by
  rw [Design.Source.failedListings, List.map_flatMap]
  refine List.flatMap_congr fun c _ => ?_
  rw [List.map_filterMap]
  refine List.filterMap_congr fun id _ => ?_
  simp only [Design.Source.failingOn, Design.Snapshot.source]
  cases reason? id <;> rfl

/-- The catalog with failing look-ups reports them in front of what it reports without their
variables. -/
theorem Catalog.diagnostics_failingOn {c : Catalog}
    (run : Catalog.ofSource (p.without fun id => (reason? id).isSome).source w o = .ok c) :
    diagnostics { c with failedLookups := (p.source.failingOn reason?).failedListings } =
      p.lookupDiagnostics reason? ++ c.diagnostics := by
  rw [diagnostics, diagnostics, failedLookups_of_source run, p.lookupDiagnostics_eq,
    List.append_assoc]
  rfl

/-- Failing look-ups are isolated. An export whose look-ups of some ids fail has the collections
and tokens of the export without their variables, and reports, in front of what that one reports,
each listing of such an id in a collection of the design. Hence the whole generation is the same
but for these diagnostics. -/
theorem lookup_failures_are_isolated (p : Snapshot) (reason? : String → Option String) (w : Widths)
    (o : Options) (date : Option String) :
    let failing := p.source.failingOn reason?
    let remaining := (p.without fun id => (reason? id).isSome).source
    (Catalog.ofSource failing w o).map (fun c => (c.collections, c.tokens, c.diagnostics)) =
      (Catalog.ofSource remaining w o).map (fun c =>
        (c.collections, c.tokens, p.lookupDiagnostics reason? ++ c.diagnostics)) ∧
    generate failing o w date =
      (generate remaining o w date).map fun g => { g with
        report := { g.report with
          diagnostics := p.lookupDiagnostics reason? ++ g.report.diagnostics } } := by
  intro failing remaining
  have catalogs : Catalog.ofSource failing w o = (Catalog.ofSource remaining w o).map fun c =>
      { c with failedLookups := failing.failedListings } := Catalog.ofSource_failingOn
  rw [generate, generate, catalogs]
  cases read : Catalog.ofSource remaining w o with
  | error e => exact ⟨rfl, rfl⟩
  | ok c =>
      have reported : Catalog.diagnostics { c with failedLookups := failing.failedListings } =
          p.lookupDiagnostics reason? ++ c.diagnostics := Catalog.diagnostics_failingOn read
      refine ⟨congrArg (fun d => Except.ok (c.collections, c.tokens, d)) reported, ?_⟩
      rw [Except.map, ok_bind, ok_bind]
      -- the sections and the text styles do not look at the diagnostics
      have emission : Emission.ofCatalog o { c with failedLookups := failing.failedListings } =
          Emission.ofCatalog o c := rfl
      have styles : textStyleLines o failing { c with failedLookups := failing.failedListings } =
          textStyleLines o remaining c := rfl
      rw [emission, styles]
      cases Emission.ofCatalog o c with
      | error e => rfl
      | ok e =>
          cases textStyleLines o remaining c with
          | error e' => rfl
          | ok lines =>
              simp only [ok_bind, Report.ofEmission, reported]
              rfl

end TokenSheet
