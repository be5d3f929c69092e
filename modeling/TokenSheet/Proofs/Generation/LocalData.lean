import TokenSheet.Generation.Basic
import TokenSheet.Proofs.Generation.LookupFailures
import TokenSheet.Viewport.Detection

/-!
What belongs to a design.

A design may hold collections of other designs, and variables that none of its own collections
lists. Two designs with the same collections of their own, the same answers for the ids that these
list and the same text styles are not told apart (`foreign_data_has_no_influence`). A generation and
a scan never ask for more. A detection does: it looks up the target of a reference whatever the
target is, but reads it only in the first mode of a collection that lists it.
-/

namespace TokenSheet

open Design (Source Snapshot RawCollection RawVariable)

/-- Whether one of the design's own collections lists a variable. -/
def Design.Source.Lists (s : Source) (id : String) : Prop :=
  ∃ c ∈ s.localCollections, id ∈ c.variableIds

/-- Designs that have the same things of their own. -/
structure Design.Source.LocallyAlike (s s' : Source) : Prop where
  collections : s.localCollections = s'.localCollections
  lookup : ∀ id, s.Lists id → s.lookup id = s'.lookup id
  textStyles : s.textStyles = s'.textStyles

namespace Design.Source.LocallyAlike

variable {s s' : Source} (h : s.LocallyAlike s')

include h

/-! ## Reading -/

theorem lookup_eq {w : Widths} {c : Collection}
    (mem : c ∈ s.localCollections.map (Collection.ofRaw w)) :
    ∀ id ∈ c.tokenIds, s.lookup id = s'.lookup id := by
  obtain ⟨raw, own, rfl⟩ := List.mem_map.1 mem
  intro id listed
  exact h.lookup id ⟨raw, own, listed⟩

theorem unnamed_eq (w : Widths) (colors : ColorNotation) :
    Catalog.unnamed s w colors = Catalog.unnamed s' w colors := by
  have tokens : (s.localCollections.map (Collection.ofRaw w)).mapM (Catalog.readTokens s colors) =
      (s.localCollections.map (Collection.ofRaw w)).mapM (Catalog.readTokens s' colors) := by
    refine mapM_congr fun c mem => ?_
    have found : Catalog.listedVariables s c = Catalog.listedVariables s' c :=
      List.filterMap_congr fun id listed => by rw [h.lookup_eq mem id listed]
    rw [Catalog.readTokens, Catalog.readTokens, found]
  have failed : (s.localCollections.map (Collection.ofRaw w)).flatMap (Catalog.failedLookupsOf s) =
      (s.localCollections.map (Collection.ofRaw w)).flatMap (Catalog.failedLookupsOf s') :=
    List.flatMap_congr fun c mem =>
      List.filterMap_congr fun id listed => by rw [h.lookup_eq mem id listed]
  rw [Catalog.unnamed, Catalog.unnamed, tokens, failed, h.collections]

theorem generate_eq (o : Options) (w : Widths) (date : Option String) :
    generate s o w date = generate s' o w date := by
  have catalog : Catalog.ofSource s w o = Catalog.ofSource s' w o := by
    rw [Catalog.ofSource, Catalog.ofSource, h.unnamed_eq]
  have styles : textStyleLines o s = textStyleLines o s' := by
    funext c
    rw [textStyleLines, textStyleLines, h.textStyles]
  rw [generate, generate, catalog, styles, h.textStyles]

theorem scan_eq (w : Widths) : scan s w = scan s' w := by
  rw [scan, scan, h.collections]

/-! ## Detection -/

theorem viewportVariable?_eq (fallback : Option RawVariable) {ids : List String}
    (listed : ∀ id ∈ ids, s.Lists id) :
    viewportVariable? s fallback ids = viewportVariable? s' fallback ids := by
  induction ids generalizing fallback with
  | nil => rfl
  | cons id rest ih =>
      obtain ⟨first, others⟩ := List.forall_mem_cons.1 listed
      have rest (fallback : Option RawVariable) := ih fallback others
      simp only [viewportVariable?, lookupOrStop, h.lookup id first, rest]

section
variable (answered : ∀ id, ∃ v, s.lookup id = .ok v) (answered' : ∀ id, ∃ v, s'.lookup id = .ok v)

include answered answered'

/-- The target of a reference shows only if the design lists it itself. If it does not, it is looked
up for nothing, but the look-up has to be answered. -/
theorem targetValue?_eq (target : String) : targetValue? s target = targetValue? s' target := by
  rw [targetValue?, targetValue?, ← h.collections]
  cases owner : s.localCollections.find? fun c => c.variableIds.contains target with
  | some c =>
      have lists : s.Lists target :=
        ⟨c, List.mem_of_find?_eq_some owner, by simpa using List.find?_some owner⟩
      rw [lookupOrStop, lookupOrStop, h.lookup target lists]
  | none =>
      obtain ⟨v, found⟩ := answered target
      obtain ⟨v', found'⟩ := answered' target
      rw [lookupOrStop, lookupOrStop, found, found']
      cases v <;> cases v' <;> rfl

theorem detectIn_eq {c : RawCollection} (own : c ∈ s.localCollections) :
    detectIn s c = detectIn s' c := by
  have widths : widthsOfMode s = widthsOfMode s' := by
    funext v m
    simp only [widthsOfMode, widthIn?, h.targetValue?_eq answered answered']
  have listed : ∀ id ∈ c.variableIds, s.Lists id := fun id listed => ⟨c, own, listed⟩
  rw [detectIn, detectIn, h.viewportVariable?_eq none listed, widths]

theorem detect_eq : detect s = detect s' := by
  have first {cs : List RawCollection} (own : cs ⊆ s.localCollections) :
      detectFirst s cs = detectFirst s' cs := by
    induction cs with
    | nil => rfl
    | cons c rest ih =>
        obtain ⟨here, there⟩ := List.cons_subset.1 own
        rw [detectFirst, detectFirst, h.detectIn_eq answered answered' here, ih there]
  rw [detect, detect, ← h.collections]
  exact first (List.filter_subset_self _)

end

end Design.Source.LocallyAlike

/-- What does not belong to a design has no influence. Two exports with the same text styles, the
same collections of their own in the same order, and the same variable, or none, under each id that
these collections list have the same generation, the same scan and the same detection. -/
theorem foreign_data_has_no_influence (p q : Snapshot) (styles : p.textStyles = q.textStyles)
    (collections : p.source.localCollections = q.source.localCollections)
    (records : ∀ c ∈ p.source.localCollections, ∀ id ∈ c.variableIds,
      p.lookup? id = q.lookup? id) (o : Options) (w : Widths) (date : Option String) :
    generate p.source o w date = generate q.source o w date ∧
      scan p.source w = scan q.source w ∧ detect p.source = detect q.source := by
  have alike : p.source.LocallyAlike q.source := by
    refine ⟨collections, ?_, styles⟩
    rintro id ⟨c, own, listed⟩
    exact congrArg Except.ok (records c own id listed)
  have answered (p : Snapshot) (id : String) : ∃ v, p.source.lookup id = .ok v := ⟨_, rfl⟩
  exact ⟨alike.generate_eq o w date, alike.scan_eq w, alike.detect_eq (answered p) (answered q)⟩

/-! ## The part of a design that counts -/

/-- Whether no collection of the design itself lists a variable. -/
def Design.Snapshot.isForeign (p : Snapshot) (id : String) : Bool :=
  !p.source.localCollections.any fun c => c.variableIds.contains id

/-- The export without the collections of other designs, and without the variables that only those
or no collections list. -/
def Design.Snapshot.ownPart (p : Snapshot) : Snapshot :=
  { p.without p.isForeign with collections := p.source.localCollections }

namespace Design.Snapshot

theorem localCollections_ownPart (p : Snapshot) :
    p.ownPart.source.localCollections = p.source.localCollections := by
  change (p.source.localCollections.filter fun c => !c.remote) = _
  rw [Source.localCollections, List.filter_filter]
  simp only [Bool.and_self]

theorem lookup?_ownPart {p : Snapshot} {c : RawCollection} (own : c ∈ p.source.localCollections)
    {id : String} (listed : id ∈ c.variableIds) : p.ownPart.lookup? id = p.lookup? id := by
  have some_lists : p.source.localCollections.any (fun c => c.variableIds.contains id) = true :=
    List.any_eq_true.2 ⟨c, own, List.contains_iff_mem.2 listed⟩
  change (p.without p.isForeign).lookup? id = _
  rw [lookup?_without, isForeign, some_lists]
  rfl

end Design.Snapshot

namespace ForeignViewport

/-- A design whose widths refer to a variable of another design, next to one that nothing lists. -/
def design : Snapshot where
  collections := [
    ⟨"r", "Library - 1. Foundations", [⟨"x", "Value"⟩], ["u"], true⟩,
    ⟨"c", "Dimension - 1. Foundations", [⟨"d", "Desktop"⟩, ⟨"m", "Mobile"⟩], ["v"], false⟩]
  variableRecords := [
    ⟨"u", "viewport", some "", .float, [("x", .number (.int 1440))]⟩,
    ⟨"v", "viewport", some "", .float,
      [("d", .mapping [(.text "id", .text "u"), (.text "type", .text "VARIABLE_ALIAS")]),
        ("m", .number (.int 480))]⟩,
    ⟨"w", "gap", some "", .float, [("d", .number (.int 16))]⟩]
  textStyles := []

/-- Two of the three variables and one of the two collections do not count. -/
theorem library_has_no_influence :
    design.ownPart.collections.length = 1 ∧ design.ownPart.variableRecords.length = 1 ∧
      generate design.source {} .default none = generate design.ownPart.source {} .default none ∧
      scan design.source .default = scan design.ownPart.source .default ∧
      detect design.source = detect design.ownPart.source :=
  ⟨by decide, by decide, foreign_data_has_no_influence design design.ownPart rfl
    design.localCollections_ownPart.symm
    (fun _ own _ listed => (Design.Snapshot.lookup?_ownPart own listed).symm) {} .default none⟩

end ForeignViewport

end TokenSheet
