import TokenSheet.Proofs.Css.Outline
import TokenSheet.Proofs.Section.Additions
import TokenSheet.Proofs.Section.Themes
import TokenSheet.Proofs.Stylesheet.Locality

/-!
The outline of what a collection adds to a stylesheet.

A block without declarations is left out by every strategy, and the themes that can be chosen repeat the
default block at least, so the blocks of a section are filled, and at most the last one is guarded
(`row_of_draftOf`). From this the lines of a section follow the grammar, whatever values are missing
(`added_lines_follow_outline`).
-/

namespace TokenSheet

open Css (Entry Block Declaration MediaBlock ThemeBlock IsDefault IsOutline Spaced)

variable {o : Options} {gate : Gate} {tokens : List Token} {c : Collection} {d : Draft} {s : Section}
  {declared : List String} {m : Mode} {entries : List Entry}

/-! ## Filled blocks -/

theorem declares_of_mediaBlocks {ts : List (Css.Condition × Mode)} {bs : List MediaBlock}
    (run : mediaBlocks o declared tokens ts = .ok bs) : ∀ b ∈ bs, b.declarations ≠ [] := by
  intro b mem
  obtain ⟨-, -, -, -, declares⟩ := mem_mediaBlocks run mem
  exact declares

theorem declares_of_themeBlocks {condition : Prop} [Decidable condition]
    {themes : List (String × Mode)} {bs : List ThemeBlock}
    (run : (if condition then themeBlocks o declared tokens themes else .ok []) = .ok bs) :
    ∀ b ∈ bs, b.declarations ≠ [] := by
  split at run
  · intro b mem
    obtain ⟨-, -, -, -, declares⟩ := mem_themeBlocks run mem
    exact declares
  · cases run
    exact List.forall_mem_nil _

theorem declares_of_addPiece {p : LaterPiece} {blocks : List (String × MediaBlock)}
    (declare : ∀ b ∈ blocks, b.2.declarations ≠ []) :
    ∀ b ∈ addPiece p blocks, b.2.declarations ≠ [] := by
  induction blocks with
  | nil => simp [addPiece]
  | cons first rest ih =>
      obtain ⟨label, b⟩ := first
      obtain ⟨here, there⟩ := List.forall_mem_cons.1 declare
      rw [addPiece]
      split
      · exact List.forall_mem_cons.2 ⟨List.append_ne_nil_of_left_ne_nil here _, there⟩
      · exact List.forall_mem_cons.2 ⟨here, ih there⟩

theorem declares_of_pieceBlocks (ps : List LaterPiece) :
    ∀ b ∈ pieceBlocks ps, b.2.declarations ≠ [] := by
  unfold pieceBlocks
  -- the fold keeps this from any blocks that have it, so from none
  generalize start : ([] : List (String × MediaBlock)) = blocks
  have declare : ∀ b ∈ blocks, b.2.declarations ≠ [] := by
    rw [← start]
    exact List.forall_mem_nil _
  clear start
  induction ps generalizing blocks with
  | nil => exact declare
  | cons p rest ih => exact ih (addPiece p blocks) (declares_of_addPiece declare)

/-! ## Theme sections -/

/-- The mode of the default block declares its tokens again. -/
theorem declares_of_default
    (made : (admitted m.id gate tokens).filterMapM (plainEntryIn o m.id) = .ok entries)
    (declares : entries ≠ []) {ds : List Declaration}
    (run : modeDeclarations o (declaredIds entries) tokens m = .ok ds) : ds ≠ [] := by
  obtain ⟨e, rest, rfl⟩ := List.exists_cons_of_ne_nil declares
  obtain ⟨t, passed, writes⟩ := (mem_filterMapM made).1 List.mem_cons_self
  obtain ⟨v, rendered, rfl⟩ := plainEntryIn_eq_ok.1 writes
  have own := (passed_of_mem_admitted passed).notOwn
  refine List.ne_nil_of_mem (a := ⟨t.property, v⟩) ((mem_modeDeclarations run).2 ⟨t, ?_, ?_, ?_⟩)
  · exact admitted_sublist.subset passed
  · exact List.mem_cons_self
  · exact declaration?_eq_ok.2 ⟨own, v, rendered, rfl⟩

theorem themeBlocks_ne_nil {theme : String} {others : List (String × Mode)} {bs : List ThemeBlock}
    (run : themeBlocks o declared tokens ((theme, m) :: others) = .ok bs)
    (declares : ∀ ds, modeDeclarations o declared tokens m = .ok ds → ds ≠ []) : bs ≠ [] := by
  obtain ⟨r, step⟩ := (filterMapM_eq_ok.1 run).1 (theme, m) List.mem_cons_self
  obtain ⟨ds, made, -⟩ := bind_eq_ok.1 step
  refine List.ne_nil_of_mem (a := ⟨theme, ds⟩) ((mem_filterMapM run).2 ⟨_, List.mem_cons_self, ?_⟩)
  exact blockOfMode_eq_ok.2 ⟨ds, made, declares ds made, rfl⟩

/-! ## Blocks in a row -/

/-- Blocks that are filled, and behind them perhaps a guarded one whose parts are. -/
inductive IsRow : List Block → Prop
  | plain {bs : List Block} (filled : ∀ b ∈ bs, b.IsFilled) : IsRow bs
  | guarded {bs : List Block} {media : List MediaBlock} (filled : ∀ b ∈ bs, b.IsFilled)
      (nonempty : media ≠ []) (declare : ∀ b ∈ media, b.declarations ≠ []) :
      IsRow (bs ++ [.fallback media])

theorem filled_of_mediaBlocks {ts : List (Css.Condition × Mode)} {bs : List MediaBlock}
    (run : mediaBlocks o declared tokens ts = .ok bs) : ∀ b ∈ bs.map Block.media, b.IsFilled :=
  List.forall_mem_map.2 fun b mem => .media (declares_of_mediaBlocks run b mem)

/-- The default block of a theme section has the values of the light mode, which its own block repeats. -/
theorem filled_of_pairBlocks {light dark : Mode} {bs : List Block}
    (made : (admitted light.id gate tokens).filterMapM (plainEntryIn o light.id) = .ok entries)
    (declares : entries ≠ [])
    (run : pairBlocks o (declaredIds entries) tokens light dark = .ok bs) :
    ∀ b ∈ bs, b.IsFilled := by
  obtain ⟨schemes, chosen, first, second, rfl⟩ := pairBlocks_eq_ok run
  refine List.forall_mem_append.2 ⟨List.forall_mem_map.2 fun b mem => ?_, ?_⟩
  · exact .scheme (declares_of_themeBlocks first b mem)
  · split
    · rename_i chooses
      have declare := declares_of_themeBlocks second
      rw [if_pos chooses] at second
      have nonempty := themeBlocks_ne_nil second fun ds => declares_of_default made declares
      exact List.forall_mem_singleton.2 (.chosenThemes nonempty declare)
    · exact List.forall_mem_nil _

theorem row_of_themedDraft (run : themedDraft o gate c tokens = .ok d) (declares : d.entries ≠ []) :
    IsRow d.blocks := by
  rcases themedDraft_eq_ok run with ⟨-, rfl⟩ |
    ⟨standard, entries, pair, further, default, made, first, second, rfl⟩
  · exact absurd rfl declares
  · obtain ⟨themes, third, rfl⟩ := furtherBlocks_eq_ok second
    refine .plain (List.forall_mem_append.2 ⟨?_, List.forall_mem_map.2 fun b mem => ?_⟩)
    · split at first
      · rename_i light dark lightMode darkMode
        rw [lightMode, Option.some_or] at default
        obtain rfl := Option.some.inj default
        exact filled_of_pairBlocks made declares first
      · cases first
        exact List.forall_mem_nil _
    · exact .furtherTheme (declares_of_themeBlocks third b mem)

theorem row_of_fluidDraft {modes : List Mode} (run : fluidDraft o gate modes tokens = .ok d) :
    IsRow d.blocks := by
  rcases fluidDraft_eq_ok run with ⟨-, rfl⟩ |
    ⟨widest, standard, entrants, growing, fixed, media, fallback, -, -, steps, -, blocks⟩
  · exact .plain (List.forall_mem_nil _)
  · have filled : ∀ b ∈ media.map Block.media ++
        (pieceBlocks (laterPieces growing)).map (fun p => .pieces p.1 p.2), b.IsFilled := by
      refine List.forall_mem_append.2 ⟨filled_of_mediaBlocks steps.step, ?_⟩
      exact List.forall_mem_map.2 fun p mem => .pieces p.1 (declares_of_pieceBlocks _ p mem)
    rw [blocks]
    rcases fallbackBlocks_cases steps.guard with rfl | ⟨guarded, nonempty, rfl⟩
    · rw [List.append_nil]
      exact .plain filled
    · obtain ⟨_, made, same⟩ := fallbackBlocks_eq_ok steps.guard List.mem_cons_self
      cases same
      exact .guarded filled nonempty (declares_of_mediaBlocks made)

/-- Whatever the strategy, the blocks behind a default block that declares something are filled. -/
theorem row_of_draftOf (run : draftOf o gate c tokens = .ok d) (declares : d.entries ≠ []) :
    IsRow d.blocks := by
  by_cases fluid : c.IsFluid o
  · rw [draftOf_of_isFluid fluid] at run
    exact row_of_fluidDraft run
  · cases kind : c.kind with
    | breakpoint =>
        rw [draftOf_of_stepped kind fluid] at run
        rcases steppedDraft_eq_ok run with ⟨-, rfl⟩ | ⟨m, entries, media, -, -, blocks, rfl⟩
        · exact absurd rfl declares
        · exact .plain (filled_of_mediaBlocks blocks)
    | theme =>
        rw [draftOf, kind] at run
        exact row_of_themedDraft run declares
    | single =>
        rw [draftOf, kind] at run
        rcases flatDraft_eq_ok run with ⟨-, rfl⟩ | ⟨m, entries, -, -, rfl⟩
        · exact absurd rfl declares
        · exact .plain (List.forall_mem_nil _)

theorem row_of_sectionOf (run : sectionOf o gate c tokens = .ok s) (declares : s.entries ≠ []) :
    s.title = Text.upper c.name ∧ IsRow s.blocks := by
  obtain ⟨d, draft, rfl⟩ := exists_draft_of_sectionOf run
  exact ⟨rfl, row_of_draftOf draft declares⟩

/-! ## Lines -/

/-- The lines of an entry are comments and declarations, of which there is one. -/
theorem Css.Entry.lines_inner (gridColumns : Nat) (ids : Bool) (e : Entry) :
    (∀ line ∈ (e.lines gridColumns ids).map Css.inner,
      Css.IsDeclarationLine "  " line ∨ Css.IsCommentLine "  " line) ∧
    ∃ line ∈ (e.lines gridColumns ids).map Css.inner, Css.IsDeclarationLine "  " line := by
  constructor
  · intro line mem
    obtain ⟨own, listed, rfl⟩ := List.mem_map.1 mem
    rcases mem_lines_iff.1 listed with ⟨-, rfl⟩ | ⟨note, -, rfl⟩ | ⟨d, -, rfl⟩
    · exact .inr (Css.isCommentLine_inner _)
    · exact .inr (Css.isCommentLine_inner _)
    · exact .inl Css.isDeclarationLine_inner
  · obtain ⟨d, mem⟩ := List.exists_mem_of_ne_nil _ e.declared_ne_nil
    have listed : Css.declared d.1 d.2 ∈ e.lines gridColumns ids :=
      mem_lines_iff.2 (.inr (.inr ⟨d, mem, rfl⟩))
    exact ⟨_, List.mem_map_of_mem listed, Css.isDeclarationLine_inner⟩

theorem isDefault_of_entries (ids : Bool) (declares : entries ≠ []) :
    IsDefault (Css.braced Css.rootSelector (entries.flatMap (Entry.lines Fluid.gridColumns ids))) := by
  rw [Css.braced_eq, List.map_flatMap]
  refine .intro (fun line mem => ?_) ?_
  · obtain ⟨e, -, mem⟩ := List.mem_flatMap.1 mem
    exact (e.lines_inner Fluid.gridColumns ids).1 line mem
  · obtain ⟨e, rest, rfl⟩ := List.exists_cons_of_ne_nil declares
    obtain ⟨line, mem, declaration⟩ := (e.lines_inner Fluid.gridColumns ids).2
    exact ⟨line, List.mem_flatMap.2 ⟨e, List.mem_cons_self, mem⟩, declaration⟩

/-- A section with a row of blocks is a banner and an outline. -/
theorem Section.lines_outline (ids : Bool) (declares : s.entries ≠ []) (row : IsRow s.blocks) :
    ∃ body, s.lines ids = banner '-' [s.title] ++ body ∧ IsOutline body := by
  have first := isDefault_of_entries ids declares
  rw [lines, if_neg (mt List.isEmpty_iff.1 declares)]
  generalize s.blocks = blocks at row ⊢
  cases row with
  | plain filled =>
      exact ⟨_, by simp only [List.append_assoc], .plain first (Css.isFurther_of_filled filled)⟩
  | guarded filled nonempty declare =>
      refine ⟨_, ?_, .guarded first (Css.isFurther_of_filled filled)
        (.comment (Css.isCommentLine_comment "Fallback for older browsers"))
        (Css.isGuarded_of_media nonempty declare)⟩
      rw [List.flatMap_append, List.flatMap_singleton]
      simp only [List.append_assoc]
      rfl

theorem Section.spaced_banner (title : String) {body : List String} (outline : IsOutline body) :
    Spaced (banner '-' [title] ++ body) := by
  have ruler : "/* " ++ String.ofList (List.replicate 74 '-') ≠ "" := by decide
  have text : "   " ++ title ≠ "" := by simp
  have closing : "   " ++ String.ofList (List.replicate 74 '-') ++ " */" ≠ "" := by decide
  have written : ∀ line ∈ ["/* " ++ String.ofList (List.replicate 74 '-'), "   " ++ title,
      "   " ++ String.ofList (List.replicate 74 '-') ++ " */"], line ≠ "" :=
    List.forall_mem_cons.2 ⟨ruler, List.forall_mem_cons.2 ⟨text, List.forall_mem_singleton.2 closing⟩⟩
  have spaced := outline.spaced.behind written
  exact spaced

/-- The lines that a collection adds to an emission are none, where it declares nothing, or a banner and an
outline: a default block, media blocks and themes, and one guarded block at most, each with a declaration at
least. Behind the banner blocks are closed in the order in which they are opened, and no blank line follows
another one. -/
theorem added_lines_follow_outline {e e' : Emission} {reserved : List String} (ids : Bool)
    (run : e.add o reserved c tokens = .ok e') :
    ∃ added, e'.lines ids = e.lines ids ++ added ∧ Spaced added ∧
      (added = [] ∧ e'.properties = e.properties ∨
        ∃ body, added = Section.banner '-' [Text.upper c.name] ++ body ∧ IsOutline body ∧
          Css.Balanced (Css.lineBraces body)) := by
  obtain ⟨s, made, done⟩ := bind_eq_ok.1 run
  obtain rfl := pure_eq_ok.1 done
  refine ⟨s.lines ids, (Emission.adds_of_sectionOf ids made).lines, ?_⟩
  by_cases declares : s.entries = []
  · have silent : s.lines ids = [] := if_pos (List.isEmpty_iff.2 declares)
    have undeclared : (Emission.mk (e.sections ++ [s])).properties = e.properties := by
      rw [Emission.properties, List.flatMap_append, List.flatMap_singleton, Section.properties,
        declares, List.map_nil, List.append_nil]
      rfl
    rw [silent]
    exact ⟨.nil, .inl ⟨rfl, undeclared⟩⟩
  · obtain ⟨title, row⟩ := row_of_sectionOf made declares
    obtain ⟨body, lines, outline⟩ := Section.lines_outline ids declares row
    rw [lines, title]
    exact ⟨Section.spaced_banner _ outline, .inr ⟨body, rfl, outline, outline.balanced⟩⟩

namespace TwoStarts

/-- A section with themes of the system scheme and themes that can be chosen. -/
theorem ink_follows_outline :
    long.add {} ["--space-unit"] themes inks = .ok ⟨long.sections ++ [inkSection]⟩ ∧
      ∃ added, (Emission.mk (long.sections ++ [inkSection])).lines true = long.lines true ++ added ∧
        Spaced added ∧ ∃ body, added = Section.banner '-' [Text.upper themes.name] ++ body ∧
          IsOutline body ∧ Css.Balanced (Css.lineBraces body) := by
  obtain ⟨added, lines, spaced, outline⟩ := added_lines_follow_outline true add_long
  refine ⟨add_long, added, lines, spaced, outline.resolve_left ?_⟩
  rintro ⟨rfl, -⟩
  exact absurd lines (by decide +kernel)

end TwoStarts

end TokenSheet
