import TokenSheet.Proofs.Section.Shown

/-!
Theme output follows the selected theme.

A theme section writes the values of its default mode, then the light and the dark mode for the
color schemes of the system, and then every theme that the page may choose (`ThemeSteps`). Each of
these blocks repeats every token, so in a window the theme that the page has chosen is shown, or
else the mode of the system scheme, or else the default mode.

Every mode has a block, with one exception: a dark mode that has no light mode beside it and is not
the first mode is kept out of the further themes, as if the pair of light and dark were written
(`LosesMode`).
-/

namespace TokenSheet

open Css (Entry Block Declaration ThemeBlock Written)

variable {o : Options} {gate : Gate} {c : Collection} {tokens : List Token} {t : Token}
  {w : Css.Window}

/-! ## The themes of a collection -/

namespace Collection

/-- The light and the dark mode, if the collection has both. -/
def themePair (c : Collection) : List (String × Mode) :=
  match c.modeNamed? "light", c.modeNamed? "dark" with
  | some light, some dark => [("light", light), ("dark", dark)]
  | _, _ => []

/-- The modes that are neither light nor dark nor the default. -/
def furtherThemes (c : Collection) : List (String × Mode) :=
  let named := (c.modeNamed? "light").toList ++ (c.modeNamed? "dark").toList ++
    ((c.modeNamed? "light").or c.firstMode?).toList
  (c.modes.filter fun m => !named.contains m).map fun m => (Text.slug m.name, m)

/-- The themes that a page may choose. -/
def themes (c : Collection) : List (String × Mode) :=
  c.themePair ++ c.furtherThemes

end Collection

/-! ## What a theme section writes -/

theorem themeBlocks_written {declared : List String} {condition : Prop} [Decidable condition]
    {themes : List (String × Mode)} {bs : List ThemeBlock}
    (run : (if condition then themeBlocks o declared tokens themes else .ok []) = .ok bs) :
    (condition → ∀ p ∈ themes,
      modeDeclarations o declared tokens p.2 = .ok (stepDeclarations o declared tokens p.2)) ∧
      ∀ circumstance : String → Css.Circumstance,
        bs.flatMap (fun b => Css.writtenFor (circumstance b.theme) b.declarations) =
          if condition then themes.flatMap fun p =>
            Css.writtenFor (circumstance p.1) (stepDeclarations o declared tokens p.2)
          else [] := by
  by_cases holds : condition
  · rw [if_pos holds] at run
    obtain ⟨steps, written⟩ := blocks_written ThemeBlock.mk run
    refine ⟨fun _ => steps, fun circumstance => ?_⟩
    rw [if_pos holds]
    exact written _ fun _ => rfl
  · rw [if_neg holds] at run
    cases run
    exact ⟨fun h => absurd h holds, fun _ => (if_neg holds).symm⟩

theorem furtherBlocks_eq_ok {declared : List String} {modes : List Mode} {bs : List Block}
    (run : furtherBlocks o declared tokens modes = .ok bs) :
    ∃ themes, (if o.followsAttribute then
        themeBlocks o declared tokens (modes.map fun m => (Text.slug m.name, m))
      else .ok []) = .ok themes ∧ bs = themes.map .furtherTheme := by
  unfold furtherBlocks at run
  by_cases chooses : o.followsAttribute = true
  · rw [if_pos chooses] at run ⊢
    obtain ⟨themes, made, done⟩ := bind_eq_ok.1 run
    exact ⟨themes, made, (pure_eq_ok.1 done).symm⟩
  · rw [if_neg chooses] at run ⊢
    exact ⟨[], rfl, (pure_eq_ok.1 run).symm⟩

/-- The steps of a theme section, and what its blocks write. -/
structure ThemeSteps (o : Options) (gate : Gate) (c : Collection) (tokens : List Token)
    (standard : Mode) (d : Draft) : Prop where
  enter : (admitted standard.id gate tokens).filterMapM (plainEntryIn o standard.id) = .ok d.entries
  schemes : o.followsScheme = true → ∀ p ∈ c.themePair,
    modeDeclarations o (declaredIds d.entries) tokens p.2 =
      .ok (stepDeclarations o (declaredIds d.entries) tokens p.2)
  choices : o.followsAttribute = true → ∀ p ∈ c.themes,
    modeDeclarations o (declaredIds d.entries) tokens p.2 =
      .ok (stepDeclarations o (declaredIds d.entries) tokens p.2)
  written : d.blocks.flatMap Block.written =
    (if o.followsScheme then c.themePair.flatMap fun p =>
        Css.writtenFor (.scheme p.1) (stepDeclarations o (declaredIds d.entries) tokens p.2)
      else []) ++
    if o.followsAttribute then c.themes.flatMap fun p =>
        Css.writtenFor (.theme p.1) (stepDeclarations o (declaredIds d.entries) tokens p.2)
      else []

theorem pairBlocks_written {declared : List String} {bs : List Block}
    (run : (match c.modeNamed? "light", c.modeNamed? "dark" with
      | some light, some dark => pairBlocks o declared tokens light dark
      | _, _ => .ok []) = .ok bs) :
    (o.followsScheme = true ∨ o.followsAttribute = true → ∀ p ∈ c.themePair,
      modeDeclarations o declared tokens p.2 = .ok (stepDeclarations o declared tokens p.2)) ∧
    bs.flatMap Block.written =
      (if o.followsScheme then c.themePair.flatMap fun p =>
          Css.writtenFor (.scheme p.1) (stepDeclarations o declared tokens p.2)
        else []) ++
      if o.followsAttribute then c.themePair.flatMap fun p =>
          Css.writtenFor (.theme p.1) (stepDeclarations o declared tokens p.2)
        else [] := by
  unfold Collection.themePair
  split at run
  · obtain ⟨schemes, chosen, first, second, rfl⟩ := pairBlocks_eq_ok run
    obtain ⟨steps, written⟩ := themeBlocks_written first
    obtain ⟨steps', written'⟩ := themeBlocks_written second
    refine ⟨fun either => either.elim steps steps', ?_⟩
    rw [List.flatMap_append, List.flatMap_map]
    refine congrArg₂ _ (written .scheme) ?_
    rw [← written' .theme]
    by_cases chooses : o.followsAttribute = true
    · rw [if_pos chooses]
      exact List.flatMap_singleton ..
    · rw [if_neg chooses] at second ⊢
      cases second
      rfl
  · cases run
    exact ⟨fun _ => List.forall_mem_nil _, by split <;> split <;> rfl⟩

theorem themedDraft_steps {d : Draft} (run : themedDraft o gate c tokens = .ok d) {standard : Mode}
    (default : (c.modeNamed? "light").or c.firstMode? = some standard) :
    ThemeSteps o gate c tokens standard d := by
  rcases themedDraft_eq_ok run with ⟨none, -⟩ |
    ⟨standard', entries, pair, further, default', made, first, second, rfl⟩
  · rw [default] at none
    cases none
  · obtain rfl := Option.some.inj (default.symm.trans default')
    obtain ⟨themes, third, rfl⟩ := furtherBlocks_eq_ok second
    have modes : c.furtherThemes =
        (c.modes.filter fun m => !((c.modeNamed? "light").toList ++
          (c.modeNamed? "dark").toList ++ [standard]).contains m).map
            fun m => (Text.slug m.name, m) := by
      rw [Collection.furtherThemes, default]
      rfl
    rw [← modes] at third
    obtain ⟨steps, written⟩ := pairBlocks_written first
    obtain ⟨steps', written'⟩ := themeBlocks_written third
    refine ⟨made, fun follows => steps (.inl follows),
      fun follows => List.forall_mem_append.2 ⟨steps (.inr follows), steps' follows⟩, ?_⟩
    rw [List.flatMap_append, List.flatMap_map, written, List.append_assoc]
    refine congrArg _ ?_
    rw [Collection.themes, List.flatMap_append]
    have last := written' .theme
    by_cases chooses : o.followsAttribute = true
    · rw [if_pos chooses] at last
      rw [if_pos chooses, if_pos chooses, ← last]
      rfl
    · rw [if_neg chooses] at last
      rw [if_neg chooses, if_neg chooses]
      exact last

/-! ## The selected theme -/

/-- Under different names, the last theme that a page has chosen is the only one. -/
theorem chosen_eq_lookup {themes : List (String × Mode)} (names : (themes.map (·.1)).Nodup)
    (theme? : Option String) :
    ((themes.filter fun p => theme? == some p.1).getLast?).map (·.2) =
      theme?.bind fun theme => themes.lookup theme := by
  cases theme? with
  | none =>
      have none_left : (themes.filter fun p => (none : Option String) == some p.1) = [] :=
        List.filter_eq_nil_iff.2 fun _ _ => Bool.false_ne_true
      rw [none_left]
      rfl
  | some theme =>
      rw [Option.bind_some]
      induction themes with
      | nil => rfl
      | cons p rest ih =>
          obtain ⟨new, names⟩ := List.nodup_cons.1 names
          rw [List.filter_cons, List.lookup_cons]
          by_cases here : theme = p.1
          · have none_left : (rest.filter fun q => some theme == some q.1) = [] := by
              refine List.filter_eq_nil_iff.2 fun q mem again => new ?_
              rw [beq_iff_eq, Option.some.injEq] at again
              exact List.mem_map.2 ⟨q, mem, again.symm.trans here⟩
            rw [none_left]
            simp [here]
          · have differ : (theme == p.1) = false := beq_eq_false_iff_ne.2 here
            rw [Option.some_beq_some, differ, if_neg Bool.false_ne_true]
            exact ih names

/-- The mode that a window selects: the theme that the page has chosen, or else the mode of the
system scheme, as far as the output follows them; the light mode otherwise. -/
def Collection.selectedMode (c : Collection) (o : Options) (light dark : Mode) (w : Css.Window) :
    Mode :=
  match if o.followsAttribute then w.theme?.bind fun theme => c.themes.lookup theme else none with
  | some m => m
  | none => if o.followsScheme ∧ w.scheme = "dark" then dark else light

/-- A token of the section of a theme collection with a light and a dark mode. All themes have
different names; the token is written in every mode and has its property to itself. -/
structure ThemeToken (o : Options) (gate : Gate) (c : Collection) (tokens : List Token)
    (s : Section) (light dark : Mode) (t : Token) : Prop where
  run : sectionOf o gate c tokens = .ok s
  kind : c.kind = .theme
  light : c.modeNamed? "light" = some light
  dark : c.modeNamed? "dark" = some dark
  names : (c.themes.map (·.1)).Nodup
  written : t.WrittenIn o c.modes
  own : Owner tokens s.entries t

theorem Collection.mem_of_mem_themePair {p : String × Mode} (mem : p ∈ c.themePair) :
    p.2 ∈ c.modes := by
  unfold themePair at mem
  split at mem
  · rename_i light dark first second
    rcases List.mem_cons.1 mem with rfl | mem
    · exact mem_of_modeNamed? first
    · rw [List.mem_singleton.1 mem]
      exact mem_of_modeNamed? second
  · cases mem

theorem Collection.mem_of_mem_themes {p : String × Mode} (mem : p ∈ c.themes) : p.2 ∈ c.modes := by
  rcases List.mem_append.1 mem with pair | further
  · exact mem_of_mem_themePair pair
  · obtain ⟨m, kept, rfl⟩ := List.mem_map.1 further
    exact List.mem_of_mem_filter kept

/-- Each theme holds a token that is written in every mode. -/
theorem shown?_themes {themes : List (String × Mode)} {circumstance : String → Css.Circumstance}
    {entries : List Entry} (own : Owner tokens entries t) (written : t.WrittenIn o c.modes)
    (within : ∀ p ∈ themes, p.2 ∈ c.modes)
    (made : ∀ p ∈ themes, modeDeclarations o (declaredIds entries) tokens p.2 =
      .ok (stepDeclarations o (declaredIds entries) tokens p.2)) :
    Css.shown? w t.property (themes.flatMap fun p => Css.writtenFor (circumstance p.1)
        (stepDeclarations o (declaredIds entries) tokens p.2)) =
      (((themes.filter fun p => (circumstance p.1).met w).getLast?).map (·.2)).map
        (t.textIn o) := by
  rw [Option.map_map]
  exact Css.shown?_flatMap fun p mem =>
    written.stepDeclarations (made p mem) (within p mem) own.mem own.id_mem own.alone

namespace ThemeSteps

variable {standard : Mode} {d : Draft} (h : ThemeSteps o gate c tokens standard d)

include h

/-- Theme sections hold their tokens as they are. -/
theorem plain_of_mem {e : Entry} (mem : e ∈ d.entries) :
    ∃ u ∈ tokens, e.key = u.key ∧
      ∃ v, u.rendered o standard.id = .ok (some v) ∧ e.form = .plain v := by
  obtain ⟨u, passed, made⟩ := (mem_filterMapM h.enter).1 mem
  obtain ⟨v, run, rfl⟩ := plainEntryIn_eq_ok.1 made
  exact ⟨u, admitted_sublist.subset passed, rfl, v, run, rfl⟩

theorem shown?_default (own : Owner tokens d.entries t) :
    Css.shown? w t.property (d.entries.flatMap Entry.written) = some (t.textIn o standard) := by
  refine shown?_plain_entries own (fun e mem n form => ?_) fun e mem same => ?_
  · obtain ⟨-, -, -, v, -, plain⟩ := h.plain_of_mem mem
    rw [plain] at form
    cases form
  · obtain ⟨u, passed, made⟩ := (mem_filterMapM h.enter).1 mem
    obtain ⟨v, run, rfl⟩ := plainEntryIn_eq_ok.1 made
    obtain rfl := own.eq_of_entryFor (admitted_sublist.subset passed) mem (entryFor_plain run) same
    exact ⟨v, rfl, Token.textIn_of_rendered run⟩

theorem shown?_choices (own : Owner tokens d.entries t) (written : t.WrittenIn o c.modes)
    (names : (c.themes.map (·.1)).Nodup) :
    Css.shown? w t.property (if o.followsAttribute then c.themes.flatMap fun p =>
        Css.writtenFor (.theme p.1) (stepDeclarations o (declaredIds d.entries) tokens p.2)
      else []) =
      (if o.followsAttribute then w.theme?.bind fun theme => c.themes.lookup theme else none).map
        (t.textIn o) := by
  by_cases chooses : o.followsAttribute = true
  · rw [if_pos chooses, if_pos chooses, shown?_themes own written
      (fun _ => Collection.mem_of_mem_themes) (h.choices chooses), ← chosen_eq_lookup names]
    rfl
  · rw [if_neg chooses, if_neg chooses]
    rfl

theorem shown?_schemes (own : Owner tokens d.entries t) (written : t.WrittenIn o c.modes)
    {light dark : Mode} (pair : c.themePair = [("light", light), ("dark", dark)]) :
    Css.shown? w t.property (if o.followsScheme then c.themePair.flatMap fun p =>
        Css.writtenFor (.scheme p.1) (stepDeclarations o (declaredIds d.entries) tokens p.2)
      else []) =
      (if o.followsScheme then
        if w.scheme = "dark" then some dark else if w.scheme = "light" then some light else none
      else none).map (t.textIn o) := by
  by_cases follows : o.followsScheme = true
  · rw [if_pos follows, if_pos follows, shown?_themes own written
      (fun _ => Collection.mem_of_mem_themePair) (h.schemes follows), pair]
    by_cases darkScheme : w.scheme = "dark"
    · simp [darkScheme, Css.Circumstance.met]
    · by_cases lightScheme : w.scheme = "light" <;>
        simp [darkScheme, lightScheme, Css.Circumstance.met]
  · rw [if_neg follows, if_neg follows]
    rfl

end ThemeSteps

/-- In a window the section shows a token as it is written in a mode. -/
def Section.ShowsMode (s : Section) (o : Options) (t : Token) (w : Css.Window) (m : Mode) : Prop :=
  ∃ text, t.renderedText o m.id = .ok (some text) ∧ s.shown? w t.property = some text

theorem Collection.selectedMode_mem {light dark : Mode} (first : light ∈ c.modes)
    (second : dark ∈ c.modes) : c.selectedMode o light dark w ∈ c.modes := by
  unfold selectedMode
  split
  · rename_i m chosen
    split at chosen
    · obtain ⟨theme, -, found⟩ := Option.bind_eq_some_iff.1 chosen
      obtain ⟨front, back, split, -⟩ := List.lookup_eq_some_iff.1 found
      have mem : (theme, m) ∈ c.themes := by
        rw [split]
        exact List.mem_append_right _ List.mem_cons_self
      exact mem_of_mem_themes mem
    · cases chosen
  · split
    · exact second
    · exact first

/-- A token that is written in every mode and has its property to itself is shown in the selected
mode. -/
theorem theme_token_follows_selection {s : Section} {light dark : Mode} (w : Css.Window)
    (h : ThemeToken o gate c tokens s light dark t) :
    s.ShowsMode o t w (c.selectedMode o light dark w) := by
  obtain ⟨run, kind, first, second, names, written, own⟩ := h
  obtain ⟨d, draft, rfl⟩ := exists_draft_of_sectionOf run
  rw [draftOf, kind] at draft
  have steps : ThemeSteps o gate c tokens light d :=
    themedDraft_steps draft (by rw [first, Option.some_or])
  have pair : c.themePair = [("light", light), ("dark", dark)] := by
    rw [Collection.themePair, first, second]
  have selected : c.selectedMode o light dark w ∈ c.modes :=
    Collection.selectedMode_mem (Collection.mem_of_modeNamed? first)
      (Collection.mem_of_modeNamed? second)
  refine ⟨_, written.renderedText selected, ?_⟩
  rw [Section.shown?, Section.written, Css.shown?_append, steps.written, Css.shown?_append,
    steps.shown?_choices own written names, steps.shown?_schemes own written pair,
    steps.shown?_default own, Collection.selectedMode]
  cases if o.followsAttribute then w.theme?.bind fun theme => c.themes.lookup theme else none with
  | some m => rfl
  | none =>
      by_cases follows : o.followsScheme = true
      · by_cases darkScheme : w.scheme = "dark"
        · simp [follows, darkScheme]
        · by_cases lightScheme : w.scheme = "light" <;> simp [follows, darkScheme, lightScheme]
      · simp [follows]

namespace ThreeThemes

/-- A collection with a light, a dark and a further mode. -/
def collection : Collection where
  id := "c"
  name := "color"
  domain := "color"
  layerName := "default"
  layer := .aliases
  modes := [⟨"s", "Sepia", none⟩, ⟨"l", "Light", none⟩, ⟨"d", "Dark", none⟩]
  kind := .theme
  tokenIds := ["v"]

/-- A text of its own in each mode. -/
def ink : Token where
  id := "v"
  name := "ink"
  description := ""
  collectionId := collection.id
  collectionName := collection.name
  domain := collection.domain
  layer := collection.layer
  kind := .string
  values := [("s", .literal (.text "brown")), ("l", .literal (.text "black")),
    ("d", .literal (.text "white"))]
  property := "--ink"

/-- The section of that token. -/
def inkSection : Section where
  title := "COLOR"
  entries := [⟨"v", "--ink", .plain (.quoted "black")⟩]
  blocks := [.scheme ⟨"light", [⟨"--ink", .quoted "black"⟩]⟩,
    .scheme ⟨"dark", [⟨"--ink", .quoted "white"⟩]⟩,
    .chosenThemes [⟨"light", [⟨"--ink", .quoted "black"⟩]⟩, ⟨"dark", [⟨"--ink", .quoted "white"⟩]⟩],
    .furtherTheme ⟨"sepia", [⟨"--ink", .quoted "brown"⟩]⟩]
  advice := []

theorem ink_themed : ThemeToken {} {} collection [ink] inkSection ⟨"l", "Light", none⟩
    ⟨"d", "Dark", none⟩ ink where
  run := rfl
  kind := rfl
  light := rfl
  dark := rfl
  names := by decide
  written := List.forall_mem_cons.2 ⟨⟨rfl, _, rfl⟩,
    List.forall_mem_cons.2 ⟨⟨rfl, _, rfl⟩, List.forall_mem_singleton.2 ⟨rfl, _, rfl⟩⟩⟩
  own := .of_only rfl

/-- A page that has chosen the light theme stays light under a dark system scheme. -/
theorem ink_follows_selection :
    ThemeToken {} {} collection [ink] inkSection ⟨"l", "Light", none⟩ ⟨"d", "Dark", none⟩ ink ∧
      inkSection.ShowsMode {} ink ⟨1024, "dark", some "light", true⟩ ⟨"l", "Light", none⟩ :=
  ⟨ink_themed, theme_token_follows_selection ⟨1024, "dark", some "light", true⟩ ink_themed⟩

end ThreeThemes

/-! ## Modes that are written -/

namespace Collection

/-- A dark mode is lost if the collection has no light mode and the dark mode is not the first one:
it is no part of a pair, and the further themes leave it out. -/
def LosesMode (c : Collection) (m : Mode) : Prop :=
  c.modeNamed? "light" = none ∧ c.modeNamed? "dark" = some m ∧ c.firstMode? ≠ some m

theorem mem_furtherThemes {p : String × Mode} :
    p ∈ c.furtherThemes ↔ p.2 ∈ c.modes ∧ p.1 = Text.slug p.2.name ∧
      c.modeNamed? "light" ≠ some p.2 ∧ c.modeNamed? "dark" ≠ some p.2 ∧
      (c.modeNamed? "light").or c.firstMode? ≠ some p.2 := by
  obtain ⟨name, m⟩ := p
  simp only [furtherThemes, List.mem_map, List.mem_filter, Bool.not_eq_true',
    List.contains_eq_mem, decide_eq_false_iff_not, List.mem_append, Option.mem_toList, not_or,
    Prod.mk.injEq, ne_eq]
  constructor
  · rintro ⟨m, ⟨mem, ⟨light, dark⟩, default⟩, rfl, rfl⟩
    exact ⟨mem, rfl, light, dark, default⟩
  · rintro ⟨mem, rfl, light, dark, default⟩
    exact ⟨m, ⟨mem, ⟨light, dark⟩, default⟩, rfl, rfl⟩

/-- Every mode is the default mode, or has a theme, or is lost. -/
theorem mode_cases (kind : c.kind = .theme) {m : Mode} (mem : m ∈ c.modes) :
    c.standardMode? o = some m ∨ (∃ name, (name, m) ∈ c.themes) ∨ c.LosesMode m := by
  rw [standardMode?_of_theme kind]
  by_cases default : (c.modeNamed? "light").or c.firstMode? = some m
  · exact .inl default
  by_cases second : c.modeNamed? "dark" = some m
  · cases first : c.modeNamed? "light" with
    | some light =>
        refine .inr (.inl ⟨"dark", List.mem_append_left _ ?_⟩)
        rw [themePair, first, second]
        exact List.mem_cons_of_mem _ (List.mem_singleton_self _)
    | none =>
        rw [first, Option.none_or] at default
        exact .inr (.inr ⟨first, second, default⟩)
  · have notLight : c.modeNamed? "light" ≠ some m := by
      intro first
      rw [first, Option.some_or] at default
      exact default rfl
    exact .inr (.inl ⟨Text.slug m.name, List.mem_append_right _
      (mem_furtherThemes.2 ⟨mem, rfl, notLight, second, default⟩)⟩)

/-- A lost mode is not the default mode. -/
theorem LosesMode.standardMode?_ne {m : Mode} (lost : c.LosesMode m) (kind : c.kind = .theme) :
    c.standardMode? o ≠ some m := by
  rw [standardMode?_of_theme kind, lost.1, Option.none_or]
  exact lost.2.2

/-- A lost mode has no theme. -/
theorem LosesMode.theme_ne {m : Mode} (lost : c.LosesMode m) {p : String × Mode}
    (mem : p ∈ c.themes) : p.2 ≠ m := by
  rintro rfl
  rcases List.mem_append.1 mem with pair | further
  · rw [themePair, lost.1] at pair
    cases pair
  · exact (mem_furtherThemes.1 further).2.2.2.1 lost.2.1

end Collection

/-- Whether an entry is that of a token: its value in the default mode under its property. -/
def Collection.EntryOf (o : Options) (c : Collection) (t : Token) (e : Entry) : Prop :=
  ∃ m, c.standardMode? o = some m ∧ plainEntryIn o m.id t = .ok (some e)

/-- A token that the section of a theme collection declares: its own entry is among those of the
section. -/
structure ThemeDeclared (o : Options) (gate : Gate) (c : Collection) (tokens : List Token)
    (s : Section) (t : Token) : Prop where
  run : sectionOf o gate c tokens = .ok s
  kind : c.kind = .theme
  mem : t ∈ tokens
  declared : ∃ e ∈ s.entries, c.EntryOf o t e

/-- The section writes a token with its text in a mode: in the default block if the mode is the
default, and below the selector of a theme with that mode otherwise. -/
def Section.WritesMode (s : Section) (o : Options) (c : Collection) (t : Token) (m : Mode) : Prop :=
  ∃ circumstance text, t.renderedText o m.id = .ok (some text) ∧
    (⟨circumstance, t.property, text⟩ : Written) ∈ s.written ∧
    if c.standardMode? o = some m then circumstance = .always
    else ∃ name, (name, m) ∈ c.themes ∧ circumstance = .theme name

/-- What is written for the declarations of a mode is the text of some token there. -/
theorem renderedText_of_mem_writtenFor {declared : List String} {m : Mode} {ds : List Declaration}
    {circumstance : Css.Circumstance} (made : modeDeclarations o declared tokens m = .ok ds)
    {x : Written} (mem : x ∈ Css.writtenFor circumstance ds) :
    ∃ u ∈ tokens, u.property = x.property ∧ u.renderedText o m.id = .ok (some x.text) := by
  obtain ⟨d, holds, rfl⟩ := List.mem_map.1 mem
  obtain ⟨u, known, -, writes⟩ := (mem_modeDeclarations made).1 holds
  obtain ⟨-, v, run, rfl⟩ := declaration?_eq_ok.1 writes
  exact ⟨u, known, rfl, Token.renderedText_eq_ok.2 ⟨v, run, rfl⟩⟩

/-- Everything that the section writes is the text of some token in a mode other than this one. -/
def Section.Omits (s : Section) (o : Options) (c : Collection) (tokens : List Token) (m : Mode) :
    Prop :=
  ∀ d ∈ s.written, ∃ m' ∈ c.modes, m' ≠ m ∧
    ∃ u ∈ tokens, u.property = d.property ∧ u.renderedText o m'.id = .ok (some d.text)

/-- An entry of a token writes the text of the token. -/
theorem mem_written_of_plainEntryIn {entries : List Entry} {e : Entry} {modeId : String}
    {v : Css.Value Float} (listed : e ∈ entries) (made : plainEntryIn o modeId t = .ok (some e))
    (rendered : t.rendered o modeId = .ok (some v)) :
    (⟨.always, t.property, v.text⟩ : Written) ∈ entries.flatMap Entry.written := by
  obtain ⟨v', run, rfl⟩ := plainEntryIn_eq_ok.1 made
  obtain rfl := Option.some.inj (Except.ok.inj (rendered.symm.trans run))
  exact List.mem_flatMap.2 ⟨_, listed, List.mem_singleton_self _⟩

namespace ThemeSteps

variable {standard : Mode} {d : Draft} (h : ThemeSteps o gate c tokens standard d)

include h

theorem theme_written (chooses : o.followsAttribute = true) {p : String × Mode}
    (theme : p ∈ c.themes) (mem : t ∈ tokens) (declared : t.id ∈ declaredIds d.entries)
    {v : Css.Value Float} (rendered : t.rendered o p.2.id = .ok (some v))
    (notOwn : t.isOwnReference (t.valueIn p.2.id) = false) :
    (⟨.theme p.1, t.property, v.text⟩ : Written) ∈ d.blocks.flatMap Block.written := by
  rw [h.written, if_pos chooses]
  refine List.mem_append_right _ (List.mem_flatMap.2 ⟨p, theme, ?_⟩)
  have writes : declaration? o p.2.id t = .ok (some ⟨t.property, v⟩) :=
    declaration?_eq_ok.2 ⟨notOwn, v, rendered, rfl⟩
  have holds := (mem_modeDeclarations (h.choices chooses p theme)).2 ⟨t, mem, declared, writes⟩
  exact List.mem_map.2 ⟨_, holds, rfl⟩

/-- Everything that is written stands for the default mode or for a theme. -/
theorem of_mem_written {x : Written}
    (mem : x ∈ d.entries.flatMap Entry.written ++ d.blocks.flatMap Block.written) :
    ∃ m, (m = standard ∨ ∃ p ∈ c.themes, m = p.2) ∧
      ∃ u ∈ tokens, u.property = x.property ∧ u.renderedText o m.id = .ok (some x.text) := by
  rcases List.mem_append.1 mem with entry | block
  · obtain ⟨e, mem, inside⟩ := List.mem_flatMap.1 entry
    obtain ⟨u, passed, made⟩ := (mem_filterMapM h.enter).1 mem
    obtain ⟨v, run, rfl⟩ := plainEntryIn_eq_ok.1 made
    rw [List.mem_singleton.1 inside]
    exact ⟨standard, .inl rfl, u, admitted_sublist.subset passed, rfl,
      Token.renderedText_eq_ok.2 ⟨v, run, rfl⟩⟩
  · rw [h.written] at block
    rcases List.mem_append.1 block with scheme | choice
    · split at scheme
      · rename_i follows
        obtain ⟨p, theme, mem⟩ := List.mem_flatMap.1 scheme
        exact ⟨p.2, .inr ⟨p, List.mem_append_left _ theme, rfl⟩,
          renderedText_of_mem_writtenFor (h.schemes follows p theme) mem⟩
      · cases scheme
    · split at choice
      · rename_i follows
        obtain ⟨p, theme, mem⟩ := List.mem_flatMap.1 choice
        exact ⟨p.2, .inr ⟨p, theme, rfl⟩,
          renderedText_of_mem_writtenFor (h.choices follows p theme) mem⟩
      · cases choice

end ThemeSteps

/-- Where the page may choose a theme, every mode in which a declared token is written has a
declaration of it, unless the mode is lost; nothing that the section writes stands for a lost
mode. -/
theorem theme_mode_written_unless_lost {s : Section} {m : Mode} {text : String}
    (h : ThemeDeclared o gate c tokens s t) (chooses : o.followsAttribute = true)
    (mem : m ∈ c.modes) (written : t.renderedText o m.id = .ok (some text))
    (notOwn : t.isOwnReference (t.valueIn m.id) = false) :
    (¬ c.LosesMode m → s.WritesMode o c t m) ∧ (c.LosesMode m → s.Omits o c tokens m) := by
  obtain ⟨run, kind, known, e, listed, standard, default, made⟩ := h
  obtain ⟨d, draft, rfl⟩ := exists_draft_of_sectionOf run
  rw [draftOf, kind] at draft
  obtain ⟨v, rendered, rfl⟩ := Token.renderedText_eq_ok.1 written
  have declared : t.id ∈ declaredIds d.entries := by
    obtain ⟨v, -, rfl⟩ := plainEntryIn_eq_ok.1 made
    exact List.mem_map_of_mem listed
  have steps : ThemeSteps o gate c tokens standard d :=
    themedDraft_steps draft (Collection.standardMode?_of_theme kind ▸ default)
  constructor
  · intro kept
    by_cases isDefault : c.standardMode? o = some m
    · obtain rfl := Option.some.inj (default.symm.trans isDefault)
      refine ⟨.always, _, written, List.mem_append_left _ ?_, by rw [if_pos isDefault]⟩
      exact mem_written_of_plainEntryIn listed made rendered
    · rcases Collection.mode_cases (o := o) kind mem with default | ⟨name, theme⟩ | lost
      · exact absurd default isDefault
      · refine ⟨.theme name, _, written, List.mem_append_right _ ?_, ?_⟩
        · exact steps.theme_written chooses theme known declared rendered notOwn
        · rw [if_neg isDefault]
          exact ⟨name, theme, rfl⟩
      · exact absurd lost kept
  · intro lost x listed
    obtain ⟨m', origin, u, token, same, run⟩ := steps.of_mem_written listed
    rcases origin with rfl | ⟨p, theme, rfl⟩
    · refine ⟨m', Collection.mem_of_standardMode? default, ?_, u, token, same, run⟩
      rintro rfl
      exact lost.standardMode?_ne kind default
    · exact ⟨p.2, Collection.mem_of_mem_themes theme, lost.theme_ne theme, u, token, same, run⟩

namespace ThreeThemes

/-- The further mode is written below its own selector. -/
theorem sepia_written :
    ThemeDeclared {} {} collection [ink] inkSection ink ∧
      (⟨"s", "Sepia", none⟩ : Mode) ∈ collection.modes ∧
      ink.renderedText {} "s" = .ok (some "\x22brown\x22") ∧
      ink.isOwnReference (ink.valueIn "s") = false ∧
      inkSection.WritesMode {} collection ink ⟨"s", "Sepia", none⟩ := by
  have declared : ThemeDeclared {} {} collection [ink] inkSection ink :=
    ⟨rfl, rfl, List.mem_singleton_self _, _, List.mem_singleton_self _, _, rfl, rfl⟩
  have kept : ¬ collection.LosesMode ⟨"s", "Sepia", none⟩ := fun lost => absurd lost.1 (by decide)
  have written := theme_mode_written_unless_lost declared rfl List.mem_cons_self
    (show ink.renderedText {} "s" = .ok (some "\x22brown\x22") from rfl) rfl
  exact ⟨declared, List.mem_cons_self, rfl, rfl, written.1 kept⟩

end ThreeThemes

namespace LoneDark

/-- A collection with a dark mode and no light one. -/
def collection : Collection :=
  { ThreeThemes.collection with modes := [⟨"b", "Base", none⟩, ⟨"d", "Dark", none⟩] }

/-- A text of its own in each mode. -/
def ink : Token :=
  { ThreeThemes.ink with
    values := [("b", .literal (.text "black")), ("d", .literal (.text "white"))] }

/-- The section of that token: the dark mode has no block. -/
def inkSection : Section where
  title := "COLOR"
  entries := [⟨"v", "--ink", .plain (.quoted "black")⟩]
  blocks := []
  advice := []

/-- A dark mode may be lost: the token is declared and has a text of its own there, and the page may
choose a theme, but the section writes that text nowhere. -/
theorem theme_mode_may_be_lost :
    ThemeDeclared {} {} collection [ink] inkSection ink ∧
      ({} : Options).followsAttribute = true ∧
      (⟨"d", "Dark", none⟩ : Mode) ∈ collection.modes ∧
      ink.renderedText {} "d" = .ok (some "\x22white\x22") ∧
      ink.isOwnReference (ink.valueIn "d") = false ∧
      ∀ x ∈ inkSection.written, x.text ≠ "\x22white\x22" := by
  refine ⟨⟨rfl, rfl, List.mem_singleton_self _, _, List.mem_singleton_self _, _, rfl, rfl⟩, rfl,
    List.mem_cons_of_mem _ List.mem_cons_self, rfl, rfl, ?_⟩
  exact List.forall_mem_singleton.2 (by decide)

end LoneDark

end TokenSheet
