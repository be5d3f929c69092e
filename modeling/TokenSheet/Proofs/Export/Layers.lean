import TokenSheet.Export.Settings
import TokenSheet.Proofs.Document.Fields
import TokenSheet.Proofs.Steps

/-!
Overrides on top of a settings file.

Overrides are set among the entries of the file by key, before the options are read. An override
therefore counts over the value of the file, and where there is none the value of the file stays
(`Options.layered`). A field has two names, though, and overrides use the one for documents: where
the file has such a field under its plain name, that entry stays beside the override, no field is
found under it, and the settings are refused for it (`load_with_overrides`).
-/

namespace TokenSheet

open Check (optional onlyFields)
open Document (find? insertAll)

variable {es table : List (Key × Document)} {o : Options}

/-! ## Options field by field -/

namespace Options

/-- Whether each option is what its field among some entries is checked to be. -/
structure ReadFrom (es : List (Key × Document)) (o : Options) : Prop where
  outputMode : optional es "outputMode" "output_mode" .fluid (Check.choice OutputMode.choices) =
    .valid o.outputMode
  direction : optional es "breakpointDirection" "breakpoint_direction" .desktopFirst
    (Check.choice Direction.choices) = .valid o.direction
  references : optional es "aliasMode" "alias_mode" .preserved
    (Check.choice ReferenceMode.choices) = .valid o.references
  themes : optional es "darkModeOutput" "dark_mode_output" .both
    (Check.choice ThemeOutput.choices) = .valid o.themes
  colors : optional es "colorFormat" "color_format" .hex (Check.choice ColorNotation.choices) =
    .valid o.colors
  legacyFallbacks : optional es "includeLegacyFallbacks" "include_legacy_fallbacks" false
    Check.flag = .valid o.legacyFallbacks
  ids : optional es "includeIds" "include_ids" false Check.flag = .valid o.ids
  timestamp : optional es "includeTimestamp" "include_timestamp" false Check.flag =
    .valid o.timestamp
  viewportRelative : optional es "viewportRelativeOverrides" "viewport_relative_overrides" []
    (Check.list Check.text) = .valid o.viewportRelative
  piecewise : optional es "nonLinearOverrides" "non_linear_overrides" []
    (Check.list Check.text) = .valid o.piecewise
  textStyles : optional es "includeTextStyles" "include_text_styles" false Check.flag =
    .valid o.textStyles
  textStyleForm : optional es "textStyleFormat" "text_style_format" .properties
    (Check.choice TextStyleForm.choices) = .valid o.textStyleForm

/-- Where every field can be read, only refused keys can fail. -/
theorem ReadFrom.check (h : ReadFrom es o) :
    check es = match onlyFields fields es with
      | .valid _ => .valid o
      | .invalid failures => .invalid failures := by
  unfold Options.check
  rw [h.outputMode, h.direction, h.references, h.themes, h.colors, h.legacyFallbacks, h.ids,
    h.timestamp, h.viewportRelative, h.piecewise, h.textStyles, h.textStyleForm]
  cases onlyFields fields es <;> rfl

/-- Options that are accepted are read field by field, and no key is refused. -/
theorem readFrom_of_check (run : check es = .valid o) :
    ReadFrom es o ∧ onlyFields fields es = .valid () := by
  unfold check at run
  obtain ⟨_, _, run, only, e₁⟩ := Checked.apply_eq_valid_iff.1 run
  obtain ⟨_, _, run, textStyleForm, e₂⟩ := Checked.apply_eq_valid_iff.1 run
  obtain ⟨_, _, run, textStyles, e₃⟩ := Checked.apply_eq_valid_iff.1 run
  obtain ⟨_, _, run, piecewise, e₄⟩ := Checked.apply_eq_valid_iff.1 run
  obtain ⟨_, _, run, viewportRelative, e₅⟩ := Checked.apply_eq_valid_iff.1 run
  obtain ⟨_, _, run, timestamp, e₆⟩ := Checked.apply_eq_valid_iff.1 run
  obtain ⟨_, _, run, ids, e₇⟩ := Checked.apply_eq_valid_iff.1 run
  obtain ⟨_, _, run, legacyFallbacks, e₈⟩ := Checked.apply_eq_valid_iff.1 run
  obtain ⟨_, _, run, colors, e₉⟩ := Checked.apply_eq_valid_iff.1 run
  obtain ⟨_, _, run, themes, e₁₀⟩ := Checked.apply_eq_valid_iff.1 run
  obtain ⟨_, _, run, references, e₁₁⟩ := Checked.apply_eq_valid_iff.1 run
  obtain ⟨_, _, run, direction, e₁₂⟩ := Checked.apply_eq_valid_iff.1 run
  obtain ⟨_, _, run, outputMode, e₁₃⟩ := Checked.apply_eq_valid_iff.1 run
  cases run
  subst e₁₃ e₁₂ e₁₁ e₁₀ e₉ e₈ e₇ e₆ e₅ e₄ e₃ e₂ e₁
  exact ⟨⟨outputMode, direction, references, themes, colors, legacyFallbacks, ids, timestamp,
    viewportRelative, piecewise, textStyles, textStyleForm⟩, only⟩

theorem check_of_ofEntries (run : ofEntries es = .ok o) : check es = .valid o := by
  unfold ofEntries at run
  cases checked : check es with
  | valid o' =>
      rw [checked] at run
      rw [Except.ok.inj run]
  | invalid failures =>
      rw [checked] at run
      cases run

/-! ## Options in two layers -/

/-- The options with those above in place of those below wherever their field is given. -/
def layered (given : List (Key × Document)) (above below : Options) : Options :=
  let has (name : String) : Bool := (find? given name).isSome
  { outputMode := if has "outputMode" then above.outputMode else below.outputMode
    direction := if has "breakpointDirection" then above.direction else below.direction
    references := if has "aliasMode" then above.references else below.references
    themes := if has "darkModeOutput" then above.themes else below.themes
    colors := if has "colorFormat" then above.colors else below.colors
    legacyFallbacks :=
      if has "includeLegacyFallbacks" then above.legacyFallbacks else below.legacyFallbacks
    ids := if has "includeIds" then above.ids else below.ids
    timestamp := if has "includeTimestamp" then above.timestamp else below.timestamp
    viewportRelative :=
      if has "viewportRelativeOverrides" then above.viewportRelative else below.viewportRelative
    piecewise := if has "nonLinearOverrides" then above.piecewise else below.piecewise
    textStyles := if has "includeTextStyles" then above.textStyles else below.textStyles
    textStyleForm := if has "textStyleFormat" then above.textStyleForm else below.textStyleForm }

/-- Whether entries name their fields as documents do, each one once. -/
structure NamedOnce (given : List (Key × Document)) : Prop where
  named : ∀ e ∈ given, ∃ f ∈ fields, e.1 = .text f.1
  distinct : (given.map (·.1)).Nodup

/-- No field has the name in documents of a field for its plain name. -/
theorem fields_apart : ∀ f ∈ fields, ∀ f' ∈ fields, f.1 ≠ f'.2 := by
  decide

theorem eq_of_plain_eq : ∀ f ∈ fields, ∀ f' ∈ fields, f.2 = f'.2 → f = f' := by
  decide

namespace NamedOnce

variable {given : List (Key × Document)} (h : NamedOnce given)

include h

/-- What is given goes before what is there. -/
theorem find?_insertAll (es : List (Key × Document)) (name : String) :
    find? (insertAll es given) name = (find? given name).or (find? es name) :=
  Document.find?_insertAll (fun e mem => by
    obtain ⟨f, -, key⟩ := h.named e mem
    exact ⟨f.1, key⟩) h.distinct name

/-- Nothing is given under a plain name. -/
theorem find?_plain {f : String × String} (mem : f ∈ fields) : find? given f.2 = none := by
  refine Document.find?_eq_none_iff.2 fun inside => ?_
  obtain ⟨e, listed, same⟩ := List.mem_map.1 inside
  obtain ⟨f', mem', key⟩ := h.named e listed
  exact fields_apart f' mem' f mem (Key.text.inj (key.symm.trans same))

/-- A field is what is given for it, or else what it was. -/
theorem optional_insertAll {f : String × String} (mem : f ∈ fields) {α : Type}
    {default above below : α} {check : Document → Checked α} {es : List (Key × Document)}
    (there : optional given f.1 f.2 default check = .valid above)
    (here : optional es f.1 f.2 default check = .valid below) :
    optional (insertAll es given) f.1 f.2 default check =
      .valid (if (find? given f.1).isSome then above else below) := by
  unfold Check.optional Check.locate at there here ⊢
  rw [h.find?_insertAll, h.find?_insertAll, h.find?_plain mem]
  cases found : find? given f.1 with
  | some d =>
      rw [found] at there
      exact there
  | none => exact here

theorem readFrom_insertAll {above below : Options} (there : ReadFrom given above)
    (here : ReadFrom es below) : ReadFrom (insertAll es given) (layered given above below) where
  outputMode := h.optional_insertAll (f := ("outputMode", "output_mode")) (by decide)
    there.outputMode here.outputMode
  direction := h.optional_insertAll (f := ("breakpointDirection", "breakpoint_direction"))
    (by decide) there.direction here.direction
  references := h.optional_insertAll (f := ("aliasMode", "alias_mode")) (by decide)
    there.references here.references
  themes := h.optional_insertAll (f := ("darkModeOutput", "dark_mode_output")) (by decide)
    there.themes here.themes
  colors := h.optional_insertAll (f := ("colorFormat", "color_format")) (by decide)
    there.colors here.colors
  legacyFallbacks := h.optional_insertAll
    (f := ("includeLegacyFallbacks", "include_legacy_fallbacks")) (by decide)
    there.legacyFallbacks here.legacyFallbacks
  ids := h.optional_insertAll (f := ("includeIds", "include_ids")) (by decide) there.ids here.ids
  timestamp := h.optional_insertAll (f := ("includeTimestamp", "include_timestamp")) (by decide)
    there.timestamp here.timestamp
  viewportRelative := h.optional_insertAll
    (f := ("viewportRelativeOverrides", "viewport_relative_overrides")) (by decide)
    there.viewportRelative here.viewportRelative
  piecewise := h.optional_insertAll (f := ("nonLinearOverrides", "non_linear_overrides"))
    (by decide) there.piecewise here.piecewise
  textStyles := h.optional_insertAll (f := ("includeTextStyles", "include_text_styles"))
    (by decide) there.textStyles here.textStyles
  textStyleForm := h.optional_insertAll (f := ("textStyleFormat", "text_style_format"))
    (by decide) there.textStyleForm here.textStyleForm

end NamedOnce

/-- Whether a name is the plain one of a field that is given. -/
def isShadowed (given : List (Key × Document)) (name : String) : Bool :=
  fields.any fun f => f.2 == name && (find? given f.1).isSome

/-- The names in a table that stand beside what is given for their fields. -/
def shadowed (given table : List (Key × Document)) : List String :=
  table.filterMap fun e => match e.1 with
    | .text name => if isShadowed given name then some name else none
    | .scalar _ _ => none

theorem isShadowed_eq_false {given : List (Key × Document)} {f : String × String}
    (mem : f ∈ fields) : isShadowed given f.1 = false := by
  refine List.any_eq_false.2 fun f' mem' both => ?_
  obtain ⟨same, -⟩ := Bool.and_eq_true_iff.1 both
  exact fields_apart f mem f' mem' (beq_iff_eq.1 same).symm

theorem isShadowed_plain {given : List (Key × Document)} {f : String × String}
    (mem : f ∈ fields) : isShadowed given f.2 = (find? given f.1).isSome := by
  rw [Bool.eq_iff_iff, isShadowed, List.any_eq_true]
  constructor
  · rintro ⟨f', mem', both⟩
    obtain ⟨same, has⟩ := Bool.and_eq_true_iff.1 both
    rwa [eq_of_plain_eq f' mem' f mem (beq_iff_eq.1 same)] at has
  · exact fun has => ⟨f, mem, Bool.and_eq_true_iff.2 ⟨beq_self_eq_true _, has⟩⟩

namespace NamedOnce

variable {given : List (Key × Document)} (h : NamedOnce given)

include h

/-- What is given is found under its name. -/
theorem exists_field {k : Key} (mem : k ∈ given.map (·.1)) :
    ∃ f ∈ fields, k = .text f.1 ∧ (find? given f.1).isSome := by
  obtain ⟨e, inside, rfl⟩ := List.mem_map.1 mem
  obtain ⟨f, field, key⟩ := h.named e inside
  refine ⟨f, field, key, Option.isSome_iff_ne_none.2 fun absent => ?_⟩
  exact Document.find?_eq_none_iff.1 absent (key ▸ mem)

/-- What is given is found among other entries too, so its keys are not refused there. -/
theorem mem_usedNames_of_given (table : List (Key × Document)) {k : Key}
    (mem : k ∈ given.map (·.1)) :
    ∃ name, k = .text name ∧ name ∈ Check.usedNames fields (insertAll table given) := by
  obtain ⟨f, field, key, found⟩ := h.exists_field mem
  refine ⟨f.1, key, Check.mem_usedNames.2 ⟨f, field, .inl ⟨?_, rfl⟩⟩⟩
  rw [h.find?_insertAll, Option.isSome_or, found, Bool.true_or]

/-- A key of the table is still one of a found field unless the field is given beside it. -/
theorem mem_usedNames_iff {name : String} (used : name ∈ Check.usedNames fields table) :
    name ∈ Check.usedNames fields (insertAll table given) ↔ isShadowed given name = false := by
  obtain ⟨f, field, ⟨found, rfl⟩ | ⟨absent, found, rfl⟩⟩ := Check.mem_usedNames.1 used
  · refine iff_of_true (Check.mem_usedNames.2 ⟨f, field, .inl ⟨?_, rfl⟩⟩)
      (isShadowed_eq_false field)
    rw [h.find?_insertAll, Option.isSome_or, found, Bool.or_true]
  · rw [isShadowed_plain field, Check.mem_usedNames]
    constructor
    · rintro ⟨f', field', ⟨-, same⟩ | ⟨absent', -, same⟩⟩
      · exact absurd same.symm (fields_apart f' field' f field)
      · obtain rfl := eq_of_plain_eq f field f' field' same
        rw [h.find?_insertAll, Option.or_eq_none_iff] at absent'
        rw [absent'.1, Option.isSome_none]
    · intro free
      have ungiven : find? given f.1 = none :=
        Option.isNone_iff_eq_none.1 (Option.isSome_eq_false_iff.1 free)
      refine ⟨f, field, .inr ⟨?_, ?_, rfl⟩⟩
      · rw [h.find?_insertAll, ungiven, absent, Option.or_none]
      · rw [h.find?_insertAll, Option.isSome_or, found, Bool.or_true]

/-- The keys that are refused are those that stand beside what is given for their fields. -/
theorem refused_insertAll (only : onlyFields fields table = .valid ()) :
    ((insertAll table given).map (·.1)).filterMap
        (Check.refusal? (Check.usedNames fields (insertAll table given))) =
      (shadowed given table).map fun name => ⟨[name], .unknownField⟩ := by
  obtain ⟨added, keys, known⟩ := Document.exists_keys_insertAll table given
  have kept : added.filterMap
      (Check.refusal? (Check.usedNames fields (insertAll table given))) = [] := by
    refine List.filterMap_eq_nil_iff.2 fun k mem => ?_
    obtain ⟨name, rfl, used⟩ := h.mem_usedNames_of_given table (known k mem)
    rw [Check.refusal?, if_pos (List.contains_iff_mem.2 used)]
  rw [keys, List.filterMap_append, kept, List.append_nil, shadowed, List.map_filterMap,
    List.filterMap_map]
  refine List.filterMap_congr fun e mem => ?_
  obtain ⟨name, key, used⟩ :=
    Check.mem_usedNames_of_valid only (List.mem_map.2 ⟨e, mem, rfl⟩)
  have iff := h.mem_usedNames_iff used
  rw [Function.comp_apply, key, Check.refusal?]
  simp only []
  cases shadow : isShadowed given name with
  | false =>
      rw [if_pos (List.contains_iff_mem.2 (iff.2 shadow)), if_neg Bool.false_ne_true]
      rfl
  | true =>
      have refused : name ∉ Check.usedNames fields (insertAll table given) := fun used' =>
        Bool.false_ne_true ((iff.1 used').symm.trans shadow)
      rw [if_neg fun used' => refused (List.contains_iff_mem.1 used'), if_pos rfl]
      rfl

/-- Options on top of accepted ones are accepted unless a name stands beside what is given. -/
theorem ofEntries_insertAll {above below : Options} (there : ofEntries given = .ok above)
    (here : ofEntries table = .ok below) :
    ofEntries (insertAll table given) = if shadowed given table = [] then
        .ok (layered given above below)
      else .error ⟨(shadowed given table).map fun name => ⟨[name], .unknownField⟩⟩ := by
  obtain ⟨thereFields, -⟩ := readFrom_of_check (check_of_ofEntries there)
  obtain ⟨hereFields, only⟩ := readFrom_of_check (check_of_ofEntries here)
  have merged := (h.readFrom_insertAll thereFields hereFields).check
  rw [Check.onlyFields_eq, h.refused_insertAll only] at merged
  rw [ofEntries, merged]
  by_cases none : shadowed given table = []
  · rw [if_pos none, none]
    rfl
  · rw [if_neg none, if_neg (by simpa using none)]
    rfl

end NamedOnce

end Options

/-! ## Overrides -/

namespace Settings

/-- The overrides that count. -/
def given (overrides : List (Key × Document)) : List (Key × Document) :=
  overrides.filter fun e => match e.2 with
    | .null => false
    | _ => true

theorem overridden_eq (entries overrides : List (Key × Document)) :
    overridden entries overrides = insertAll entries (given overrides) := by
  unfold overridden insertAll
  induction overrides generalizing entries with
  | nil => rfl
  | cons e rest ih =>
      obtain ⟨k, d⟩ := e
      cases d with
      | null => exact ih entries
      | _ => exact ih (Document.insertEntry k _ entries)

theorem load_some {w : Workspace} {path : Path} {table sizes overrides : List (Key × Document)}
    (read : readTables w path = .ok (table, sizes)) :
    load w (some path) overrides = ofTables (overridden table overrides) sizes := by
  simp only [load, read]
  rfl

/-- Settings of an accepted file with accepted overrides: each option is the override if there is
one and the option of the file if not, unless the file has the plain name of an option with an
override. Then all such names are refused. The widths are those of the file. -/
theorem load_with_overrides (w : Workspace) (path : Path)
    {overrides table sizes : List (Key × Document)} {above file : Options} {widths : Widths}
    (read : readTables w path = .ok (table, sizes))
    (accepted : Options.ofEntries table = .ok file) (sized : Widths.ofEntries sizes = .ok widths)
    (named : Options.NamedOnce (given overrides))
    (valid : Options.ofEntries (given overrides) = .ok above) :
    load w (some path) overrides = if Options.shadowed (given overrides) table = [] then
        .ok ⟨Options.layered (given overrides) above file, widths⟩
      else .error (.options ⟨(Options.shadowed (given overrides) table).map fun name =>
        ⟨[name], .unknownField⟩⟩) := by
  have merged := named.ofEntries_insertAll valid accepted
  rw [← overridden_eq] at merged
  rw [load_some read, ofTables, merged, sized]
  by_cases none : Options.shadowed (given overrides) table = []
  · rw [if_pos none, if_pos none]
    rfl
  · rw [if_neg none, if_neg none]
    rfl

end Settings

/-! ## Files whose entries are texts and integers -/

namespace PlainSettings

/-- Entries with the parts of their values, if each has a name and a value of one form. -/
def parts? {α : Type} (part? : Document → Option α) (es : List (Key × Document)) :
    Option (List (String × α)) :=
  es.mapM fun e => match e.1 with
    | .text name => (part? e.2).map fun a => (name, a)
    | .scalar _ _ => none

def text? : Document → Option String
  | .text s => some s
  | _ => none

def integer? : Document → Option Int
  | .number (.int n) => some n
  | _ => none

/-- The tables of a file whose options are texts and whose widths are integers. -/
def tables? (w : Workspace) (path : Path) :
    Option (List (String × String) × List (String × Int)) :=
  match Settings.readTables w path with
  | .ok (options, sizes) => do return (← parts? text? options, ← parts? integer? sizes)
  | .error _ => none

theorem eq_of_parts? {α : Type} {part? : Document → Option α} {whole : α → Document}
    (back : ∀ {d a}, part? d = some a → d = whole a) {es : List (Key × Document)}
    {named : List (String × α)} (read : parts? part? es = some named) :
    es = named.map fun e => (.text e.1, whole e.2) := by
  induction es generalizing named with
  | nil => cases read; rfl
  | cons e rest ih =>
      obtain ⟨key, d⟩ := e
      rw [parts?, List.mapM_cons] at read
      obtain ⟨first, here, read⟩ := Option.bind_eq_some_iff.1 read
      obtain ⟨others, there, read⟩ := Option.bind_eq_some_iff.1 read
      cases read
      cases key with
      | scalar value shown => cases here
      | text name =>
          obtain ⟨a, part, rfl⟩ := Option.map_eq_some_iff.1 here
          have value : d = whole a := back part
          rw [List.map_cons, ← ih there, value]

theorem readTables_of_tables? {w : Workspace} {path : Path} {options : List (String × String)}
    {sizes : List (String × Int)} (read : tables? w path = some (options, sizes)) :
    Settings.readTables w path = .ok (options.map fun e => (.text e.1, .text e.2),
      sizes.map fun e => (.text e.1, .number (.int e.2))) := by
  unfold tables? at read
  split at read
  · rename_i os ss tables
    obtain ⟨_, texts, read⟩ := Option.bind_eq_some_iff.1 read
    obtain ⟨_, integers, read⟩ := Option.bind_eq_some_iff.1 read
    cases read
    have whole : ∀ {d : Document} {s}, text? d = some s → d = .text s := fun {d s} part => by
      cases d <;> cases part
      rfl
    have number : ∀ {d : Document} {n}, integer? d = some n → d = .number (.int n) :=
      fun {d n} part => by
        unfold integer? at part
        split at part <;> cases part
        rfl
    rw [tables, eq_of_parts? whole texts, eq_of_parts? number integers]
  · cases read

/-- A folder that holds nothing but a settings file. -/
def workspace (text : String) : Workspace where
  current := []
  nodes := [([settingsFile], .file text.toUTF8)]

def path : Path := ⟨"", [settingsFile]⟩

/-- Fixed output under the name for documents, colors under their plain name, and one width. -/
def mixedNames : String :=
  "[export]\noutputMode = \x22fixed\x22\ncolor_format = \x22oklch\x22\n" ++
    "[breakpoints]\nmobile = 375\n"

/-- Fixed output under its plain name. -/
def plainName : String :=
  "[export]\noutput_mode = \x22fixed\x22\n"

/-- Overrides that choose fluid output and nothing else. -/
def fluidOutput : List (Key × Document) :=
  [(.text "outputMode", .text "fluid"), (.text "colorFormat", .null)]

/-- An override of an option whose entry in the file has the name for documents, above an option
under its plain name. -/
theorem load_with_output_mode :
    Settings.load (workspace mixedNames) (some path) fluidOutput =
      .ok ⟨{ outputMode := .fluid, colors := .oklch }, { mobile := ⟨375, by decide⟩ }⟩ := by
  have tables : tables? (workspace mixedNames) path =
      some ([("outputMode", "fixed"), ("color_format", "oklch")], [("mobile", 375)]) := by
    decide +kernel
  have accepted : Options.ofEntries [(.text "outputMode", .text "fixed"),
      (.text "color_format", .text "oklch")] = .ok { outputMode := .fixed, colors := .oklch } :=
    rfl
  have sized : Widths.ofEntries [(.text "mobile", .number (.int 375))] =
      .ok { mobile := ⟨375, by decide⟩ } := rfl
  have valid : Options.ofEntries (Settings.given fluidOutput) = .ok { outputMode := .fluid } := rfl
  exact Settings.load_with_overrides _ path (readTables_of_tables? tables) accepted sized
    ⟨by decide, by decide⟩ valid

/-- The same override above an entry with the plain name: both are accepted alone, but the entry
is refused once the override stands beside it. -/
theorem output_mode_refused_beside_override :
    Settings.readTables (workspace plainName) path =
        .ok ([(.text "output_mode", .text "fixed")], []) ∧
      Options.ofEntries [(.text "output_mode", .text "fixed")] = .ok { outputMode := .fixed } ∧
      Widths.ofEntries [] = .ok .default ∧
      Options.ofEntries (Settings.given fluidOutput) = .ok { outputMode := .fluid } ∧
      Settings.load (workspace plainName) (some path) fluidOutput =
        .error (.options ⟨[⟨["output_mode"], .unknownField⟩]⟩) := by
  have tables : tables? (workspace plainName) path = some ([("output_mode", "fixed")], []) := by
    decide +kernel
  have read := readTables_of_tables? tables
  refine ⟨read, rfl, rfl, rfl, ?_⟩
  rw [Settings.load_some read]
  rfl

end PlainSettings

end TokenSheet
