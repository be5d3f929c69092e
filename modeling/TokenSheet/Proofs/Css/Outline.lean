import Mathlib.Data.List.Chain
import TokenSheet.Css.Block
import TokenSheet.Proofs.Css.Reading

/-!
The outline of a section: the blocks that its lines make up.

The grammar is one of lines. Names, values and texts of comments are whatever they are; what a line is for
shows at its end, where a declaration has a semicolon and a block a brace. Behind the default block stand
media blocks and themes, and behind those perhaps one guarded block; what stands between two blocks is a
blank line and perhaps a comment (`IsOutline`). So blocks are closed in the order in which they are opened,
and a blank line is never followed by another one (`IsOutline.balanced`, `IsOutline.spaced`).
-/

namespace TokenSheet.Css

variable {margin selector line : String} {ls ls' : List String}

/-! ## The grammar -/

/-- A declaration on a line of its own. -/
def IsDeclarationLine (margin line : String) : Prop :=
  ∃ name value : String, line = margin ++ name ++ ": " ++ value ++ ";"

/-- A comment on a line of its own. -/
def IsCommentLine (margin line : String) : Prop :=
  ∃ text : String, line = margin ++ "/* " ++ text ++ " */"

/-- A header that opens a block, the lines of the block, and the brace that closes it. -/
def bracedAt (margin header : String) (body : List String) : List String :=
  (margin ++ header ++ " \x7b") :: body ++ [margin ++ "\x7d"]

/-- A selector with declarations, one at least. -/
inductive IsRule (margin selector : String) : List String → Prop
  | intro {body : List String} (nonempty : body ≠ [])
      (declarations : ∀ line ∈ body, IsDeclarationLine (margin ++ "  ") line) :
      IsRule margin selector (bracedAt margin selector body)

/-- The default selector under a media condition. -/
inductive IsMedia (margin : String) : List String → Prop
  | intro (condition : String) {rule : List String} (h : IsRule (margin ++ "  ") ":root" rule) :
      IsMedia margin (bracedAt margin ("@media " ++ condition) rule)

/-- A selector for a theme. -/
inductive IsTheme : List String → Prop
  | intro (theme : String) {rule : List String}
      (h : IsRule "" ("[data-theme=\x22" ++ theme ++ "\x22]") rule) : IsTheme rule

/-- Media blocks, one at least, for browsers that lack something. -/
inductive IsGuarded : List String → Prop
  | intro (condition : String) {media : List (List String)} (nonempty : media ≠ [])
      (h : ∀ block ∈ media, IsMedia "  " block) :
      IsGuarded (bracedAt "" ("@supports " ++ condition) media.flatten)

/-- A default block: declarations, one at least, with comments between them. -/
inductive IsDefault : List String → Prop
  | intro {body : List String}
      (lines : ∀ line ∈ body, IsDeclarationLine "  " line ∨ IsCommentLine "  " line)
      (declares : ∃ line ∈ body, IsDeclarationLine "  " line) :
      IsDefault (bracedAt "" ":root" body)

/-- What stands in front of a block: a blank line, and perhaps a comment. -/
inductive IsGap : List String → Prop
  | blank : IsGap [""]
  | comment {line : String} (h : IsCommentLine "" line) : IsGap ["", line]
  | themes : IsGap ("" :: themeNote)

/-- Media blocks and themes in any number. -/
inductive IsFurther : List String → Prop
  | nil : IsFurther []
  | next {gap block rest : List String} (before : IsGap gap) (h : IsMedia "" block ∨ IsTheme block)
      (others : IsFurther rest) : IsFurther (gap ++ block ++ rest)

/-- A section behind its banner. -/
inductive IsOutline : List String → Prop
  | plain {default further : List String} (first : IsDefault default) (others : IsFurther further) :
      IsOutline (default ++ further ++ [""])
  | guarded {default further gap guarded : List String} (first : IsDefault default)
      (others : IsFurther further) (before : IsGap gap) (last : IsGuarded guarded) :
      IsOutline (default ++ further ++ (gap ++ guarded) ++ [""])

theorem IsFurther.append (h : IsFurther ls) (h' : IsFurther ls') : IsFurther (ls ++ ls') := by
  induction h with
  | nil => exact h'
  | next before block _ ih =>
      rw [List.append_assoc]
      exact .next before block ih

theorem IsFurther.single {gap block : List String} (before : IsGap gap)
    (h : IsMedia "" block ∨ IsTheme block) : IsFurther (gap ++ block) := by
  rw [← List.append_nil (gap ++ block)]
  exact .next before h .nil

/-! ## Nesting and blank lines -/

/-- What a line opens or closes with its last character, if that is a brace. -/
def braceOf? (line : String) : Option Mark :=
  match line.toList.getLast? with
  | some '\x7b' => some .opening
  | some '\x7d' => some .closing
  | _ => none

/-- The braces that lines end in. -/
def lineBraces (ls : List String) : List Mark :=
  ls.filterMap braceOf?

/-- Lines in which no blank one is followed by another one. -/
def Spaced (ls : List String) : Prop :=
  ls.IsChain fun a b => a = "" → b ≠ ""

/-- Lines that open and close blocks in order, none of them blank. -/
structure IsSolid (ls : List String) : Prop where
  balanced : Balanced (lineBraces ls)
  written : ∀ line ∈ ls, line ≠ ""

/-- The lines of a block. -/
structure IsBlock (ls : List String) : Prop extends IsSolid ls where
  nonempty : ls ≠ []

theorem getLast?_append {s : String} {c : Char} (last : line.toList.getLast? = some c) :
    (s ++ line).toList.getLast? = some c := by
  rw [String.toList_append, List.getLast?_append, last]
  rfl

theorem ne_empty_of_getLast? {c : Char} (last : line.toList.getLast? = some c) : line ≠ "" := by
  rintro rfl
  cases last

theorem lineBraces_append (ls ls' : List String) :
    lineBraces (ls ++ ls') = lineBraces ls ++ lineBraces ls' :=
  List.filterMap_append

namespace IsSolid

theorem nil : IsSolid [] :=
  ⟨balanced_nil, List.forall_mem_nil _⟩

/-- A line that ends in another sign than a brace. -/
theorem of_last {c : Char} (last : line.toList.getLast? = some c) (opens : c ≠ '\x7b')
    (closes : c ≠ '\x7d') : IsSolid [line] where
  balanced := by
    have none : braceOf? line = none := by simp [braceOf?, last, opens, closes]
    rw [lineBraces, List.filterMap_cons_none none]
    exact balanced_nil
  written := List.forall_mem_singleton.2 (ne_empty_of_getLast? last)

theorem append (h : IsSolid ls) (h' : IsSolid ls') : IsSolid (ls ++ ls') where
  balanced := lineBraces_append ls ls' ▸ h.balanced.append h'.balanced
  written := List.forall_mem_append.2 ⟨h.written, h'.written⟩

theorem flatten {parts : List (List String)} (h : ∀ part ∈ parts, IsSolid part) :
    IsSolid parts.flatten := by
  induction parts with
  | nil => exact nil
  | cons part rest ih =>
      obtain ⟨here, there⟩ := List.forall_mem_cons.1 h
      exact here.append (ih there)

theorem of_lines (h : ∀ line ∈ ls, IsSolid [line]) : IsSolid ls := by
  have parts : ls = (ls.map fun line => [line]).flatten := by
    rw [← List.flatMap_def, List.flatMap_singleton']
  rw [parts]
  exact flatten (List.forall_mem_map.2 h)

theorem braced (margin header : String) (h : IsSolid ls) : IsBlock (bracedAt margin header ls) := by
  have opening : (margin ++ header ++ " \x7b").toList.getLast? = some '\x7b' :=
    getLast?_append (by decide)
  have closing : (margin ++ "\x7d").toList.getLast? = some '\x7d' := getLast?_append (by decide)
  have marks : lineBraces (bracedAt margin header ls) = braces (lineBraces ls) := by
    have first : braceOf? (margin ++ header ++ " \x7b") = some .opening := by
      rw [braceOf?, opening]
      rfl
    have last : braceOf? (margin ++ "\x7d") = some .closing := by
      rw [braceOf?, closing]
      rfl
    rw [bracedAt, lineBraces_append, lineBraces, List.filterMap_cons_some first]
    exact congrArg (_ ++ ·) (List.filterMap_cons_some last)
  refine ⟨⟨marks ▸ h.balanced.braces, ?_⟩, List.cons_ne_nil _ _⟩
  rw [bracedAt, List.cons_append, List.forall_mem_cons, List.forall_mem_append,
    List.forall_mem_singleton]
  exact ⟨ne_empty_of_getLast? opening, h.written, ne_empty_of_getLast? closing⟩

end IsSolid

theorem IsDeclarationLine.solid (h : IsDeclarationLine margin line) : IsSolid [line] := by
  obtain ⟨name, value, rfl⟩ := h
  exact .of_last (c := ';') (getLast?_append (by decide)) (by decide) (by decide)

theorem IsCommentLine.solid (h : IsCommentLine margin line) : IsSolid [line] := by
  obtain ⟨text, rfl⟩ := h
  exact .of_last (c := '/') (getLast?_append (by decide)) (by decide) (by decide)

theorem IsRule.block (h : IsRule margin selector ls) : IsBlock ls := by
  obtain ⟨-, declarations⟩ := h
  exact (IsSolid.of_lines fun line mem => (declarations line mem).solid).braced margin selector

theorem IsMedia.block (h : IsMedia margin ls) : IsBlock ls := by
  obtain ⟨condition, rule⟩ := h
  exact rule.block.braced margin _

theorem IsTheme.block (h : IsTheme ls) : IsBlock ls := by
  obtain ⟨theme, rule⟩ := h
  exact rule.block

theorem IsGuarded.block (h : IsGuarded ls) : IsBlock ls := by
  obtain ⟨condition, -, media⟩ := h
  exact (IsSolid.flatten fun part mem => (media part mem).block.toIsSolid).braced "" _

theorem IsDefault.block (h : IsDefault ls) : IsBlock ls := by
  obtain ⟨lines, -⟩ := h
  refine (IsSolid.of_lines fun line mem => ?_).braced "" _
  exact (lines line mem).elim IsDeclarationLine.solid IsCommentLine.solid

/-- Behind the blank line of a gap stands a comment at most. -/
theorem IsGap.exists_solid (h : IsGap ls) : ∃ note, ls = "" :: note ∧ IsSolid note := by
  cases h with
  | blank => exact ⟨[], rfl, .nil⟩
  | comment line => exact ⟨_, rfl, line.solid⟩
  | themes =>
      have first : IsSolid [themeNote.head (by decide)] :=
        .of_last (c := 's') (by decide) (by decide) (by decide)
      have second : IsSolid themeNote.tail := .of_last (c := '/') (by decide) (by decide) (by decide)
      exact ⟨_, rfl, first.append second⟩

theorem IsGap.balanced (h : IsGap ls) : Balanced (lineBraces ls) := by
  obtain ⟨note, rfl, solid⟩ := h.exists_solid
  exact solid.balanced

/-- Lines that are not blank do not add to the blank ones behind them. -/
theorem Spaced.behind (written : ∀ line ∈ ls, line ≠ "") (spaced : Spaced ls') :
    Spaced (ls ++ ls') := by
  induction ls with
  | nil => exact spaced
  | cons line rest ih =>
      obtain ⟨here, there⟩ := List.forall_mem_cons.1 written
      exact List.isChain_cons.2 ⟨fun _ _ blank => absurd blank here, ih there⟩

/-- A block takes the blank line of its gap away from those behind it. -/
theorem Spaced.behind_gap {gap block : List String} (before : IsGap gap) (h : IsBlock block)
    (spaced : Spaced ls) : Spaced (gap ++ block ++ ls) := by
  obtain ⟨note, rfl, solid⟩ := before.exists_solid
  have both := solid.append h.toIsSolid
  have nonempty : note ++ block ≠ [] := List.append_ne_nil_of_right_ne_nil note h.nonempty
  obtain ⟨first, rest, same⟩ := List.exists_cons_of_ne_nil nonempty
  have later : Spaced (note ++ block ++ ls) := spaced.behind both.written
  rw [List.cons_append, List.cons_append]
  refine List.isChain_cons.2 ⟨fun line next _ => ?_, later⟩
  rw [same] at next both
  obtain rfl := Option.some.inj next
  exact both.written first List.mem_cons_self

theorem IsFurther.balanced (h : IsFurther ls) : Balanced (lineBraces ls) := by
  induction h with
  | nil => exact balanced_nil
  | next before block _ ih =>
      rw [lineBraces_append, lineBraces_append]
      exact (before.balanced.append (block.elim IsMedia.block IsTheme.block).balanced).append ih

theorem IsFurther.spaced (h : IsFurther ls) (spaced : Spaced ls') : Spaced (ls ++ ls') := by
  induction h with
  | nil => exact spaced
  | next before block _ ih =>
      rw [List.append_assoc]
      exact ih.behind_gap before (block.elim IsMedia.block IsTheme.block)

/-- All blocks of a section are closed, each after those inside it. -/
theorem IsOutline.balanced (h : IsOutline ls) : Balanced (lineBraces ls) := by
  have blank : Balanced (lineBraces [""]) := balanced_nil
  cases h with
  | plain first others =>
      rw [lineBraces_append, lineBraces_append]
      exact (first.block.balanced.append others.balanced).append blank
  | guarded first others before last =>
      rw [lineBraces_append, lineBraces_append, lineBraces_append, lineBraces_append]
      exact ((first.block.balanced.append others.balanced).append
        (before.balanced.append last.block.balanced)).append blank

/-- No two blank lines follow each other, that in front of the section included. -/
theorem IsOutline.spaced (h : IsOutline ls) : Spaced ("" :: ls) := by
  have blank : Spaced [""] := .singleton _
  cases h with
  | plain first others =>
      rw [List.append_assoc]
      exact (others.spaced blank).behind_gap .blank first.block
  | guarded first others before last =>
      rw [List.append_assoc, List.append_assoc]
      exact (others.spaced (blank.behind_gap before last.block)).behind_gap .blank first.block

/-! ## What is written -/

theorem braced_eq (header : String) (body : List String) :
    braced header body = bracedAt "" header (body.map inner) := by
  rw [braced, bracedAt, String.empty_append, String.empty_append]

theorem map_inner_bracedAt (margin header : String) (body : List String) :
    (bracedAt margin header body).map inner = bracedAt ("  " ++ margin) header (body.map inner) := by
  simp [bracedAt, inner, String.append_assoc]

theorem isDeclarationLine_inner {property text : String} :
    IsDeclarationLine "  " (inner (declared property text)) :=
  ⟨property, text, by simp [inner, declared, String.append_assoc]⟩

theorem isCommentLine_comment (text : String) : IsCommentLine "" (comment text) :=
  ⟨text, by rw [String.empty_append, comment]⟩

theorem isCommentLine_inner (text : String) : IsCommentLine "  " (inner (comment text)) :=
  ⟨text, by simp only [inner, comment, String.append_assoc]⟩

theorem IsDeclarationLine.inner (h : IsDeclarationLine margin line) :
    IsDeclarationLine ("  " ++ margin) (inner line) := by
  obtain ⟨name, value, rfl⟩ := h
  exact ⟨name, value, by simp [Css.inner, String.append_assoc]⟩

theorem IsRule.inner (h : IsRule margin selector ls) :
    IsRule ("  " ++ margin) selector (ls.map inner) := by
  obtain ⟨nonempty, declarations⟩ := h
  rw [map_inner_bracedAt]
  refine .intro (mt List.map_eq_nil_iff.1 nonempty) (List.forall_mem_map.2 fun line mem => ?_)
  rw [String.append_assoc]
  exact (declarations line mem).inner

theorem IsMedia.inner (h : IsMedia margin ls) : IsMedia ("  " ++ margin) (ls.map inner) := by
  obtain ⟨condition, rule⟩ := h
  rw [map_inner_bracedAt]
  refine .intro condition ?_
  rw [String.append_assoc]
  exact rule.inner

theorem isRule_ruleLines {ds : List Declaration} (declares : ds ≠ []) :
    IsRule "" selector (ruleLines selector ds) := by
  rw [ruleLines, braced_eq]
  refine .intro (by simpa using declares) ?_
  rw [List.map_map]
  exact List.forall_mem_map.2 fun d _ => isDeclarationLine_inner

theorem isMedia_mediaLines {ds : List Declaration} (condition : String) (declares : ds ≠ []) :
    IsMedia "" (mediaLines condition ds) := by
  rw [mediaLines, braced_eq]
  exact .intro condition (isRule_ruleLines declares).inner

theorem isGuarded_of_media {bs : List MediaBlock} (nonempty : bs ≠ [])
    (declare : ∀ b ∈ bs, b.declarations ≠ []) :
    IsGuarded (braced withoutClamp (bs.flatMap MediaBlock.lines)) := by
  have header : withoutClamp = "@supports " ++ "not (width: clamp(1px, 1vw, 2px))" := by decide
  rw [braced_eq, header, List.map_flatMap, List.flatMap_def]
  refine .intro _ (mt List.map_eq_nil_iff.1 nonempty) (List.forall_mem_map.2 fun b mem => ?_)
  exact (isMedia_mediaLines b.condition.text (declare b mem)).inner

/-- Themes with a blank line between them, behind a gap. -/
theorem isFurther_separated {gap first : List String} {rest : List (List String)}
    (before : IsGap gap) (themes : ∀ rule ∈ first :: rest, IsTheme rule) :
    IsFurther (gap ++ separated (first :: rest)) := by
  obtain ⟨here, there⟩ := List.forall_mem_cons.1 themes
  induction rest generalizing gap first with
  | nil => exact .single before (.inr here)
  | cons second rest ih =>
      obtain ⟨next, others⟩ := List.forall_mem_cons.1 there
      have split : separated (first :: second :: rest) = first ++ "" :: separated (second :: rest) :=
        rfl
      rw [split, ← List.append_assoc]
      exact .next before (.inr here) (ih .blank there next others)

/-- A block that declares something wherever it can, and is not guarded. -/
inductive Block.IsFilled : Block → Prop
  | media {b : MediaBlock} (declares : b.declarations ≠ []) : IsFilled (.media b)
  | pieces (label : String) {b : MediaBlock} (declares : b.declarations ≠ []) :
      IsFilled (.pieces label b)
  | scheme {b : ThemeBlock} (declares : b.declarations ≠ []) : IsFilled (.scheme b)
  | chosenThemes {bs : List ThemeBlock} (nonempty : bs ≠ [])
      (declare : ∀ b ∈ bs, b.declarations ≠ []) : IsFilled (.chosenThemes bs)
  | furtherTheme {b : ThemeBlock} (declares : b.declarations ≠ []) : IsFilled (.furtherTheme b)

theorem Block.IsFilled.isFurther {b : Block} (h : b.IsFilled) : IsFurther b.lines := by
  cases h with
  | media declares => exact .single .blank (.inl (isMedia_mediaLines _ declares))
  | pieces label declares =>
      exact .single (.comment (isCommentLine_comment _)) (.inl (isMedia_mediaLines _ declares))
  | scheme declares => exact .single .blank (.inl (isMedia_mediaLines _ declares))
  | @chosenThemes bs nonempty declare =>
      obtain ⟨first, rest, rfl⟩ := List.exists_cons_of_ne_nil nonempty
      have themes : ∀ rule ∈ (first :: rest).map ThemeBlock.ruleLines, IsTheme rule :=
        List.forall_mem_map.2 fun b mem => .intro b.theme (isRule_ruleLines (declare b mem))
      exact isFurther_separated .themes themes
  | furtherTheme declares =>
      exact .single .blank (.inr (.intro _ (isRule_ruleLines declares)))

theorem isFurther_of_filled {bs : List Block} (filled : ∀ b ∈ bs, b.IsFilled) :
    IsFurther (bs.flatMap Block.lines) := by
  induction bs with
  | nil => exact .nil
  | cons b rest ih =>
      obtain ⟨here, there⟩ := List.forall_mem_cons.1 filled
      exact here.isFurther.append (ih there)

end TokenSheet.Css
