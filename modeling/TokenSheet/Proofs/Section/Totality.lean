import TokenSheet.Proofs.Fluid.Totality
import TokenSheet.Proofs.Lists
import TokenSheet.Proofs.Section.FluidDraft

/-!
Sections return.

What a section is made of fails for one reason only: a number without an integer part, or a width
too large for a number. So every part of a section returns for tokens with bounded numbers, over
modes with bounded widths. The lemmas follow the functions one by one, from the text of a token in
one mode up to the draft of a section.
-/

namespace TokenSheet

open Binary (IsBelow)
open Fluid (Sample sampleIn)

/-- Whether the number that a literal stands for, if any, is less than `2 ^ k` in size. -/
def Literal.Within (k : Nat) (l : Literal) : Prop :=
  ∀ x, l.number? = some x → IsBelow k x

/-- Whether the number in a value, if any, is less than `2 ^ k` in size. -/
def TokenValue.Within (k : Nat) : TokenValue → Prop
  | .reference .. => True
  | .literal l => l.Within k

/-- Whether the numbers of a token are less than `2 ^ k` in size, in all modes. -/
def Token.Within (k : Nat) (t : Token) : Prop :=
  ∀ v ∈ t.values, v.2.Within k

/-- Whether a mode has a width from zero up to `2 ^ b`. -/
structure Mode.Within (b : Nat) (m : Mode) : Prop where
  px_nonneg : 0 ≤ m.px
  px_lt : m.px.toNat < 2 ^ b

variable {k b : Nat} {o : Options} {t : Token} {modes : List Mode}

/-! ## Tokens in a mode -/

theorem Token.Within.valueIn {modeId : String} {v : TokenValue} (h : t.Within k)
    (value : t.valueIn modeId = some v) : v.Within k :=
  h _ (mem_of_lookup value)

theorem Token.Within.numberIn {modeId : String} {x : Float} (h : t.Within k)
    (number : t.numberIn modeId = some x) : IsBelow k x := by
  unfold Token.numberIn at number
  split at number
  · rename_i l value
    exact h.valueIn value x number
  · cases number

theorem Literal.Within.render {l : Literal} (h : l.Within k) (range : k ≤ 900) (t : Token) :
    Returns (t.renderLiteral l) := by
  unfold Token.renderLiteral
  split
  · exact ((h _ rfl).roundTo (by omega)).map _
  · exact ((h _ rfl).roundTo (by omega)).map _
  · exact returns_ok _
  · exact returns_ok _

theorem Token.Within.rendered (h : t.Within k) (range : k ≤ 900) (o : Options) (modeId : String) :
    Returns (t.rendered o modeId) := by
  unfold Token.rendered
  split
  · rename_i v value
    have within := h.valueIn value
    unfold Token.render
    split
    · exact returns_ok none
    · exact returns_ok _
    · rename_i l
      exact (Literal.Within.render within range t).map _
  · exact returns_ok none

theorem Token.Within.renderedText (h : t.Within k) (range : k ≤ 900) (o : Options)
    (modeId : String) : Returns (t.renderedText o modeId) :=
  (h.rendered range o modeId).map _

theorem Token.Within.differsFrom (h : t.Within k) (range : k ≤ 900) (text : Option String) :
    Returns (t.differsFrom o text modes) := by
  induction modes with
  | nil => exact returns_ok false
  | cons m rest ih =>
      unfold Token.differsFrom
      refine Returns.ite (fun _ => ih) fun _ => ?_
      refine (h.renderedText range o m.id).bind fun here _ => ?_
      exact Returns.ite (fun _ => ih) fun _ => returns_pure true

theorem Token.Within.varies (h : t.Within k) (range : k ≤ 900) : Returns (t.varies o modes) := by
  unfold Token.varies
  split
  · exact returns_ok false
  · exact returns_ok false
  · exact (h.renderedText range o _).bind fun text _ => h.differsFrom range text

theorem Token.Within.isStepped (h : t.Within k) (range : k ≤ 900) :
    Returns (t.isStepped o modes) :=
  (h.varies range).map _

theorem Token.Within.isScaling (h : t.Within k) (range : k ≤ 900) :
    Returns (t.isScaling o modes) := by
  unfold Token.isScaling
  exact Returns.ite (fun _ => h.varies range) fun _ => returns_ok false

theorem Token.Within.plainEntryIn (h : t.Within k) (range : k ≤ 900) (modeId : String) :
    Returns (plainEntryIn o modeId t) :=
  (h.rendered range o modeId).map _

theorem Token.Within.declaration? (h : t.Within k) (range : k ≤ 900) (modeId : String) :
    Returns (declaration? o modeId t) := by
  unfold TokenSheet.declaration?
  exact Returns.ite (fun _ => returns_ok none) fun _ => (h.rendered range o modeId).map _

theorem Token.Within.steppedEntryIn (h : t.Within k) (range : k ≤ 900) (modeId : String) :
    Returns (steppedEntryIn o modeId t) := by
  unfold TokenSheet.steppedEntryIn
  split
  · exact returns_ok _
  · exact h.plainEntryIn range modeId

/-! ## Tokens over several modes -/

theorem Token.Within.sampleIn {m : Mode} {p : Sample Float} (h : t.Within k) (hm : m.Within b)
    (sample : sampleIn t m = some p) : p.Within k b := by
  unfold Fluid.sampleIn at sample
  obtain ⟨x, number, rfl⟩ := Option.map_eq_some_iff.1 sample
  exact ⟨h.numberIn number, hm.px_nonneg, hm.px_lt⟩

theorem endToEnd_returns {p q : Sample Float} (hp : p.Within k b) (hq : q.Within k b)
    (range : k + b ≤ 900) : Returns (Fluid.endToEnd o t p q) := by
  unfold Fluid.endToEnd
  refine Returns.ite (fun _ => ?_) fun _ => Returns.ite (fun _ => ?_) fun _ => ?_
  · exact (Fluid.viewportCapped_returns hp.value (by omega) t.unit).map _
  · exact (hp.value.roundTo (by omega)).map _
  · exact (Fluid.linearClamp_returns hp hq range t.unit).map _

theorem Token.Within.fluidValue? (h : t.Within k) (hm : ∀ m ∈ modes, m.Within b)
    (range : k + b ≤ 900) : Returns (Fluid.fluidValue? o t modes) := by
  unfold Fluid.fluidValue?
  split
  · rename_i wide narrow first last
    obtain ⟨m, head, sample⟩ := Option.bind_eq_some_iff.1 first
    obtain ⟨m', tail, sample'⟩ := Option.bind_eq_some_iff.1 last
    have hw := h.sampleIn (hm m (List.mem_of_mem_head? head)) sample
    have hn := h.sampleIn (hm m' (List.mem_of_mem_getLast? tail)) sample'
    exact (endToEnd_returns hw hn range).map _
  · exact returns_ok none

theorem Token.Within.piecesFrom (h : t.Within k) (range : k + b ≤ 900)
    (condition : Mode → Css.Condition) (condition? : Option Css.Condition)
    (hm : ∀ m ∈ modes, m.Within b) : Returns (Fluid.piecesFrom condition t condition? modes) := by
  induction modes generalizing condition? with
  | nil => exact returns_ok []
  | cons first rest ih =>
      cases rest with
      | nil => exact returns_ok []
      | cons last rest =>
          unfold Fluid.piecesFrom
          have next := ih (some (condition last)) fun m mem => hm m (List.mem_cons_of_mem _ mem)
          split
          · rename_i p q sample sample'
            have hp := h.sampleIn (hm first List.mem_cons_self) sample
            have hq := h.sampleIn (hm last (List.mem_cons_of_mem _ List.mem_cons_self)) sample'
            exact (Fluid.linearClamp_returns hp hq range t.unit).bind fun v _ => next.map _
          · exact next.map _

theorem Token.Within.pieces (h : t.Within k) (hm : ∀ m ∈ modes, m.Within b)
    (range : k + b ≤ 900) (desktopFirst : Bool) : Returns (Fluid.pieces desktopFirst t modes) := by
  unfold Fluid.pieces
  refine Returns.ite (fun _ => h.piecesFrom range _ _ hm) fun _ => ?_
  exact h.piecesFrom range _ _ fun m mem => hm m (List.mem_reverse.1 mem)

theorem Token.Within.profileOf? (h : t.Within k) (hm : ∀ m ∈ modes, m.Within b)
    (range : k + b ≤ 900) : Returns (Fluid.profileOf? t modes) := by
  unfold Fluid.profileOf?
  refine Returns.ite (fun _ => ?_) fun _ => returns_ok none
  split
  · rename_i samples measured
    apply Fluid.profile?_returns _ range
    intro s mem
    obtain ⟨m, inside, sample⟩ := exists_of_forall₂_right (mapM_eq_some measured) mem
    obtain ⟨x, number, rfl⟩ := Option.map_eq_some_iff.1 sample
    exact ⟨h.numberIn number, (hm m inside).px_nonneg, (hm m inside).px_lt⟩
  · exact returns_ok none

theorem Token.Within.advice (h : t.Within k) (hm : ∀ m ∈ modes, m.Within b)
    (range : k + b ≤ 900) : Returns (t.advice modes) := by
  unfold Token.advice
  exact Returns.ite (fun _ => (h.profileOf? hm range).map _) fun _ => returns_pure _

/-! ## Blocks of modes -/

section
variable {tokens : List Token} {m : Mode}

theorem modeDeclarations_returns (h : ∀ t ∈ tokens, t.Within k) (range : k ≤ 900)
    (declared : List String) : Returns (modeDeclarations o declared tokens m) := by
  apply Returns.filterMapM
  intro t mem
  exact (h t (List.mem_filter.1 mem).1).declaration? range m.id

theorem mediaBlocks_returns (h : ∀ t ∈ tokens, t.Within k) (range : k ≤ 900)
    (declared : List String) (transitions : List (Css.Condition × Mode)) :
    Returns (mediaBlocks o declared tokens transitions) := by
  apply Returns.filterMapM
  intro p _
  exact (modeDeclarations_returns h range declared).map _

theorem themeBlocks_returns (h : ∀ t ∈ tokens, t.Within k) (range : k ≤ 900)
    (declared : List String) (themes : List (String × Mode)) :
    Returns (themeBlocks o declared tokens themes) := by
  apply Returns.filterMapM
  intro p _
  exact (modeDeclarations_returns h range declared).map _

end

/-! ## Entrants of a fluid section -/

theorem Token.Within.entrant (h : t.Within k) (hm : ∀ m ∈ modes, m.Within b)
    (range : k + b ≤ 900) : Returns (Entrant.ofToken o modes t) := by
  unfold Entrant.ofToken
  refine (h.isStepped (by omega)).bind fun stepped _ => ?_
  refine Returns.ite (fun _ => returns_pure _) fun _ => ?_
  refine (h.isScaling (by omega)).bind fun scaling _ => ?_
  exact Returns.ite (fun _ => (h.advice hm range).map _) fun _ => returns_pure _

theorem Token.Within.piecewiseEntryOf (h : t.Within k) (hm : ∀ m ∈ modes, m.Within b)
    (range : k + b ≤ 900) : Returns (piecewiseEntryOf o modes t) := by
  unfold TokenSheet.piecewiseEntryOf
  refine Returns.ite (fun _ => ?_) fun _ => returns_pure none
  refine (h.pieces hm range o.desktopFirst).bind fun pieces _ => ?_
  cases pieces with
  | nil => exact returns_pure none
  | cons first later => exact Returns.ite (fun _ => returns_pure _) fun _ => returns_pure none

theorem Token.Within.interpolatedEntry (h : t.Within k) (hm : ∀ m ∈ modes, m.Within b)
    (range : k + b ≤ 900) (standard : Css.Value Float) :
    Returns (interpolatedEntry o modes t standard) := by
  unfold TokenSheet.interpolatedEntry
  refine (h.fluidValue? hm range).bind fun value _ => ?_
  rcases value with _ | ⟨form, v⟩
  · exact returns_pure _
  · cases form <;> exact returns_pure _

theorem Token.Within.scalingEntry (h : t.Within k) (hm : ∀ m ∈ modes, m.Within b)
    (range : k + b ≤ 900) (standard : Css.Value Float) :
    Returns (scalingEntry o modes t standard) := by
  unfold TokenSheet.scalingEntry
  split
  · exact returns_ok _
  · refine (h.piecewiseEntryOf hm range).bind fun entry _ => ?_
    cases entry with
    | none => exact (h.interpolatedEntry hm range standard).map _
    | some e => exact returns_pure e

theorem Token.Within.clampableEntryIn {e : Entrant} (h : e.token.Within k)
    (hm : ∀ m ∈ modes, m.Within b) (range : k + b ≤ 900) (standardId : String) :
    Returns (clampableEntryIn o modes standardId e) := by
  unfold TokenSheet.clampableEntryIn
  refine (h.rendered (by omega) o standardId).bind fun value _ => ?_
  cases value with
  | none => exact returns_pure none
  | some v =>
      exact Returns.ite (fun _ => (h.scalingEntry hm range v).map _) fun _ => returns_pure _

/-! ## Drafts -/

section
variable {gate : Gate} {tokens : List Token} {c : Collection}

theorem admitted_within (h : ∀ t ∈ tokens, t.Within k) (modeId : String) :
    ∀ t ∈ admitted modeId gate tokens, t.Within k :=
  fun t mem => h t (admitted_sublist.subset mem)

theorem plainEntries_returns (h : ∀ t ∈ tokens, t.Within k) (range : k ≤ 900) (modeId : String) :
    Returns (tokens.filterMapM (plainEntryIn o modeId)) :=
  Returns.filterMapM fun t mem => (h t mem).plainEntryIn range modeId

theorem flatDraft_returns (h : ∀ t ∈ tokens, t.Within k) (range : k ≤ 900) :
    Returns (flatDraft o gate c tokens) := by
  unfold flatDraft
  split
  · exact returns_ok _
  · exact (plainEntries_returns (admitted_within h _) range _).map _

theorem steppedDraft_returns (h : ∀ t ∈ tokens, t.Within k) (range : k ≤ 900) :
    Returns (steppedDraft o gate modes tokens) := by
  unfold steppedDraft
  split
  · exact returns_ok _
  · rename_i standard default
    have entries : Returns ((admitted standard.id gate tokens).filterMapM
        (steppedEntryIn o standard.id)) :=
      Returns.filterMapM fun t mem => (admitted_within h _ t mem).steppedEntryIn range _
    exact entries.bind fun made _ => (mediaBlocks_returns h range _ _).map _

theorem pairBlocks_returns (h : ∀ t ∈ tokens, t.Within k) (range : k ≤ 900)
    (declared : List String) (light dark : Mode) :
    Returns (pairBlocks o declared tokens light dark) := by
  have pair := themeBlocks_returns (o := o) h range declared [("light", light), ("dark", dark)]
  unfold pairBlocks
  refine Returns.ite (fun _ => pair.bind fun schemes _ => ?_) fun _ => ?_
  · exact Returns.ite (fun _ => pair.map _) fun _ => returns_pure _
  · exact Returns.ite (fun _ => pair.map _) fun _ => returns_pure _

theorem furtherBlocks_returns (h : ∀ t ∈ tokens, t.Within k) (range : k ≤ 900)
    (declared : List String) : Returns (furtherBlocks o declared tokens modes) := by
  unfold furtherBlocks
  exact Returns.ite (fun _ => (themeBlocks_returns h range declared _).map _) fun _ => returns_pure _

theorem themedDraft_returns (h : ∀ t ∈ tokens, t.Within k) (range : k ≤ 900) :
    Returns (themedDraft o gate c tokens) := by
  unfold themedDraft
  dsimp only
  split
  · exact returns_pure _
  · rename_i standard chosen
    refine (plainEntries_returns (admitted_within h _) range _).bind fun entries _ => ?_
    split
    · refine (pairBlocks_returns h range _ _ _).bind fun pair _ => ?_
      exact (furtherBlocks_returns h range _).map _
    · exact (furtherBlocks_returns h range _).map _

theorem fluidDraft_returns (h : ∀ t ∈ tokens, t.Within k) (hm : ∀ m ∈ modes, m.Within b)
    (range : k + b ≤ 900) : Returns (fluidDraft o gate modes tokens) := by
  unfold fluidDraft
  split
  · rename_i widest standard first default
    have entering : ∀ t ∈ admitted widest.id gate tokens, t.Within k := admitted_within h widest.id
    refine (Returns.mapM fun t mem => (entering t mem).entrant hm range).bind fun entrants run => ?_
    have inside : ∀ e ∈ entrants, e.token.Within k := by
      intro e mem
      obtain ⟨t, passed, made⟩ := mem_mapM run mem
      rw [(entrantOf_of_ofToken made).token]
      exact entering t passed
    have stepped : ∀ t ∈ mediaDriven entrants, t.Within k := by
      intro t mem
      obtain ⟨e, kept, rfl⟩ := List.mem_map.1 mem
      exact inside e (List.mem_filter.1 kept).1
    have repeated : ∀ declared, ∀ t ∈ ((clampable entrants).filter (needsFallback o declared)).map
        (·.token), t.Within k := by
      intro declared t mem
      obtain ⟨e, kept, rfl⟩ := List.mem_map.1 mem
      exact inside e (List.mem_filter.1 (List.mem_filter.1 kept).1).1
    have growing : Returns ((clampable entrants).filterMapM
        (clampableEntryIn o modes standard.id)) :=
      Returns.filterMapM fun e mem =>
        (inside e (List.mem_filter.1 mem).1).clampableEntryIn hm range _
    refine growing.bind fun grown _ => ?_
    refine (plainEntries_returns stepped (by omega) _).bind fun fixed _ => ?_
    refine (mediaBlocks_returns stepped (by omega) _ _).bind fun media _ => ?_
    refine Returns.map ?_ _
    unfold fallbackBlocks
    exact Returns.ite (fun _ => (mediaBlocks_returns (repeated _) (by omega) _ _).map _)
      fun _ => returns_pure _
  · exact returns_ok _

/-- The section of a collection returns if its tokens hold bounded numbers and its modes have
bounded widths. -/
theorem sectionOf_returns (h : ∀ t ∈ tokens, t.Within k)
    (hm : ∀ m ∈ c.modes, m.Within b) (range : k + b ≤ 900) :
    Returns (sectionOf o gate c tokens) := by
  have draft : Returns (draftOf o gate c tokens) := by
    unfold draftOf
    split
    · have inOrder : ∀ m ∈ Mode.widestFirst c.modes, m.Within b :=
        fun m mem => hm m (Mode.mem_widestFirst.1 mem)
      exact Returns.ite (fun _ => fluidDraft_returns h inOrder range)
        fun _ => steppedDraft_returns h (by omega)
    · exact themedDraft_returns h (by omega)
    · exact flatDraft_returns h (by omega)
  exact draft.map _

end

end TokenSheet
