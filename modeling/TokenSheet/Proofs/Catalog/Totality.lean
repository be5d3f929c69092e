import TokenSheet.Proofs.Catalog.Provenance
import TokenSheet.Proofs.Css.ColorRange
import TokenSheet.Proofs.Section.Totality

/-!
Reading returns, and keeps bounds.

A value of a design is read as a double, and a color becomes text. Both return for numbers below a
power of two, and the numbers of the tokens are bounded by what the design holds. Naming and
flattening only move values, so the whole catalog keeps the bound.
-/

namespace TokenSheet

open Binary (IsBelow)
open Design (RawValue RawVariable Source)

variable {k : Nat}

/-! ## Numbers of a design -/

/-- Whether a number as written is less than `2 ^ k` in size. -/
def Number.Within (k : Nat) : Number → Prop
  | .int n => n.natAbs < 2 ^ k
  | .real x => IsBelow k x

/-- Whether the numbers that a value may be read as, its own or those under its keys, are less than
`2 ^ k` in size. -/
def Document.Within (k : Nat) : Document → Prop
  | .number n => n.Within k
  | .mapping entries => ∀ name n, Design.channel? entries name = some n → n.Within k
  | _ => True

/-- Whether the values of a variable hold numbers less than `2 ^ k` in size only. -/
def Design.RawVariable.Within (k : Nat) (v : RawVariable) : Prop :=
  ∀ p ∈ v.values, p.2.Within k

/-- Whether the numbers of a narrowed value are less than `2 ^ k` in size. -/
def Design.RawValue.Within (k : Nat) : RawValue → Prop
  | .color red green blue alpha =>
    IsBelow k red ∧ IsBelow k green ∧ IsBelow k blue ∧ ∀ a, alpha = some a → a.Within k
  | .number x => IsBelow k x
  | _ => True

theorem Number.Within.mono {j k : Nat} {n : Number} (h : n.Within j) (le : j ≤ k) : n.Within k := by
  cases n with
  | int m => exact Nat.lt_of_lt_of_le h (Nat.pow_le_pow_right (by decide) le)
  | real x => exact Binary.IsBelow.mono h le

/-- An integer may be rounded up to the next power of two. -/
theorem toDouble_eq_ok {n : Number} (h : n.Within k) (range : k ≤ 900) :
    ∃ x, Design.toDouble n = .ok x ∧ IsBelow (k + 1) x := by
  cases n with
  | int m =>
      exact ⟨_, Binary.doubleOfInt_eq_ok h (by omega), (Binary.ofQuotient_one h (by omega)).1⟩
  | real x => exact ⟨x, rfl, Binary.IsBelow.mono h (by omega)⟩

theorem readMapping_finds {entries : List (Key × Document)}
    (h : ∀ name n, Design.channel? entries name = some n → n.Within k) (range : k ≤ 900) :
    Finds (RawValue.Within (k + 1)) (Design.readMapping entries) := by
  unfold Design.readMapping
  split
  · exact finds_some trivial
  · split
    · rename_i r g b red green blue
      obtain ⟨x, read, hx⟩ := toDouble_eq_ok (h _ _ red) range
      obtain ⟨y, read', hy⟩ := toDouble_eq_ok (h _ _ green) range
      obtain ⟨z, read'', hz⟩ := toDouble_eq_ok (h _ _ blue) range
      rw [read, ok_bind, read', ok_bind, read'', ok_bind]
      exact finds_some ⟨hx, hy, hz, fun a alpha => (h _ _ alpha).mono (by omega)⟩
    · exact finds_none

theorem read_finds {d : Document} (h : d.Within k) (range : k ≤ 900) :
    Finds (RawValue.Within (k + 1)) (RawValue.read d) := by
  cases d with
  | mapping entries => exact readMapping_finds h range
  | number n =>
      obtain ⟨x, read, small⟩ := toDouble_eq_ok h range
      unfold RawValue.read
      dsimp only
      rw [read]
      exact finds_some small
  | flag f => exact finds_some trivial
  | text s => exact finds_some trivial
  | _ => exact finds_none

theorem Design.RawVariable.Within.valueIn {v : RawVariable} (h : v.Within k) (range : k ≤ 900)
    (modeId : String) : Finds (RawValue.Within (k + 1)) (v.valueIn modeId) := by
  unfold RawVariable.valueIn
  split
  · rename_i d found
    exact read_finds (h _ (mem_of_lookup found)) range
  · exact finds_none

/-! ## Values of a token -/

/-- What a notation of colors asks for: the polar one needs the machine's library, and channels that
it can take to a power. -/
def ColorNotation.Within (k : Nat) (colors : ColorNotation) : Prop :=
  colors = .oklch → k ≤ 150 ∧ Css.PolarLibrary

section
variable {colors : ColorNotation} {v : RawVariable}

theorem alphaOf_within {n : Number} (h : n.Within k) : (alphaOf n).Within k := by
  cases n <;> exact h

theorem colorText_returns {red green blue : Float} {alpha : Option Number} (hc : colors.Within k)
    (h : (RawValue.color red green blue alpha).Within k) (range : k ≤ 900) :
    Returns (colorText colors red green blue alpha) := by
  obtain ⟨hr, hg, hb, ha⟩ := h
  have opacity : ∀ a, alpha.map alphaOf = some a → a.Within k := by
    intro a mapped
    obtain ⟨n, some, rfl⟩ := Option.map_eq_some_iff.1 mapped
    exact alphaOf_within (ha n some)
  unfold colorText
  cases colors with
  | hex => exact Css.hexColor_returns hr hg hb opacity range
  | oklch =>
      obtain ⟨narrow, library⟩ := hc rfl
      exact Css.polarColor_returns library hr hg hb opacity narrow

theorem literal_flag_within (flag : Bool) : (Literal.flag flag).Within (k + 1) := by
  have one : IsBelow 1 1.0 := by decide +kernel
  have zero : IsBelow 1 0.0 := by decide +kernel
  rintro _ ⟨⟩
  cases flag
  · exact zero.mono (by omega)
  · exact one.mono (by omega)

theorem literalOf?_finds {value : RawValue} (hc : colors.Within (k + 1)) (h : value.Within (k + 1))
    (range : k + 1 ≤ 900) (kind : TokenKind) :
    Finds (Literal.Within (k + 1)) (literalOf? colors kind value) := by
  -- Text stands for no number at all.
  have text (s : String) : (Literal.text s).Within (k + 1) := by rintro _ ⟨⟩
  unfold literalOf?
  split
  · obtain ⟨color, written⟩ := colorText_returns hc h range
    rw [written]
    exact finds_some (text color)
  · refine finds_some ?_
    rintro _ ⟨⟩
    exact h
  · exact finds_some (text _)
  · exact finds_some (literal_flag_within _)
  · exact finds_some (literal_flag_within _)
  · exact finds_none

theorem valueOf?_finds (hc : colors.Within (k + 1)) (h : v.Within k) (range : k + 1 ≤ 900)
    (modeId : String) : Finds (TokenValue.Within (k + 1)) (Token.valueOf? colors v modeId) := by
  unfold Token.valueOf?
  refine (h.valueIn (by omega) modeId).bind finds_none fun value within => ?_
  have literal := literalOf?_finds hc within range v.kind
  cases value with
  | reference target => exact finds_some trivial
  | _ => exact literal.bind finds_none fun l small => finds_some small

theorem valuesOf_returns (hc : colors.Within (k + 1)) (h : v.Within k) (range : k + 1 ≤ 900)
    (modeIds : List String) : Returns (Token.valuesOf colors v modeIds) :=
  Returns.filterMapM fun id _ => (valueOf?_finds hc h range id).returns.map _

theorem ofRaw_returns (hc : colors.Within (k + 1)) (h : v.Within k) (range : k + 1 ≤ 900)
    (c : Collection) : Returns (Token.ofRaw colors c v) :=
  (valuesOf_returns hc h range _).map _

theorem ofRaw_within {c : Collection} {t : Token} (hc : colors.Within (k + 1)) (h : v.Within k)
    (range : k + 1 ≤ 900) (run : Token.ofRaw colors c v = .ok t) : t.Within (k + 1) := by
  obtain ⟨values, read, done⟩ := bind_eq_ok.1 run
  rw [← pure_eq_ok.1 done]
  intro p mem
  obtain ⟨id, -, step⟩ := (mem_filterMapM read).1 mem
  obtain ⟨value?, value, done⟩ := bind_eq_ok.1 step
  obtain ⟨given, rfl, rfl⟩ := Option.map_eq_some_iff.1 (pure_eq_ok.1 done)
  exact (valueOf?_finds hc h range id).of_eq_ok value

end

/-! ## Catalogs -/

namespace Catalog

variable {s : Source} {w : Widths} {o : Options} {cat : Catalog}

/-- Whether the numbers of all tokens are less than `2 ^ k` in size. -/
def Within (k : Nat) (cat : Catalog) : Prop :=
  ∀ t ∈ cat.tokens, t.Within k

theorem unnamed_returns {colors : ColorNotation} (hc : colors.Within (k + 1))
    (h : ∀ id v, s.lookup id = .ok (some v) → v.Within k) (range : k + 1 ≤ 900) :
    Returns (unnamed s w colors) := by
  refine Returns.map (Returns.mapM fun c _ => Returns.mapM fun v listed => ?_) _
  obtain ⟨id, -, found⟩ := mem_listedVariables.1 listed
  exact ofRaw_returns hc (h id v found) range c

theorem unnamed_within {colors : ColorNotation} (hc : colors.Within (k + 1))
    (h : ∀ id v, s.lookup id = .ok (some v) → v.Within k) (range : k + 1 ≤ 900)
    (run : unnamed s w colors = .ok cat) : cat.Within (k + 1) := by
  obtain ⟨tokens, read, done⟩ := bind_eq_ok.1 run
  rw [← pure_eq_ok.1 done]
  intro t mem
  obtain ⟨ts, group, mem⟩ := List.mem_flatten.1 mem
  obtain ⟨c, listing, read⟩ := mem_mapM read group
  obtain ⟨v, listed, made⟩ := mem_mapM read mem
  obtain ⟨id, -, found⟩ := mem_listedVariables.1 listed
  exact ofRaw_within hc (h id v found) range made

theorem Within.nameReferences (h : cat.Within k) : cat.nameReferences.Within k := by
  refine List.forall_mem_map.2 fun t mem => List.forall_mem_map.2 fun v value => ?_
  have within := h t mem v value
  generalize v.2 = given at within ⊢
  cases given with
  | reference target property? => trivial
  | literal l => exact within

/-- The literal at the end of a walk is one of the catalog. -/
theorem Within.walkFrom (h : cat.Within k) {start modeId : String} {met : List String}
    {value : Option TokenValue} {l : Literal} (within : ∀ v, value = some v → v.Within k)
    (walk : cat.walkFrom start met modeId value = .literal l) : l.Within k := by
  fun_induction Catalog.walkFrom cat start met modeId value with
  | case1 => cases walk
  | case2 met modeId given =>
      obtain rfl := WalkEnd.literal.inj walk
      exact within _ rfl
  | case3 => cases walk
  | case4 => cases walk
  | case5 => cases walk
  | case6 met modeId target property? elsewhere fresh t found mode ih =>
      apply ih _ walk
      intro v value
      exact (h t (mem_tokens_of_token? found).1).valueIn value

theorem Within.flatValue? (h : cat.Within k) {t : Token} (mem : t ∈ cat.tokens) {modeId : String}
    {v flat : TokenValue} (within : v.Within k) (made : cat.flatValue? t modeId v = some flat) :
    flat.Within k := by
  cases v with
  | literal l =>
      obtain rfl := Option.some.inj made
      exact within
  | reference target property? =>
      obtain ⟨l, reached, rfl⟩ := Option.map_eq_some_iff.1 made
      cases walk : cat.walk t modeId with
      | literal l' =>
          rw [walk] at reached
          obtain rfl := Option.some.inj reached
          exact h.walkFrom (fun v value => (h t mem).valueIn value) walk
      | circular =>
          rw [walk] at reached
          cases reached
      | nothing =>
          rw [walk] at reached
          cases reached

theorem Within.flatten (h : cat.Within k) : cat.flatten.Within k := by
  refine List.forall_mem_map.2 fun t mem v value => ?_
  obtain ⟨given, inside, made⟩ := List.mem_filterMap.1 value
  obtain ⟨flat, walked, rfl⟩ := Option.map_eq_some_iff.1 made
  exact h.flatValue? mem (h t mem given inside) walked

/-- Reading a design returns if its numbers are bounded, and the catalog keeps the bound. -/
theorem ofSource_eq_ok (hc : o.colors.Within (k + 1))
    (h : ∀ id v, s.lookup id = .ok (some v) → v.Within k) (range : k + 1 ≤ 900) :
    ∃ cat, ofSource s w o = .ok cat ∧ cat.Within (k + 1) := by
  obtain ⟨cat, read⟩ := unnamed_returns (w := w) hc h range
  have named := (unnamed_within hc h range read).nameReferences
  unfold ofSource
  rw [read, ok_bind]
  cases o.references with
  | preserved => exact ⟨_, rfl, named⟩
  | resolved => exact ⟨_, rfl, named.flatten⟩

end Catalog

end TokenSheet
