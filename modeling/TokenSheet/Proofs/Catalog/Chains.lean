import Mathlib.Data.List.Dedup
import Mathlib.Data.List.Perm.Subperm
import TokenSheet.Catalog.Walk

/-!
Chains of references, said without the loop that follows them.

A hop leads from a reference to the token it names, read in the current mode or else in the first
mode of the token's collection (`Hop`). A trail is the start of a chain with the ids met on it
(`Trail`); it may run in circles for ever. The loop of `Catalog.walk` stops at the first place of
the trail where it can tell the end (`Verdict`), and a trail without repeated ids has at most one
such place. Hence the three ends of a walk are told apart exactly, and no walk takes more hops than
the catalog has ids.
-/

namespace TokenSheet

/-- A place on a chain: the mode that is read there, and the value found. -/
structure Place where
  modeId : String
  value : Option TokenValue

namespace Catalog

/-- One hop of a chain to the token with an id. -/
inductive Hop (c : Catalog) : Place → String → Place → Prop where
  /-- The target has a value in the current mode. -/
  | same {mode target : String} {property? : Option String} {t : Token} {v : TokenValue}
      (found : c.token? target = some t) (value : t.valueIn mode = some v) :
      Hop c ⟨mode, some (.reference target property?)⟩ target ⟨mode, some v⟩
  /-- The target has none, and is read in the first mode of its collection. -/
  | first {mode target : String} {property? : Option String} {t : Token} {k : Collection} {m : Mode}
      (found : c.token? target = some t) (missing : t.valueIn mode = none)
      (owner : c.collection? t.collectionId = some k) (mode₁ : k.firstMode? = some m) :
      Hop c ⟨mode, some (.reference target property?)⟩ target ⟨m.id, t.valueIn m.id⟩
  /-- The target has none, and there is no first mode to fall back to. -/
  | stranded {mode target : String} {property? : Option String} {t : Token}
      (found : c.token? target = some t) (missing : t.valueIn mode = none)
      (modeless : (c.collection? t.collectionId).bind Collection.firstMode? = none) :
      Hop c ⟨mode, some (.reference target property?)⟩ target ⟨mode, none⟩

/-- The chain of a token in a mode, followed for a while: the ids met, the latest first, and the
place reached. -/
inductive Trail (c : Catalog) (t : Token) (modeId : String) : List String → Place → Prop where
  | start : Trail c t modeId [t.id] ⟨modeId, t.valueIn modeId⟩
  | hop {met : List String} {p q : Place} {id : String} (trail : Trail c t modeId met p)
      (step : c.Hop p id q) : Trail c t modeId (id :: met) q

/-- What a place says about the end of a walk that has met some ids. -/
inductive Verdict (c : Catalog) (t : Token) (met : List String) : Place → WalkEnd → Prop where
  | literal {mode : String} {l : Literal} : Verdict c t met ⟨mode, some (.literal l)⟩ (.literal l)
  | missing {mode : String} : Verdict c t met ⟨mode, none⟩ .nothing
  /-- The token refers straight back to itself. -/
  | itself {mode : String} {property? : Option String} (atStart : met = [t.id]) :
      Verdict c t met ⟨mode, some (.reference t.id property?)⟩ .nothing
  | closed {mode target : String} {property? : Option String} (visited : target ∈ met)
      (notItself : ¬ (met = [t.id] ∧ target = t.id)) :
      Verdict c t met ⟨mode, some (.reference target property?)⟩ .circular
  | unknown {mode target : String} {property? : Option String} (fresh : target ∉ met)
      (absent : c.token? target = none) :
      Verdict c t met ⟨mode, some (.reference target property?)⟩ .nothing

variable {c : Catalog} {t : Token} {modeId : String} {met : List String} {p q : Place}

/-! ## Hops and the mode that the loop chooses -/

theorem modeAt_of_value {u : Token} {mode : String} {v : TokenValue} (h : u.valueIn mode = some v) :
    c.modeAt u mode = mode := by
  simp [modeAt, h]

/-- From a reference to a known token there is a hop to the place that the loop goes to. -/
theorem hop_modeAt {mode target : String} {property? : Option String} {u : Token}
    (found : c.token? target = some u) :
    c.Hop ⟨mode, some (.reference target property?)⟩ target
      ⟨c.modeAt u mode, u.valueIn (c.modeAt u mode)⟩ := by
  cases value : u.valueIn mode with
  | some v =>
      rw [modeAt_of_value value, value]
      exact .same found value
  | none =>
      cases owner : c.collection? u.collectionId with
      | none =>
          have stay : c.modeAt u mode = mode := by simp [modeAt, value, owner]
          rw [stay, value]
          exact .stranded found value (by simp [owner])
      | some k =>
          cases first : k.firstMode? with
          | none =>
              have stay : c.modeAt u mode = mode := by simp [modeAt, value, owner, first]
              rw [stay, value]
              exact .stranded found value (by simp [owner, first])
          | some m =>
              have move : c.modeAt u mode = m.id := by simp [modeAt, value, owner, first]
              rw [move]
              exact .first found value owner first

/-- A hop leads to a known token, to the place that the loop goes to. -/
theorem Hop.target {id : String} (h : c.Hop p id q) :
    ∃ property? u, p.value = some (.reference id property?) ∧ c.token? id = some u ∧
      q = ⟨c.modeAt u p.modeId, u.valueIn (c.modeAt u p.modeId)⟩ := by
  cases h with
  | same found value =>
      refine ⟨_, _, rfl, found, ?_⟩
      rw [modeAt_of_value value, value]
  | first found missing owner mode₁ =>
      refine ⟨_, _, rfl, found, ?_⟩
      simp [modeAt, missing, owner, mode₁]
  | stranded found missing modeless =>
      refine ⟨_, _, rfl, found, ?_⟩
      simp [modeAt, missing, modeless]

/-! ## Trails -/

theorem Trail.start_mem (h : c.Trail t modeId met p) : t.id ∈ met := by
  induction h with
  | start => exact List.mem_singleton.2 rfl
  | hop _ _ ih => exact List.mem_cons_of_mem _ ih

/-- Apart from the start, a trail meets ids of the catalog. -/
theorem Trail.hops (h : c.Trail t modeId met p) :
    ∃ hops, met = hops ++ [t.id] ∧ hops ⊆ c.tokens.map (·.id) := by
  induction h with
  | start => exact ⟨[], rfl, List.nil_subset _⟩
  | hop _ step ih =>
      obtain ⟨hops, rfl, known⟩ := ih
      obtain ⟨_, u, -, found, -⟩ := step.target
      obtain ⟨mem, rfl⟩ := mem_tokens_of_token? found
      exact ⟨u.id :: hops, rfl, List.cons_subset.2 ⟨List.mem_map_of_mem mem, known⟩⟩

/-- A trail that meets no id twice has at most as many hops as the catalog has ids. -/
theorem Trail.length_le (h : c.Trail t modeId met p) (distinct : met.Nodup) :
    met.length ≤ (c.tokens.map (·.id)).dedup.length + 1 := by
  obtain ⟨hops, rfl, known⟩ := h.hops
  have once : hops.Nodup := (List.nodup_append.1 distinct).1
  have bound := (List.subperm_of_subset once fun _ mem => List.mem_dedup.2 (known mem)).length_le
  rw [List.length_append, List.length_singleton]
  omega

/-- Only the start of a trail has met a single id. -/
theorem Trail.met_eq_start_iff (h : c.Trail t modeId met p) : met = [t.id] ↔ met.length = 1 := by
  constructor
  · rintro rfl
    rfl
  · intro one
    obtain ⟨id, rfl⟩ := List.length_eq_one_iff.1 one
    rw [List.mem_singleton.1 h.start_mem]

/-! ## The loop follows the trail -/

/-- The loop at a reference: one branch for each way to stop, and one to go on. -/
theorem walkFrom_reference (start target mode : String) (property? : Option String) :
    c.walkFrom start met mode (some (.reference target property?)) =
      if target = start ∧ met.length = 1 then .nothing
      else if target ∈ met then .circular
      else match c.token? target with
        | none => .nothing
        | some u => c.walkFrom start (target :: met) (c.modeAt u mode)
            (u.valueIn (c.modeAt u mode)) := by
  rw [walkFrom]
  by_cases itself : target = start ∧ met.length = 1
  · rw [if_pos itself, if_pos itself]
  · rw [if_neg itself, if_neg itself]
    by_cases visited : target ∈ met
    · simp [visited]
    · rw [dif_neg (by simpa using visited), if_neg visited]
      split <;> simp_all

/-- The loop takes every hop to an id that it has not met. -/
theorem walkFrom_hop {start id : String} (step : c.Hop p id q) (fresh : id ∉ met)
    (start_mem : start ∈ met) :
    c.walkFrom start met p.modeId p.value = c.walkFrom start (id :: met) q.modeId q.value := by
  obtain ⟨property?, u, value, found, rfl⟩ := step.target
  have elsewhere : ¬ (id = start ∧ met.length = 1) := by
    rintro ⟨rfl, -⟩
    exact fresh start_mem
  rw [value, walkFrom_reference, if_neg elsewhere, if_neg fresh, found]

/-- What is left of a walk after a trail without repeated ids is the walk itself. -/
theorem Trail.walk_eq (h : c.Trail t modeId met p) (distinct : met.Nodup) :
    c.walk t modeId = c.walkFrom t.id met p.modeId p.value := by
  induction h with
  | start => rfl
  | hop trail step ih =>
      obtain ⟨fresh, distinct'⟩ := List.nodup_cons.1 distinct
      rw [ih distinct', walkFrom_hop step fresh trail.start_mem]

/-- The loop ends as the verdict says. -/
theorem Verdict.walkFrom_eq {w : WalkEnd} (h : c.Verdict t met p w)
    (trail : c.Trail t modeId met p) :
    c.walkFrom t.id met p.modeId p.value = w := by
  have atStart := trail.met_eq_start_iff
  cases h with
  | literal => rw [walkFrom]
  | missing => rw [walkFrom]
  | itself alone => rw [walkFrom_reference, if_pos ⟨rfl, atStart.1 alone⟩]
  | @closed mode target property? visited notItself =>
      have elsewhere : ¬ (target = t.id ∧ met.length = 1) := by
        rintro ⟨same, one⟩
        exact notItself ⟨atStart.2 one, same⟩
      rw [walkFrom_reference, if_neg elsewhere, if_pos visited]
  | @unknown mode target property? fresh absent =>
      have elsewhere : ¬ (target = t.id ∧ met.length = 1) := by
        rintro ⟨rfl, -⟩
        exact fresh trail.start_mem
      rw [walkFrom_reference, if_neg elsewhere, if_neg fresh, absent]

/-- A place without a verdict has a hop to an id that has not been met. -/
theorem exists_verdict_or_hop (c : Catalog) (t : Token) (met : List String) (p : Place) :
    (∃ w, c.Verdict t met p w) ∨ ∃ id q, c.Hop p id q ∧ id ∉ met := by
  obtain ⟨mode, value⟩ := p
  match value with
  | none => exact .inl ⟨_, .missing⟩
  | some (.literal l) => exact .inl ⟨_, .literal⟩
  | some (.reference target property?) =>
      by_cases visited : target ∈ met
      · by_cases itself : met = [t.id] ∧ target = t.id
        · obtain ⟨atStart, rfl⟩ := itself
          exact .inl ⟨_, .itself atStart⟩
        · exact .inl ⟨_, .closed visited itself⟩
      · cases found : c.token? target with
        | none => exact .inl ⟨_, .unknown visited found⟩
        | some u => exact .inr ⟨_, _, hop_modeAt found, visited⟩

/-- Every trail without repeated ids goes on to a place with a verdict. The ids of the catalog that
it has not met become fewer with each hop. -/
theorem Trail.exists_verdict (h : c.Trail t modeId met p) (distinct : met.Nodup) :
    ∃ met' p' w, c.Trail t modeId met' p' ∧ met'.Nodup ∧ c.Verdict t met' p' w := by
  generalize room : (c.tokens.map (·.id)).dedup.length + 1 - met.length = n
  induction n generalizing met p with
  | zero =>
      rcases exists_verdict_or_hop c t met p with ⟨w, verdict⟩ | ⟨id, q, step, fresh⟩
      · exact ⟨met, p, w, h, distinct, verdict⟩
      · have longer := (h.hop step).length_le (List.nodup_cons.2 ⟨fresh, distinct⟩)
        rw [List.length_cons] at longer
        omega
  | succ n ih =>
      rcases exists_verdict_or_hop c t met p with ⟨w, verdict⟩ | ⟨id, q, step, fresh⟩
      · exact ⟨met, p, w, h, distinct, verdict⟩
      · refine ih (h.hop step) (List.nodup_cons.2 ⟨fresh, distinct⟩) ?_
        rw [List.length_cons]
        omega

/-- A walk ends in a certain way exactly if some trail without repeated ids has that verdict. -/
theorem walk_eq_iff_verdict (c : Catalog) (t : Token) (modeId : String) (w : WalkEnd) :
    c.walk t modeId = w ↔
      ∃ met p, c.Trail t modeId met p ∧ met.Nodup ∧ c.Verdict t met p w := by
  constructor
  · rintro rfl
    have at_start : c.Trail t modeId [t.id] ⟨modeId, t.valueIn modeId⟩ := .start
    obtain ⟨met, p, w, trail, distinct, verdict⟩ := at_start.exists_verdict (List.nodup_singleton _)
    have ending : c.walk t modeId = w := (trail.walk_eq distinct).trans (verdict.walkFrom_eq trail)
    rw [ending]
    exact ⟨met, p, trail, distinct, verdict⟩
  · rintro ⟨met, p, trail, distinct, verdict⟩
    exact (trail.walk_eq distinct).trans (verdict.walkFrom_eq trail)

/-! ## The ends of a walk -/

/-- A walk takes at most as many hops as the catalog has distinct ids, and it ends as the chain
says: at a literal if the chain reaches one without meeting an id twice; in a circle if the chain
comes to refer to an id already met, a token that refers straight to itself apart; and in nothing
where a value is missing, at such a token, or at a reference to an unknown id. -/
theorem walk_ends_as_chain (c : Catalog) (t : Token) (modeId : String) :
    (∃ hops p, c.Trail t modeId (hops ++ [t.id]) p ∧ (hops ++ [t.id]).Nodup ∧
      c.Verdict t (hops ++ [t.id]) p (c.walk t modeId) ∧
      hops.length ≤ (c.tokens.map (·.id)).dedup.length) ∧
    (∀ l, c.walk t modeId = .literal l ↔
      ∃ met mode, c.Trail t modeId met ⟨mode, some (.literal l)⟩ ∧ met.Nodup) ∧
    (c.walk t modeId = .circular ↔
      ∃ met mode target property?,
        c.Trail t modeId met ⟨mode, some (.reference target property?)⟩ ∧ met.Nodup ∧
        target ∈ met ∧ ¬ (met = [t.id] ∧ target = t.id)) ∧
    (c.walk t modeId = .nothing ↔
      ∃ met mode, met.Nodup ∧
        (c.Trail t modeId met ⟨mode, none⟩ ∨
        ∃ target property?, c.Trail t modeId met ⟨mode, some (.reference target property?)⟩ ∧
          (met = [t.id] ∧ target = t.id ∨ target ∉ met ∧ c.token? target = none))) := by
  refine ⟨?_, fun l => ?_, ?_, ?_⟩
  · obtain ⟨met, p, trail, distinct, verdict⟩ := (walk_eq_iff_verdict c t modeId _).1 rfl
    have bound := trail.length_le distinct
    obtain ⟨hops, rfl, -⟩ := trail.hops
    rw [List.length_append, List.length_singleton] at bound
    exact ⟨hops, p, trail, distinct, verdict, by omega⟩
  · rw [walk_eq_iff_verdict]
    constructor
    · rintro ⟨met, p, trail, distinct, verdict⟩
      cases verdict
      exact ⟨met, _, trail, distinct⟩
    · rintro ⟨met, mode, trail, distinct⟩
      exact ⟨met, _, trail, distinct, .literal⟩
  · rw [walk_eq_iff_verdict]
    constructor
    · rintro ⟨met, p, trail, distinct, verdict⟩
      cases verdict with
      | closed visited notItself => exact ⟨met, _, _, _, trail, distinct, visited, notItself⟩
    · rintro ⟨met, mode, target, property?, trail, distinct, visited, notItself⟩
      exact ⟨met, _, trail, distinct, .closed visited notItself⟩
  · rw [walk_eq_iff_verdict]
    constructor
    · rintro ⟨met, p, trail, distinct, verdict⟩
      cases verdict with
      | missing => exact ⟨met, _, distinct, .inl trail⟩
      | itself atStart => exact ⟨met, _, distinct, .inr ⟨_, _, trail, .inl ⟨atStart, rfl⟩⟩⟩
      | unknown fresh absent => exact ⟨met, _, distinct, .inr ⟨_, _, trail, .inr ⟨fresh, absent⟩⟩⟩
    · rintro ⟨met, mode, distinct,
        trail | ⟨target, property?, trail, ⟨atStart, rfl⟩ | ⟨fresh, absent⟩⟩⟩
      · exact ⟨met, _, trail, distinct, .missing⟩
      · exact ⟨met, _, trail, distinct, .itself atStart⟩
      · exact ⟨met, _, trail, distinct, .unknown fresh absent⟩

end Catalog

end TokenSheet
