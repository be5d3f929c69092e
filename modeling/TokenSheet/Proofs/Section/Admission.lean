import TokenSheet.Section.Basic

/-!
Which tokens pass a gate.

A token enters a default block only with a value in the mode of the gate that does not refer to the
token's own property. Foundations pass whatever the names; every other token passes only under a
property that is neither taken nor reserved, and takes it, so that no later token of the section
passes under it.
-/

namespace TokenSheet

variable {modeId : String} {gate : Gate} {tokens : List Token} {t : Token}

theorem Token.isSkipped_eq_false {value : Option TokenValue} {taken reserved : List String} :
    t.isSkipped value taken reserved = false ↔
      t.isOwnReference value = false ∧
        (t.layer ≠ .foundations → t.property ∉ taken ∧ t.property ∉ reserved) := by
  simp only [Token.isSkipped, Bool.or_eq_false_iff, Bool.and_eq_false_iff, bne_eq_false_iff_eq,
    List.contains_eq_mem, decide_eq_false_iff_not]
  refine and_congr_right fun _ => ?_
  by_cases h : t.layer = .foundations <;> simp [h]

/-- The first token of a list passes or not, and the others meet the gate that it leaves. -/
theorem admitted_cons (t : Token) (rest : List Token) :
    admitted modeId gate (t :: rest) =
      if (t.valueIn modeId).isSome ∧
          t.isSkipped (t.valueIn modeId) gate.taken gate.reserved = false then
        t :: admitted modeId { gate with taken := t.property :: gate.taken } rest
      else admitted modeId gate rest := by
  rw [admitted]
  cases value : t.valueIn modeId with
  | none => simp
  | some v => cases skipped : t.isSkipped (some v) gate.taken gate.reserved <;> simp [skipped]

theorem admitted_sublist : (admitted modeId gate tokens).Sublist tokens := by
  induction tokens generalizing gate with
  | nil => exact .slnil
  | cons t rest ih =>
      rw [admitted_cons]
      split
      · exact ih.cons_cons t
      · exact ih.cons t

/-- What a token that passed a gate brings along. -/
structure Passed (modeId : String) (gate : Gate) (t : Token) : Prop where
  value : (t.valueIn modeId).isSome
  notOwn : t.isOwnReference (t.valueIn modeId) = false
  free : t.layer ≠ .foundations → t.property ∉ gate.taken ∧ t.property ∉ gate.reserved

theorem passed_of_mem_admitted (h : t ∈ admitted modeId gate tokens) : Passed modeId gate t := by
  induction tokens generalizing gate with
  | nil => cases h
  | cons u rest ih =>
      rw [admitted_cons] at h
      split at h
      · rename_i pass
        rcases List.mem_cons.1 h with rfl | later
        · obtain ⟨notOwn, free⟩ := Token.isSkipped_eq_false.1 pass.2
          exact ⟨pass.1, notOwn, free⟩
        · -- the gate has grown, so what passes it passes the gate before
          obtain ⟨value, notOwn, free⟩ := ih later
          exact ⟨value, notOwn, fun other =>
            ⟨fun taken => (free other).1 (List.mem_cons_of_mem _ taken), (free other).2⟩⟩
      · exact ih h

/-- After a token no other layer than the foundations passes under its property. -/
theorem admitted_pairwise :
    (admitted modeId gate tokens).Pairwise fun t u =>
      u.layer ≠ .foundations → t.property ≠ u.property := by
  induction tokens generalizing gate with
  | nil => exact .nil
  | cons t rest ih =>
      rw [admitted_cons]
      split
      · refine List.pairwise_cons.2 ⟨fun u later other same => ?_, ih⟩
        have free := (passed_of_mem_admitted later).free other
        exact free.1 (same ▸ List.mem_cons_self)
      · exact ih

/-- Outside the foundations no two tokens that passed have one property. -/
theorem admitted_properties_nodup (others : ∀ t ∈ tokens, t.layer ≠ .foundations) :
    ((admitted modeId gate tokens).map (·.property)).Nodup := by
  refine List.pairwise_map.2 (admitted_pairwise.imp_of_mem fun {t u} _ mem distinct => ?_)
  exact distinct (others u (admitted_sublist.subset mem))

/-- Names do not hold foundations back: every gate lets the same ones pass. -/
theorem admitted_foundations (foundations : ∀ t ∈ tokens, t.layer = .foundations) (gate' : Gate) :
    admitted modeId gate tokens = admitted modeId gate' tokens := by
  induction tokens generalizing gate gate' with
  | nil => rfl
  | cons t rest ih =>
      obtain ⟨first, others⟩ := List.forall_mem_cons.1 foundations
      have free (taken reserved : List String) :
          t.isSkipped (t.valueIn modeId) taken reserved = t.isOwnReference (t.valueIn modeId) := by
        simp [Token.isSkipped, first]
      rw [admitted_cons, admitted_cons, free, free,
        ih others { gate' with taken := t.property :: gate'.taken }, @ih gate others gate']

/-- Whether the value of a token in a mode lets it pass a gate, whatever the names. -/
def Token.Opens (t : Token) (modeId : String) : Prop :=
  (t.valueIn modeId).isSome ∧ t.isOwnReference (t.valueIn modeId) = false

/-- Gates that hold back the same names. -/
structure Gate.Alike (gate gate' : Gate) : Prop where
  taken : ∀ n, n ∈ gate.taken ↔ n ∈ gate'.taken
  reserved : ∀ n, n ∈ gate.reserved ↔ n ∈ gate'.reserved

/-- Gates that hold back the same ones of the names of some tokens. -/
structure Gate.AlikeOn (gate : Gate) (tokens : List Token) (gate' : Gate) : Prop where
  taken : ∀ t ∈ tokens, t.property ∈ gate.taken ↔ t.property ∈ gate'.taken
  reserved : ∀ t ∈ tokens, t.property ∈ gate.reserved ↔ t.property ∈ gate'.reserved

theorem Gate.Alike.on {gate' : Gate} (alike : gate.Alike gate') (tokens : List Token) :
    gate.AlikeOn tokens gate' :=
  ⟨fun t _ => alike.taken t.property, fun t _ => alike.reserved t.property⟩

/-- Two modes whose values let the same tokens pass, behind gates that hold back the same ones of
their names, let the same tokens enter. -/
theorem admitted_congr {modeId' : String} {gate' : Gate} (alike : gate.AlikeOn tokens gate')
    (opens : ∀ t ∈ tokens, t.Opens modeId ↔ t.Opens modeId') :
    admitted modeId gate tokens = admitted modeId' gate' tokens := by
  induction tokens generalizing gate gate' with
  | nil => rfl
  | cons t rest ih =>
      obtain ⟨here, others⟩ := List.forall_mem_cons.1 opens
      obtain ⟨taken, taken'⟩ := List.forall_mem_cons.1 alike.taken
      obtain ⟨reserved, reserved'⟩ := List.forall_mem_cons.1 alike.reserved
      have pass : (t.valueIn modeId).isSome ∧
            t.isSkipped (t.valueIn modeId) gate.taken gate.reserved = false ↔
          (t.valueIn modeId').isSome ∧
            t.isSkipped (t.valueIn modeId') gate'.taken gate'.reserved = false := by
        rw [Token.isSkipped_eq_false, Token.isSkipped_eq_false, ← and_assoc, ← and_assoc,
          taken, reserved]
        exact and_congr_left fun _ => here
      have grown : Gate.AlikeOn { gate with taken := t.property :: gate.taken } rest
          { gate' with taken := t.property :: gate'.taken } := by
        refine ⟨fun u mem => ?_, reserved'⟩
        rw [List.mem_cons, List.mem_cons, taken' u mem]
      rw [admitted_cons, admitted_cons, ih ⟨taken', reserved'⟩ others, ih grown others]
      simp only [pass]

end TokenSheet
