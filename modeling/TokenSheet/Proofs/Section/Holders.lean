import TokenSheet.Proofs.Section.Declared

/-!
Which token of a collection holds a name.

Outside the foundations the first token that would pass an open gate under a name holds it, whether
or not it is written later on. A section declares the names whose holders have an entry
(`Collection.Gives`) and that its gate leaves free.
-/

namespace TokenSheet

variable {o : Options} {gate : Gate} {tokens : List Token} {t : Token} {modeId n : String}
  {c : Collection} {s : Section}

/-! ## Holders -/

/-- Whether a token is let in behind other tokens of its list: it belongs to the foundations, or
none of those that could pass before it has its name. -/
def Token.Precedes (modeId : String) (t : Token) (front : List Token) : Prop :=
  t.layer ≠ .foundations → ∀ u ∈ front, u.Opens modeId → u.property ≠ t.property

/-- Whether a token holds its name in a list of tokens. -/
def Token.Holds (modeId : String) (tokens : List Token) (t : Token) : Prop :=
  t.Opens modeId ∧ ∃ front back, tokens = front ++ t :: back ∧ t.Precedes modeId front

theorem Token.precedes_cons {u : Token} {front : List Token} :
    t.Precedes modeId (u :: front) ↔
      (t.layer ≠ .foundations → u.Opens modeId → u.property ≠ t.property) ∧
        t.Precedes modeId front := by
  unfold Precedes
  rw [← forall_and]
  exact forall_congr' fun _ => List.forall_mem_cons

theorem Token.holds_cons {u : Token} {rest : List Token} :
    t.Holds modeId (u :: rest) ↔
      t.Opens modeId ∧ t = u ∨ t.Holds modeId rest ∧
        (t.layer ≠ .foundations → u.Opens modeId → u.property ≠ t.property) := by
  constructor
  · rintro ⟨opens, front, back, split, first⟩
    cases front with
    | nil =>
        left
        exact ⟨opens, (List.cons.inj split).1.symm⟩
    | cons u' front =>
        obtain ⟨rfl, tail⟩ := List.cons.inj split
        obtain ⟨apart, first⟩ := precedes_cons.1 first
        right
        exact ⟨⟨opens, front, back, tail, first⟩, apart⟩
  · rintro (⟨opens, rfl⟩ | ⟨⟨opens, front, back, rfl, first⟩, apart⟩)
    · exact ⟨opens, [], rest, rfl, fun _ _ none => absurd none List.not_mem_nil⟩
    · exact ⟨opens, u :: front, back, rfl, precedes_cons.2 ⟨apart, first⟩⟩

/-- Whether a gate leaves the name of a token free. -/
def Gate.Spares (gate : Gate) (t : Token) : Prop :=
  t.layer ≠ .foundations → t.property ∉ gate.taken ∧ t.property ∉ gate.reserved

/-- The tokens that pass a gate are the holders of names that it leaves free. -/
theorem mem_admitted_iff :
    t ∈ admitted modeId gate tokens ↔ t.Holds modeId tokens ∧ gate.Spares t := by
  induction tokens generalizing gate with
  | nil =>
      refine iff_of_false List.not_mem_nil fun held => ?_
      obtain ⟨⟨-, front, back, split, -⟩, -⟩ := held
      exact List.append_ne_nil_of_right_ne_nil front (List.cons_ne_nil t back) split.symm
  | cons u rest ih =>
      have pass_iff : (u.valueIn modeId).isSome ∧
            u.isSkipped (u.valueIn modeId) gate.taken gate.reserved = false ↔
          u.Opens modeId ∧ gate.Spares u := by
        rw [Token.isSkipped_eq_false, ← and_assoc]
        rfl
      rw [admitted_cons, Token.holds_cons]
      by_cases pass : u.Opens modeId ∧ gate.Spares u
      · rw [if_pos (pass_iff.2 pass), List.mem_cons, ih]
        have grown : Gate.Spares { gate with taken := u.property :: gate.taken } t ↔
            gate.Spares t ∧ (t.layer ≠ .foundations → u.Opens modeId → u.property ≠ t.property) := by
          unfold Gate.Spares
          simp only [List.mem_cons, not_or]
          grind
        rw [grown]
        constructor
        · rintro (rfl | ⟨held, free, apart⟩)
          · exact ⟨.inl ⟨pass.1, rfl⟩, pass.2⟩
          · exact ⟨.inr ⟨held, apart⟩, free⟩
        · rintro ⟨⟨-, rfl⟩ | ⟨held, apart⟩, free⟩
          · exact .inl rfl
          · exact .inr ⟨held, free, apart⟩
      · rw [if_neg (mt pass_iff.1 pass), ih]
        constructor
        · rintro ⟨held, free⟩
          -- what keeps the first token out keeps out every token of its name
          have apart : t.layer ≠ .foundations → u.Opens modeId → u.property ≠ t.property := by
            intro other opens same
            exact pass ⟨opens, fun _ => same ▸ free other⟩
          exact ⟨.inr ⟨held, apart⟩, free⟩
        · rintro ⟨⟨opens, rfl⟩ | ⟨held, -⟩, free⟩
          · exact absurd ⟨opens, free⟩ pass
          · exact ⟨held, free⟩

/-- The name of a token that could pass has a holder: the token itself or, outside the foundations,
one before it. -/
theorem Token.exists_holder (mem : t ∈ tokens) (opens : t.Opens modeId) :
    t.Holds modeId tokens ∨ t.layer ≠ .foundations ∧ ∃ front back, tokens = front ++ t :: back ∧
      ∃ u ∈ front, u.Holds modeId tokens ∧ u.property = t.property := by
  by_cases layer : t.layer = .foundations
  · obtain ⟨front, back, split⟩ := List.append_of_mem mem
    exact .inl ⟨opens, front, back, split, fun other => absurd layer other⟩
  · classical
    -- the first token with the name that could pass
    let rival (u : Token) : Bool := decide (u.Opens modeId ∧ u.property = t.property)
    have found : (tokens.find? rival).isSome := by
      rw [List.find?_isSome]
      exact ⟨t, mem, decide_eq_true ⟨opens, rfl⟩⟩
    obtain ⟨u, found⟩ := Option.isSome_iff_exists.1 found
    obtain ⟨fits, front, back, split, before⟩ := List.find?_eq_some_iff_append.1 found
    obtain ⟨first_opens, same⟩ := of_decide_eq_true fits
    have first : u.Precedes modeId front := by
      intro _ w earlier w_opens w_same
      have unfit := before w earlier
      simp only [rival, Bool.not_eq_true', decide_eq_false_iff_not] at unfit
      exact unfit ⟨w_opens, w_same.trans same⟩
    have held : u.Holds modeId tokens := ⟨first_opens, front, back, split, first⟩
    by_cases itself : u = t
    · exact .inl (itself ▸ held)
    · have later : t ∈ back := by
        rw [split] at mem
        rcases List.mem_append.1 mem with earlier | here
        · have unfit := before t earlier
          simp [rival, opens] at unfit
        · exact (List.mem_cons.1 here).resolve_left (Ne.symm itself)
      obtain ⟨mid, rest, rfl⟩ := List.append_of_mem later
      refine .inr ⟨layer, front ++ u :: mid, rest, ?_, u, by simp, held, same⟩
      rw [split, List.append_assoc, List.cons_append]

/-! ## Sections -/

/-- Whether a token gives the section of a collection its name: it holds the name at the gate, and
has an entry. -/
def Collection.Gives (o : Options) (c : Collection) (tokens : List Token) (t : Token) : Prop :=
  ∃ gateMode standard, c.gateMode? o = some gateMode ∧ c.standardMode? o = some standard ∧
    t.Holds gateMode.id tokens ∧ c.HasEntry o standard t

/-- A section declares the names that it is given, as far as its gate leaves them free. -/
theorem mem_properties_iff_gives (run : sectionOf o gate c tokens = .ok s) :
    n ∈ s.properties ↔ ∃ t, c.Gives o tokens t ∧ t.property = n ∧ gate.Spares t := by
  rw [mem_properties_iff run]
  constructor
  · rintro ⟨gateMode, standard, gate_mode, standard_mode, t, passed, entry, name⟩
    obtain ⟨held, free⟩ := mem_admitted_iff.1 passed
    exact ⟨t, ⟨gateMode, standard, gate_mode, standard_mode, held, entry⟩, name, free⟩
  · rintro ⟨t, ⟨gateMode, standard, gate_mode, standard_mode, held, entry⟩, name, free⟩
    exact ⟨gateMode, standard, gate_mode, standard_mode, t, mem_admitted_iff.2 ⟨held, free⟩, entry,
      name⟩

end TokenSheet
