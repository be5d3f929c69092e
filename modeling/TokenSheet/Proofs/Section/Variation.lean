import TokenSheet.Proofs.Lists
import TokenSheet.Proofs.Returns
import TokenSheet.Proofs.Section.Shown

/-!
Variation and what it decides.

Whether a token varies is found by comparing its texts with the one in the first mode, up to the
first mode that differs. Where the first mode has a value, this finds out whether two modes with a
value are written differently (`varies_eq_true_iff`), and a token that varies is either stepped or
scaling: the references among the modes are all that the token has (`refersIn_eq_hasReference`). The
comparison ends without an answer exactly where a mode cannot be written and no mode before it has
another text than the first (`varies_eq_error_iff`). That depends on the order of the modes; all
else does not.
-/

namespace TokenSheet

namespace Token

variable {o : Options} {t : Token} {modes : List Mode}

/-- The modes begin with one in which the token has a value. -/
def StartsIn (t : Token) (modes : List Mode) : Prop :=
  ∃ first rest, modes = first :: rest ∧ (t.valueIn first.id).isSome

/-- Two modes in which the token has a value are written differently; to be left out is one way. -/
def DiffersOver (o : Options) (t : Token) (modes : List Mode) : Prop :=
  ∃ m ∈ modes, ∃ m' ∈ modes, (t.valueIn m.id).isSome ∧ (t.valueIn m'.id).isSome ∧
    ∃ text text', t.renderedText o m.id = .ok text ∧ t.renderedText o m'.id = .ok text' ∧
      text ≠ text'

/-- Among two modes or more, the values in front of some mode are written alike, and the one in that
mode cannot be written. -/
def BreaksOver (o : Options) (t : Token) (modes : List Mode) (x : NumberError) : Prop :=
  2 ≤ modes.length ∧ ∃ front m back, modes = front ++ m :: back ∧
    t.renderedText o m.id = .error x ∧
      ∃ text, ∀ p ∈ front, (t.valueIn p.id).isSome → t.renderedText o p.id = .ok text

/-- The keys of the values are the ids of modes, each at most once. -/
structure ValuedIn (t : Token) (modes : List Mode) : Prop where
  keys : (t.values.map (·.1)).Nodup
  inside : ∀ v ∈ t.values, ∃ m ∈ modes, m.id = v.1

theorem not_breaksOver (written : ∀ m ∈ modes, Returns (t.renderedText o m.id)) (x : NumberError) :
    ¬ t.BreaksOver o modes x := by
  intro breaks
  obtain ⟨-, front, m, back, split, fails, -⟩ := breaks
  obtain ⟨text, run⟩ := written m (by rw [split]; simp)
  rw [run] at fails
  cases fails

theorem isSome_of_error {m : Mode} {x : NumberError} (fails : t.renderedText o m.id = .error x) :
    (t.valueIn m.id).isSome := by
  cases value : t.valueIn m.id with
  | some v => rfl
  | none =>
    rw [renderedText, rendered, value] at fails
    cases fails

/-! ## The comparison with a text -/

section

variable {text here : Option String} {m : Mode} {x : NumberError}

/-- In a mode the token cannot be written, or is written like the text as far as it has a value, or
has a value that is written differently. -/
theorem compared_cases (o : Options) (t : Token) (text : Option String) (m : Mode) :
    (∃ x, t.renderedText o m.id = .error x) ∨
      ((t.valueIn m.id).isSome → t.renderedText o m.id = .ok text) ∨
      (t.valueIn m.id).isSome ∧ ∃ here, t.renderedText o m.id = .ok here ∧ here ≠ text := by
  cases run : t.renderedText o m.id with
  | error x => exact Or.inl ⟨x, rfl⟩
  | ok here =>
    right
    by_cases same : here = text
    · exact Or.inl fun _ => congrArg _ same
    · cases present : (t.valueIn m.id).isSome with
      | false => exact Or.inl fun valued => Bool.noConfusion valued
      | true => exact Or.inr ⟨rfl, here, rfl, same⟩

theorem differsFrom_cons_of_error (fails : t.renderedText o m.id = .error x) :
    t.differsFrom o text (m :: modes) = .error x := by
  have present := isSome_of_error fails
  rw [differsFrom, if_neg (by simp [Option.isSome_iff_ne_none.1 present]), fails]
  rfl

theorem differsFrom_cons_of_other (present : (t.valueIn m.id).isSome)
    (run : t.renderedText o m.id = .ok here) (other : here ≠ text) :
    t.differsFrom o text (m :: modes) = .ok true := by
  rw [differsFrom, if_neg (by simp [Option.isSome_iff_ne_none.1 present]), run, ok_bind,
    if_neg other]
  rfl

theorem differsFrom_cons_of_alike
    (alike : (t.valueIn m.id).isSome → t.renderedText o m.id = .ok text) :
    t.differsFrom o text (m :: modes) = t.differsFrom o text modes := by
  rw [differsFrom]
  split
  · rfl
  · rename_i present
    have valued : (t.valueIn m.id).isSome := by simpa [Option.isSome_iff_ne_none] using present
    rw [alike valued, ok_bind, if_pos rfl]

/-- A mode found to differ has a value that is written differently. -/
theorem exists_of_differsFrom (differs : t.differsFrom o text modes = .ok true) :
    ∃ m ∈ modes, (t.valueIn m.id).isSome ∧
      ∃ here, t.renderedText o m.id = .ok here ∧ here ≠ text := by
  induction modes with
  | nil => cases differs
  | cons m rest ih =>
    obtain ⟨x, fails⟩ | alike | other := compared_cases o t text m
    · rw [differsFrom_cons_of_error fails] at differs
      cases differs
    · rw [differsFrom_cons_of_alike alike] at differs
      obtain ⟨m', mem, found⟩ := ih differs
      exact ⟨m', List.mem_cons_of_mem _ mem, found⟩
    · exact ⟨m, List.mem_cons_self, other⟩

/-- The comparison fails at a mode that cannot be written, if no mode before it differs. -/
theorem differsFrom_eq_error_iff :
    t.differsFrom o text modes = .error x ↔
      ∃ front m back, modes = front ++ m :: back ∧ t.renderedText o m.id = .error x ∧
        ∀ p ∈ front, (t.valueIn p.id).isSome → t.renderedText o p.id = .ok text := by
  induction modes with
  | nil => simp [differsFrom]
  | cons m rest ih =>
    constructor
    · intro fails
      obtain ⟨y, broken⟩ | alike | ⟨present, here, run, other⟩ := compared_cases o t text m
      · rw [differsFrom_cons_of_error broken] at fails
        obtain rfl := Except.error.inj fails
        exact ⟨[], m, rest, rfl, broken, by simp⟩
      · rw [differsFrom_cons_of_alike alike] at fails
        obtain ⟨front, m', back, split, broken, alike'⟩ := ih.1 fails
        refine ⟨m :: front, m', back, by rw [split]; rfl, broken, ?_⟩
        exact List.forall_mem_cons.2 ⟨alike, alike'⟩
      · rw [differsFrom_cons_of_other present run other] at fails
        cases fails
    · intro broken
      obtain ⟨front, m', back, split, broken, alike⟩ := broken
      cases front with
      | nil =>
        obtain ⟨rfl, rfl⟩ := List.cons.inj split
        exact differsFrom_cons_of_error broken
      | cons p front =>
        obtain ⟨rfl, later⟩ := List.cons.inj split
        obtain ⟨here, alike⟩ := List.forall_mem_cons.1 alike
        rw [differsFrom_cons_of_alike here]
        exact ih.2 ⟨front, m', back, later, broken, alike⟩

end

/-! ## The comparison with the first mode -/

section

variable {first : Mode} {rest : List Mode}

/-- Once the first mode is written, all modes may as well be compared with it. -/
theorem varies_of_ok {text : Option String} (run : t.renderedText o first.id = .ok text) :
    t.varies o (first :: rest) = t.differsFrom o text (first :: rest) := by
  rw [differsFrom_cons_of_alike fun _ => run]
  cases rest with
  | nil => rfl
  | cons next rest =>
    rw [varies, run]
    · rfl
    · simp

theorem varies_of_error {x : NumberError} (fails : t.renderedText o first.id = .error x)
    (several : rest ≠ []) : t.varies o (first :: rest) = .error x := by
  rw [varies, fails]
  · rfl
  · simpa using several

end

theorem varies_eq_error_iff (starts : t.StartsIn modes) (x : NumberError) :
    t.varies o modes = .error x ↔ t.BreaksOver o modes x := by
  obtain ⟨first, rest, rfl, present⟩ := starts
  cases run : t.renderedText o first.id with
  | error y =>
    cases rest with
    | nil => simp [varies, BreaksOver]
    | cons next rest =>
      rw [varies_of_error run (List.cons_ne_nil next rest)]
      constructor
      · intro same
        obtain rfl := Except.error.inj same
        exact ⟨by simp, [], first, next :: rest, rfl, run, none, by simp⟩
      · intro breaks
        obtain ⟨-, front, m, back, split, broken, text, alike⟩ := breaks
        cases front with
        | nil =>
          obtain ⟨rfl, -⟩ := List.cons.inj split
          obtain rfl := Except.error.inj (run.symm.trans broken)
          rfl
        | cons p front =>
          obtain ⟨rfl, -⟩ := List.cons.inj split
          have written := alike first List.mem_cons_self present
          rw [run] at written
          cases written
  | ok text =>
    rw [varies_of_ok run, differsFrom_eq_error_iff]
    constructor
    · intro broken
      obtain ⟨front, m, back, split, broken, alike⟩ := broken
      refine ⟨?_, front, m, back, split, broken, text, alike⟩
      cases front with
      | nil =>
        obtain ⟨rfl, -⟩ := List.cons.inj split
        rw [run] at broken
        cases broken
      | cons p front =>
        rw [split, List.length_append, List.length_cons, List.length_cons]
        omega
    · intro breaks
      obtain ⟨-, front, m, back, split, broken, text', alike⟩ := breaks
      cases front with
      | nil =>
        obtain ⟨rfl, -⟩ := List.cons.inj split
        rw [run] at broken
        cases broken
      | cons p front =>
        -- the text that all modes in front share is that of the first one
        obtain ⟨rfl, -⟩ := List.cons.inj split
        obtain rfl := Except.ok.inj (run.symm.trans (alike first List.mem_cons_self present))
        exact ⟨first :: front, m, back, split, broken, alike⟩

theorem varies_eq_true_iff (starts : t.StartsIn modes) {b : Bool} (run : t.varies o modes = .ok b) :
    b = true ↔ t.DiffersOver o modes := by
  obtain ⟨first, rest, rfl, present⟩ := starts
  cases written : t.renderedText o first.id with
  | error x =>
    cases rest with
    | nil =>
      obtain rfl : false = b := Except.ok.inj run
      simp [DiffersOver, written]
    | cons next rest =>
      rw [varies_of_error written (List.cons_ne_nil next rest)] at run
      cases run
  | ok text =>
    rw [varies_of_ok written] at run
    constructor
    · intro yes
      subst yes
      obtain ⟨m, mem, valued, here, run, other⟩ := exists_of_differsFrom run
      exact ⟨m, mem, first, List.mem_cons_self, valued, present, here, text, run, written, other⟩
    · intro differs
      obtain ⟨m, mem, m', mem', valued, valued', here, there, run', run'', other⟩ := differs
      by_contra no
      rw [Bool.not_eq_true] at no
      subst no
      have alike := differsFrom_eq_false run
      have here_eq := Except.ok.inj (run'.symm.trans (alike m mem valued))
      have there_eq := Except.ok.inj (run''.symm.trans (alike m' mem' valued'))
      exact other (here_eq.trans there_eq.symm)

/-! ## Stepped and scaling tokens -/

/-- Where all values belong to the modes, the references in the modes are all that there are. -/
theorem refersIn_eq_hasReference (valued : t.ValuedIn modes) :
    t.refersIn modes = t.hasReference := by
  rw [Bool.eq_iff_iff, refersIn, hasReference, List.any_eq_true, List.any_eq_true]
  constructor
  · intro found
    obtain ⟨m, -, refers⟩ := found
    cases value : t.valueIn m.id with
    | none => simp [value] at refers
    | some v => exact ⟨(m.id, v), mem_of_lookup value, by simpa [value] using refers⟩
  · intro found
    obtain ⟨v, mem, refers⟩ := found
    obtain ⟨m, listed, same⟩ := valued.inside v mem
    have value : t.valueIn m.id = some v.2 :=
      (lookup_eq_some_iff_mem valued.keys).2 (by rw [same]; exact mem)
    exact ⟨m, listed, by simpa [value] using refers⟩

theorem isStepped_of_varies {b : Bool} (run : t.varies o modes = .ok b) :
    t.isStepped o modes = .ok (b && (t.kind != .float || t.refersIn modes)) := by
  rw [isStepped, run]
  rfl

theorem isScaling_of_varies {b : Bool} (run : t.varies o modes = .ok b) :
    t.isScaling o modes = .ok (b && (t.kind == .float && !t.hasReference)) := by
  rw [isScaling, run]
  by_cases float : t.kind = .float
  · cases t.hasReference <;> simp [float]
  · simp [float]

/-! ## The order of the modes -/

theorem differsOver_perm {modes' : List Mode} (perm : modes'.Perm modes) :
    t.DiffersOver o modes' ↔ t.DiffersOver o modes := by
  simp only [DiffersOver, perm.mem_iff]

theorem ValuedIn.perm {modes' : List Mode} (valued : t.ValuedIn modes) (perm : modes'.Perm modes) :
    t.ValuedIn modes' := by
  refine ⟨valued.keys, ?_⟩
  intro v mem
  obtain ⟨m, listed, same⟩ := valued.inside v mem
  exact ⟨m, perm.mem_iff.2 listed, same⟩

theorem varies_perm {modes' : List Mode} (perm : modes'.Perm modes) (starts : t.StartsIn modes)
    (starts' : t.StartsIn modes') {b b' : Bool} (run : t.varies o modes = .ok b)
    (run' : t.varies o modes' = .ok b') : b' = b := by
  rw [Bool.eq_iff_iff, varies_eq_true_iff starts' run', varies_eq_true_iff starts run,
    differsOver_perm perm]

theorem exists_varies_eq_ok (starts : t.StartsIn modes)
    (unbroken : ∀ x, ¬ t.BreaksOver o modes x) : ∃ b, t.varies o modes = .ok b := by
  cases run : t.varies o modes with
  | ok b => exact ⟨b, rfl⟩
  | error x => exact absurd ((varies_eq_error_iff starts x).1 run) (unbroken x)

/-- Variation is found wherever it can be, and it decides the rest. Let the values of a token belong
to modes of a list that starts with a value. The comparison fails exactly where a value that cannot
be written comes before any difference. Otherwise a token varies exactly if two of its values are
written differently; if it varies it is either stepped or scaling, and if it does not it is neither.
Where no order of the modes breaks the comparison, all three are the same in every order that starts
with a value. -/
theorem variation_partition (valued : t.ValuedIn modes) (starts : t.StartsIn modes) :
    (∀ x, t.varies o modes = .error x ↔ t.BreaksOver o modes x) ∧
      (∀ b, t.varies o modes = .ok b →
        (b = true ↔ t.DiffersOver o modes) ∧
          ∃ stepped scaling, t.isStepped o modes = .ok stepped ∧ t.isScaling o modes = .ok scaling ∧
            (b = true → stepped = !scaling) ∧ (b = false → stepped = false ∧ scaling = false)) ∧
      ∀ modes', modes'.Perm modes → t.StartsIn modes' →
        (∀ x, ¬ t.BreaksOver o modes x) → (∀ x, ¬ t.BreaksOver o modes' x) →
        t.varies o modes' = t.varies o modes ∧ t.isStepped o modes' = t.isStepped o modes ∧
          t.isScaling o modes' = t.isScaling o modes := by
  refine ⟨varies_eq_error_iff starts, ?_, ?_⟩
  · intro b run
    refine ⟨varies_eq_true_iff starts run, _, _, isStepped_of_varies run, isScaling_of_varies run, ?_⟩
    rw [refersIn_eq_hasReference valued]
    constructor
    · intro yes
      subst yes
      cases t.hasReference <;> simp [bne]
    · intro no
      subst no
      simp
  · intro modes' perm starts' unbroken unbroken'
    obtain ⟨b, run⟩ := exists_varies_eq_ok starts unbroken
    obtain ⟨b', run'⟩ := exists_varies_eq_ok starts' unbroken'
    obtain rfl := varies_perm perm starts starts' run run'
    refine ⟨run'.trans run.symm, ?_, ?_⟩
    · rw [isStepped_of_varies run', isStepped_of_varies run,
        refersIn_eq_hasReference (valued.perm perm), refersIn_eq_hasReference valued]
    · rw [isScaling_of_varies run', isScaling_of_varies run]

end Token

/-! ## A value that cannot be written -/

namespace HugeLaptop

/-- Four modes, from the widest one on. -/
def modes : List Mode :=
  [⟨"d", "Desktop", some 1680⟩, ⟨"l", "Laptop", some 1366⟩, ⟨"t", "Tablet", some 840⟩,
    ⟨"m", "Mobile", some 480⟩]

/-- The modes in another order, in which the second one comes last but one. -/
def otherOrder : List Mode :=
  [⟨"d", "Desktop", some 1680⟩, ⟨"t", "Tablet", some 840⟩, ⟨"l", "Laptop", some 1366⟩,
    ⟨"m", "Mobile", some 480⟩]

/-- A number, huge in the second mode or not. -/
def gap (second : Float) : Token :=
  (Collection.spaces modes ["v"]).number "v" "gap" "--space-gap"
    [("d", 16), ("l", second), ("t", 12), ("m", 8)]

theorem otherOrder_perm : otherOrder.Perm modes :=
  (List.Perm.swap _ _ _).cons _

theorem gap_valuedIn (second : Float) : (gap second).ValuedIn modes where
  keys := by simp [gap, Collection.number]
  inside := by simp [gap, Collection.number, modes]

theorem gap_startsIn (second : Float) : (gap second).StartsIn modes :=
  ⟨_, _, rfl, rfl⟩

theorem gap_startsIn_otherOrder (second : Float) : (gap second).StartsIn otherOrder :=
  ⟨_, _, rfl, rfl⟩

/-- Two values of the number that are written differently, whatever comes between them. -/
theorem gap_differsOver {second : Float}
    (wide : (gap second).renderedText {} "d" = .ok (some "16px"))
    (narrow : (gap second).renderedText {} "t" = .ok (some "12px")) :
    (gap second).DiffersOver {} modes := by
  have desktop : (⟨"d", "Desktop", some 1680⟩ : Mode) ∈ modes := by simp [modes]
  have tablet : (⟨"t", "Tablet", some 840⟩ : Mode) ∈ modes := by simp [modes]
  exact ⟨_, desktop, _, tablet, rfl, rfl, some "16px", some "12px", wide, narrow, by decide⟩

/-- A usual number in all four modes: it varies, scales and is not stepped, in both orders. -/
theorem usual_number_scales :
    (gap 11).DiffersOver {} modes ∧ (gap 11).isStepped {} modes = .ok false ∧
      (gap 11).isScaling {} modes = .ok true ∧ (gap 11).isScaling {} otherOrder = .ok true := by
  have written : ∀ m ∈ modes, Returns ((gap 11).renderedText {} m.id) := by
    intro m listed
    simp only [modes, List.mem_cons, List.not_mem_nil, or_false] at listed
    rcases listed with rfl | rfl | rfl | rfl <;> exact returns_of_error? (by decide +kernel)
  have written' : ∀ m ∈ otherOrder, Returns ((gap 11).renderedText {} m.id) := by
    intro m listed
    exact written m (otherOrder_perm.mem_iff.1 listed)
  have scales : (gap 11).isScaling {} modes = .ok true := by decide +kernel
  have run : (gap 11).varies {} modes = .ok true := by decide +kernel
  obtain ⟨-, decides, order⟩ :=
    Token.variation_partition (o := {}) (gap_valuedIn 11) (gap_startsIn 11)
  obtain ⟨differs, stepped, scaling, run_stepped, run_scaling, one, -⟩ := decides true run
  obtain rfl : true = scaling := Except.ok.inj (scales.symm.trans run_scaling)
  obtain ⟨-, -, same⟩ := order otherOrder otherOrder_perm (gap_startsIn_otherOrder 11)
    (Token.not_breaksOver written) (Token.not_breaksOver written')
  exact ⟨differs.1 rfl, run_stepped.trans (congrArg _ (one rfl)), scales, same.trans scales⟩

/-- A double that cannot be rounded to two places. -/
def tooLarge : Float :=
  .ofBits 0x7FE1CCF385EBC8A0

/-- A number that is huge in the second mode differs between the first and the third, but the
comparison does not get there; in another order of the modes it does. -/
theorem huge_number_breaks :
    (gap tooLarge).ValuedIn modes ∧ (gap tooLarge).StartsIn modes ∧
      (gap tooLarge).DiffersOver {} modes ∧ (gap tooLarge).varies {} modes = .error .infinite ∧
      otherOrder.Perm modes ∧ (gap tooLarge).StartsIn otherOrder ∧
      (gap tooLarge).varies {} otherOrder = .ok true := by
  refine ⟨gap_valuedIn _, gap_startsIn _, ?_, ?_, otherOrder_perm, gap_startsIn_otherOrder _, ?_⟩
  · exact gap_differsOver (by decide +kernel) (by decide +kernel)
  · decide +kernel
  · decide +kernel

end HugeLaptop

end TokenSheet
