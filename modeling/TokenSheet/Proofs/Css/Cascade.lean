import TokenSheet.Section.Basic

/-!
What a browser makes of the blocks of a section.

The declarations of a section are read in the order in which they are written, each with the
circumstances that it is written for (`Written`). In a browser window the last one that applies
counts (`shown?`). The default selector and the selectors of themes have equal weight, so their
order decides between them.
-/

namespace TokenSheet

namespace Css

/-- What a stylesheet can ask about the window that it is shown in. -/
structure Window where
  width : Int
  /-- The color scheme of the system. -/
  scheme : String
  /-- The theme that the page has chosen. -/
  theme? : Option String
  /-- Whether the browser knows interpolations. -/
  knowsClamp : Bool

/-- The circumstances that a declaration is written for. -/
inductive Circumstance where
  | always
  | media (condition : Condition)
  | scheme (name : String)
  | theme (name : String)
  | fallback (condition : Condition)

/-- Whether circumstances are met in a window. -/
def Circumstance.met (w : Window) : Circumstance → Bool
  | .always => true
  | .media condition => decide (condition.holds w.width)
  | .scheme name => w.scheme == name
  | .theme name => w.theme? == some name
  | .fallback condition => !w.knowsClamp && decide (condition.holds w.width)

/-- A declaration as written. -/
structure Written where
  circumstance : Circumstance
  property : String
  text : String

/-- Declarations written for some circumstances. -/
def writtenFor (circumstance : Circumstance) (ds : List Declaration) : List Written :=
  ds.map fun d => ⟨circumstance, d.property, d.value.text⟩

/-- The properties that an entry declares, with their texts. -/
def Entry.declared (e : Entry) : List (String × String) :=
  match e.form with
  | .plain v => [(e.property, v.text)]
  | .piecewise _ v => [(e.property, v.text)]
  | .viewport v => [(e.property, v.text)]
  | .proportion n => [(e.property, toString n), (companion e.property, toString n ++ "fr")]

/-- What is written for an entry. -/
def Entry.written (e : Entry) : List Written :=
  e.declared.map fun d => ⟨.always, d.1, d.2⟩

/-- What is written for a block. -/
def Block.written : Block → List Written
  | .media b => writtenFor (.media b.condition) b.declarations
  | .pieces _ b => writtenFor (.media b.condition) b.declarations
  | .scheme b => writtenFor (.scheme b.theme) b.declarations
  | .chosenThemes bs => bs.flatMap fun b => writtenFor (.theme b.theme) b.declarations
  | .furtherTheme b => writtenFor (.theme b.theme) b.declarations
  | .fallback bs => bs.flatMap fun b => writtenFor (.fallback b.condition) b.declarations

/-- The text that a property has in a window: the last one written for it that applies. -/
def shown? (w : Window) (property : String) (ws : List Written) : Option String :=
  ((ws.filter fun d => d.property == property && d.circumstance.met w).getLast?).map (·.text)

theorem Entry.declared_ne_nil (e : Entry) : e.declared ≠ [] := by
  obtain ⟨id, property, form⟩ := e
  cases form <;> exact List.cons_ne_nil _ _

/-- The declarations that are printed for an entry are those that are written for it. -/
theorem Entry.parts_eq_declared (gridColumns : Nat) (e : Entry) :
    (e.parts gridColumns).2 = e.declared.map fun d => Css.declared d.1 d.2 := by
  obtain ⟨id, property, form⟩ := e
  cases form <;> rfl

/-- The lines of an entry besides these declarations are comments: its id, and what explains it. -/
theorem Entry.mem_lines_iff {gridColumns : Nat} {ids : Bool} {e : Entry} {line : String} :
    line ∈ e.lines gridColumns ids ↔
      (ids = true ∧ line = comment e.id) ∨
      (∃ note, (e.parts gridColumns).1 = some note ∧ line = comment note) ∨
      ∃ d ∈ e.declared, line = Css.declared d.1 d.2 := by
  have printed : line ∈ (e.parts gridColumns).2 ↔ ∃ d ∈ e.declared, line = Css.declared d.1 d.2 := by
    rw [e.parts_eq_declared, List.mem_map]
    simp only [eq_comm]
  have idLine : line ∈ (if ids then [comment e.id] else []) ↔ ids = true ∧ line = comment e.id := by
    cases ids <;> simp
  have noteLine : line ∈ ((e.parts gridColumns).1.map comment).toList ↔
      ∃ note, (e.parts gridColumns).1 = some note ∧ line = comment note := by
    rw [Option.mem_toList, Option.map_eq_some_iff]
    simp only [eq_comm]
  rw [← printed, ← idLine, ← noteLine, lines]
  -- a proportion has its id in front of the explanation, every other entry behind it
  cases form : e.form with
  | proportion n => rw [List.mem_append, List.mem_append, or_assoc]
  | _ => rw [List.mem_append, List.mem_append, or_assoc, or_left_comm]

/-! ## The last one counts -/

variable {w : Window} {property : String}

/-- What is written later goes before what is written earlier. -/
theorem shown?_append (xs ys : List Written) :
    shown? w property (xs ++ ys) = (shown? w property ys).or (shown? w property xs) := by
  unfold shown?
  rw [List.filter_append, List.getLast?_append]
  cases (ys.filter fun d => d.property == property && d.circumstance.met w).getLast? <;> rfl

/-- Declarations of other properties do not count. -/
theorem shown?_eq_none {ws : List Written} (others : ∀ d ∈ ws, d.property ≠ property) :
    shown? w property ws = none := by
  have none_left : (ws.filter fun d => d.property == property && d.circumstance.met w) = [] := by
    rw [List.filter_eq_nil_iff]
    intro d mem applies
    rw [Bool.and_eq_true, beq_iff_eq] at applies
    exact others d mem applies.1
  rw [shown?, none_left]
  rfl

/-- If all declarations of a property have one text and circumstances that are met, and there is one
of them, that text is shown. -/
theorem shown?_eq_some {ws : List Written} {text : String}
    (some_one : ∃ d ∈ ws, d.property = property)
    (agree : ∀ d ∈ ws, d.property = property → d.text = text ∧ d.circumstance.met w = true) :
    shown? w property ws = some text := by
  unfold shown?
  obtain ⟨d, mem, same⟩ := some_one
  have listed : d ∈ ws.filter fun d => d.property == property && d.circumstance.met w := by
    rw [List.mem_filter, Bool.and_eq_true, beq_iff_eq]
    exact ⟨mem, same, (agree d mem same).2⟩
  cases last : (ws.filter fun d => d.property == property && d.circumstance.met w).getLast? with
  | none =>
      rw [List.getLast?_eq_none_iff.1 last] at listed
      cases listed
  | some e =>
      have left := List.mem_filter.1 (List.mem_of_getLast? last)
      rw [Bool.and_eq_true, beq_iff_eq] at left
      rw [Option.map_some, (agree e left.1 left.2.1).1]

/-- Declarations whose circumstances are not met do not count. -/
theorem shown?_eq_none_of_unmet {ws : List Written}
    (unmet : ∀ d ∈ ws, d.circumstance.met w = false) : shown? w property ws = none := by
  have none_left : (ws.filter fun d => d.property == property && d.circumstance.met w) = [] := by
    rw [List.filter_eq_nil_iff]
    intro d mem applies
    rw [unmet d mem, Bool.and_false] at applies
    exact Bool.false_ne_true applies
  rw [shown?, none_left]
  rfl

/-- Of blocks that each hold a declaration of a property, the last one whose circumstances are met
shows its text. -/
theorem shown?_flatMap {α : Type} {circumstance : α → Circumstance} {decls : α → List Declaration}
    {texts : α → String} {blocks : List α}
    (hold : ∀ b ∈ blocks, (∃ d ∈ decls b, d.property = property) ∧
      ∀ d ∈ decls b, d.property = property → d.value.text = texts b) :
    shown? w property (blocks.flatMap fun b => writtenFor (circumstance b) (decls b)) =
      ((blocks.filter fun b => (circumstance b).met w).getLast?).map texts := by
  induction blocks with
  | nil => rfl
  | cons b rest ih =>
      obtain ⟨⟨⟨d, mem, same⟩, agree⟩, others⟩ := List.forall_mem_cons.1 hold
      rw [List.flatMap_cons, shown?_append, ih others, List.filter_cons]
      cases met : (circumstance b).met w with
      | true =>
          have here :
              shown? w property (writtenFor (circumstance b) (decls b)) = some (texts b) := by
            refine shown?_eq_some ⟨_, List.mem_map_of_mem mem, same⟩ fun e written same => ?_
            obtain ⟨d, mem, rfl⟩ := List.mem_map.1 written
            exact ⟨agree d mem same, met⟩
          rw [here, if_pos rfl, List.getLast?_cons]
          cases (rest.filter fun b => (circumstance b).met w).getLast? <;> rfl
      | false =>
          have here : shown? w property (writtenFor (circumstance b) (decls b)) = none := by
            refine shown?_eq_none_of_unmet fun e written => ?_
            obtain ⟨d, -, rfl⟩ := List.mem_map.1 written
            exact met
          rw [here, Option.or_none, if_neg Bool.false_ne_true]

end Css

namespace Section

/-- All declarations of a section in the order in which they are written. -/
def written (s : Section) : List Css.Written :=
  s.entries.flatMap Css.Entry.written ++ s.blocks.flatMap Css.Block.written

/-- The text of a property in a window, as far as a section goes. -/
def shown? (s : Section) (w : Css.Window) (property : String) : Option String :=
  Css.shown? w property s.written

end Section

end TokenSheet
