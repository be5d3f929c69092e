import Mathlib.Tactic.SplitIfs
import TokenSheet.Proofs.Text.Alphabets

/-!
Reading a stylesheet from left to right.

A reader tells apart what stands out in a text: comments, quoted texts and braces (`Mark`). Outside of
these it passes over everything. In a quoted text a backslash stands in front of a character that
counts as it is, and no line may end; a comment ends with the first asterisk before a slash. What
follows a text is read from the place where the text ends, so a text that begins and ends outside of
everything can be read on its own (`Reads`).

A quoted text is read as itself exactly if it has no quotation mark, no backslash and no line end
(`reads_quoted_iff`), and a comment ends at its own end exactly if nothing in it ends a comment
(`reads_comment_iff`).
-/

namespace TokenSheet.Css

open Text (Over isWordChar)

/-! ## Readers -/

/-- What stands out in a stylesheet. -/
inductive Mark where
  | opening
  | closing
  | comment (body : List Char)
  | text (content : List Char)
deriving DecidableEq, Repr

/-- Where a reader is. -/
inductive Place where
  /-- Outside of everything. -/
  | plain
  /-- Behind a slash, which may begin a comment. -/
  | slash
  | comment (body : List Char)
  /-- Behind an asterisk in a comment, which may end it. -/
  | star (body : List Char)
  | text (content : List Char)
  /-- Behind a backslash in a quoted text. -/
  | escape (content : List Char)
  /-- Behind a line end in a quoted text, where nothing can be read any more. -/
  | broken
deriving DecidableEq, Repr

/-- Whether a line ends at a character. -/
def isLineEnd (c : Char) : Bool :=
  ['\n', '\r', '\x0c'].contains c

namespace Place

/-- Reads a character outside of everything. -/
def stepPlain (c : Char) : Place × List Mark :=
  if c = '/' then (slash, [])
  else if c = '\x22' then (text [], [])
  else if c = '\x7b' then (plain, [.opening])
  else if c = '\x7d' then (plain, [.closing])
  else (plain, [])

/-- Reads a character. -/
def step (c : Char) : Place → Place × List Mark
  | plain => stepPlain c
  | slash => if c = '*' then (comment [], []) else stepPlain c
  | comment body => if c = '*' then (star body, []) else (comment (body ++ [c]), [])
  | star body =>
    if c = '/' then (plain, [.comment body])
    else if c = '*' then (star (body ++ ['*']), [])
    else (comment (body ++ ['*', c]), [])
  | text content =>
    if c = '\x22' then (plain, [.text content])
    else if c = '\\' then (escape content, [])
    else if isLineEnd c then (broken, [])
    else (text (content ++ [c]), [])
  | escape content => if isLineEnd c then (text content, []) else (text (content ++ [c]), [])
  | broken => (broken, [])

/-- Reads characters, with the marks on the way. -/
def read (p : Place) : List Char → Place × List Mark
  | [] => (p, [])
  | c :: rest =>
    let next := p.step c
    let others := next.1.read rest
    (others.1, next.2 ++ others.2)

/-- A step without a mark leads from one place to the next. -/
theorem read_cons_of_step {p q : Place} {c : Char} (silent : p.step c = (q, []))
    (rest : List Char) : p.read (c :: rest) = q.read rest := by
  rw [read, silent]
  rfl

theorem read_append (p : Place) (a b : List Char) :
    p.read (a ++ b) = (((p.read a).1.read b).1, (p.read a).2 ++ ((p.read a).1.read b).2) := by
  induction a generalizing p with
  | nil => rfl
  | cons c rest ih =>
      rw [List.cons_append, read, read, ih]
      simp only [List.append_assoc]

end Place

/-- Whether a text that begins outside of everything ends there, with some marks on the way. -/
def Reads (s : String) (ms : List Mark) : Prop :=
  Place.plain.read s.toList = (.plain, ms)

instance (s : String) (ms : List Mark) : Decidable (Reads s ms) :=
  inferInstanceAs (Decidable (Place.plain.read s.toList = (.plain, ms)))

variable {s a b : String} {ms ns : List Mark}

theorem Reads.append (h : Reads a ms) (h' : Reads b ns) : Reads (a ++ b) (ms ++ ns) := by
  rw [Reads, String.toList_append, Place.read_append, h, h']

/-- Characters that stand for nothing outside of comments and quoted texts. -/
def isInert (c : Char) : Bool :=
  c != '/' && c != '\x22' && c != '\x7b' && c != '\x7d'

theorem isInert_iff {c : Char} :
    isInert c = true ↔ c ≠ '/' ∧ c ≠ '\x22' ∧ c ≠ '\x7b' ∧ c ≠ '\x7d' := by
  simp only [isInert, Bool.and_eq_true, bne_iff_ne, and_assoc]

theorem reads_of_inert (inert : Over isInert s) : Reads s [] := by
  have each : ∀ cs : List Char, (∀ c ∈ cs, isInert c = true) →
      Place.plain.read cs = (.plain, []) := by
    intro cs inert
    induction cs with
    | nil => rfl
    | cons c rest ih =>
        obtain ⟨here, there⟩ := List.forall_mem_cons.1 inert
        obtain ⟨slash, quote, opening, closing⟩ := isInert_iff.1 here
        have still : Place.plain.step c = (.plain, []) := by
          rw [Place.step, Place.stepPlain, if_neg slash, if_neg quote, if_neg opening,
            if_neg closing]
        rw [Place.read_cons_of_step still, ih there]
  exact each s.toList inert

theorem isInert_of_isWordChar {c : Char} (word : isWordChar c = true) : isInert c = true := by
  refine isInert_iff.2 ⟨?_, ?_, ?_, ?_⟩ <;>
    · rintro rfl
      revert word
      decide

theorem reads_of_word (word : Over isWordChar s) : Reads s [] :=
  reads_of_inert (word.mono fun _ => isInert_of_isWordChar)

/-! ## Quoted texts -/

/-- Characters that stand for themselves in a quoted text. -/
def isQuotable (c : Char) : Bool :=
  c != '\x22' && c != '\\' && !isLineEnd c

theorem Place.step_text {c : Char} (quotable : isQuotable c = true) (content : List Char) :
    (text content).step c = (text (content ++ [c]), []) := by
  simp only [isQuotable, Bool.and_eq_true, bne_iff_ne, Bool.not_eq_true'] at quotable
  obtain ⟨⟨quote, backslash⟩, lineEnd⟩ := quotable
  simp [step, quote, backslash, lineEnd]

theorem Place.read_text {cs : List Char} (quotable : ∀ c ∈ cs, isQuotable c = true)
    (content : List Char) : (text content).read cs = (text (content ++ cs), []) := by
  induction cs generalizing content with
  | nil => rw [List.append_nil]; rfl
  | cons c rest ih =>
      obtain ⟨here, there⟩ := List.forall_mem_cons.1 quotable
      rw [read_cons_of_step (step_text here content), ih there, List.append_assoc]
      rfl

theorem Place.read_broken (cs : List Char) : broken.read cs = (broken, []) := by
  induction cs with
  | nil => rfl
  | cons c rest ih => rw [read_cons_of_step rfl, ih]

/-- What a quoted text denotes is shorter than what is read of it. -/
theorem Place.length_of_read_text {cs : List Char} {q : Place} {u : List Char} {ms : List Mark} :
    (∀ content, (text content).read cs = (q, .text u :: ms) →
      u.length < content.length + cs.length) ∧
    ∀ content, (escape content).read cs = (q, .text u :: ms) →
      u.length < content.length + cs.length := by
  induction cs with
  | nil => exact ⟨nofun, nofun⟩
  | cons c rest ih =>
      obtain ⟨ihText, ihEscape⟩ := ih
      have longer (content : List Char) (run : (text (content ++ [c])).read rest =
          (q, .text u :: ms)) : u.length < content.length + (c :: rest).length := by
        have bound := ihText (content ++ [c]) run
        simp only [List.length_append, List.length_cons, List.length_nil] at bound ⊢
        omega
      constructor
      · intro content run
        rw [read, step] at run
        split_ifs at run
        · obtain ⟨-, marks⟩ := Prod.mk.inj run
          cases (List.cons.inj marks).1
          simp
        · exact Nat.lt_succ_of_lt (ihEscape content run)
        · rw [read_broken] at run
          cases run
        · exact longer content run
      · intro content run
        rw [read, step] at run
        split_ifs at run
        · exact Nat.lt_succ_of_lt (ihText content run)
        · exact longer content run

theorem Place.read_quoted_iff (content : List Char) {cs : List Char} :
    (text content).read (cs ++ ['\x22']) = (.plain, [.text (content ++ cs)]) ↔
      ∀ c ∈ cs, isQuotable c = true := by
  constructor
  · intro run
    induction cs generalizing content with
    | nil => exact List.forall_mem_nil _
    | cons c rest ih =>
        by_cases here : isQuotable c = true
        · have split : content ++ c :: rest = content ++ [c] ++ rest := List.append_cons ..
          rw [List.cons_append, read_cons_of_step (step_text here content), split] at run
          exact List.forall_mem_cons.2 ⟨here, ih _ run⟩
        · exfalso
          rw [List.cons_append, read, step] at run
          split_ifs at run with quote backslash lineEnd
          · obtain ⟨-, marks⟩ := Prod.mk.inj run
            have same := Mark.text.inj (List.cons.inj marks).1
            exact absurd (congrArg List.length same) (by simp)
          · have bound := length_of_read_text.2 content run
            simp at bound
          · rw [read_broken] at run
            cases run
          · exact here (by simp [isQuotable, quote, backslash, lineEnd])
  · intro quotable
    rw [read_append, read_text quotable]
    rfl

/-- A quoted text is read as itself exactly if all of its characters stand for themselves. -/
theorem reads_quoted_iff :
    Reads ("\x22" ++ s ++ "\x22") [.text s.toList] ↔ Over isQuotable s := by
  have chars : ("\x22" ++ s ++ "\x22").toList = '\x22' :: (s.toList ++ ['\x22']) := by simp
  have enter : Place.plain.read ('\x22' :: (s.toList ++ ['\x22'])) =
      (Place.text []).read (s.toList ++ ['\x22']) := rfl
  rw [Reads, chars, enter]
  exact Place.read_quoted_iff []

theorem isQuotable_of_isWordChar {c : Char} (word : isWordChar c = true) :
    isQuotable c = true := by
  simp only [isQuotable, isLineEnd, Bool.and_eq_true, bne_iff_ne, Bool.not_eq_true',
    List.contains_eq_mem, decide_eq_false_iff_not, List.mem_cons, List.not_mem_nil, or_false, not_or]
  refine ⟨⟨?_, ?_⟩, ?_, ?_, ?_⟩ <;>
    · rintro rfl
      revert word
      decide

/-! ## Comments -/

/-- What ends a comment. -/
def commentEnd : List Char := ['*', '/']

/-- Whether a text holds the end of a comment. -/
def EndsComment (s : String) : Prop :=
  commentEnd <:+: s.toList

instance (s : String) : Decidable (EndsComment s) :=
  decidable_of_iff (Text.occurs commentEnd s.toList = true) Text.occurs_iff

/-- Whether a text that begins in a comment ends there, and not behind an asterisk. -/
def Inside (s : String) : Prop :=
  ∀ body, (Place.comment body).read s.toList = (.comment (body ++ s.toList), [])

theorem Inside.append (h : Inside a) (h' : Inside b) : Inside (a ++ b) := by
  intro body
  rw [String.toList_append, Place.read_append, h, h', List.append_assoc]
  rfl

theorem inside_of_over (plain : Over (· != '*') s) : Inside s := by
  have each : ∀ cs : List Char, (∀ c ∈ cs, (c != '*') = true) → ∀ body,
      (Place.comment body).read cs = (.comment (body ++ cs), []) := by
    intro cs plain
    induction cs with
    | nil => intro body; rw [List.append_nil]; rfl
    | cons c rest ih =>
        intro body
        obtain ⟨here, there⟩ := List.forall_mem_cons.1 plain
        have step : (Place.comment body).step c = (.comment (body ++ [c]), []) :=
          if_neg (bne_iff_ne.1 here)
        rw [Place.read_cons_of_step step, ih there, List.append_assoc]
        rfl
  exact each s.toList plain

/-- Behind a text that does not end the comment, the comment goes on with any character that cannot end
it either. -/
theorem inside_of_not_endsComment (free : ¬ EndsComment s) {d : Char} (asterisk : d ≠ '*')
    (slash : d ≠ '/') : Inside (s ++ String.singleton d) := by
  have each : ∀ cs : List Char,
      (¬ commentEnd <:+: cs → ∀ body,
        (Place.comment body).read (cs ++ [d]) = (.comment (body ++ (cs ++ [d])), [])) ∧
      (¬ commentEnd <:+: '*' :: cs → ∀ body,
        (Place.star body).read (cs ++ [d]) = (.comment (body ++ '*' :: (cs ++ [d])), [])) := by
    intro cs
    induction cs with
    | nil =>
        refine ⟨fun _ body => ?_, fun _ body => ?_⟩
        · have step : (Place.comment body).step d = (.comment (body ++ [d]), []) :=
            if_neg asterisk
          exact Place.read_cons_of_step step []
        · have step : (Place.star body).step d = (.comment (body ++ ['*', d]), []) := by
            rw [Place.step, if_neg slash, if_neg asterisk]
          exact Place.read_cons_of_step step []
    | cons c rest ih =>
        obtain ⟨ihComment, ihStar⟩ := ih
        constructor
        · intro free body
          by_cases asterisk : c = '*'
          · have step : (Place.comment body).step c = (.star body, []) := if_pos asterisk
            rw [List.cons_append, Place.read_cons_of_step step, ihStar (asterisk ▸ free), asterisk]
          · have step : (Place.comment body).step c = (.comment (body ++ [c]), []) :=
              if_neg asterisk
            have free' := fun ends => free (List.infix_cons ends)
            rw [List.cons_append, Place.read_cons_of_step step, ihComment free', List.append_assoc]
            rfl
        · intro free body
          have slash : c ≠ '/' := by
            rintro rfl
            exact free (List.prefix_append commentEnd rest).isInfix
          have free' := fun ends => free (List.infix_cons ends)
          by_cases asterisk : c = '*'
          · have step : (Place.star body).step c = (.star (body ++ ['*']), []) := by
              rw [Place.step, if_neg slash, if_pos asterisk]
            rw [List.cons_append, Place.read_cons_of_step step, ihStar (asterisk ▸ free'),
              List.append_assoc, asterisk]
            rfl
          · have step : (Place.star body).step c = (.comment (body ++ ['*', c]), []) := by
              rw [Place.step, if_neg slash, if_neg asterisk]
            have free'' := fun ends => free' (List.infix_cons ends)
            rw [List.cons_append, Place.read_cons_of_step step, ihComment free'',
              List.append_assoc]
            rfl
  intro body
  rw [String.toList_append, String.toList_singleton]
  exact (each s.toList).1 free body

theorem reads_comment (inside : Inside s) : Reads ("/*" ++ s ++ "*/") [.comment s.toList] := by
  have chars : ("/*" ++ s ++ "*/").toList = ['/', '*'] ++ (s.toList ++ commentEnd) := by
    simp [commentEnd]
  have enter : Place.plain.read ['/', '*'] = (.comment [], []) := rfl
  rw [Reads, chars, Place.read_append, enter, Place.read_append, inside]
  rfl

/-- A comment whose text has blanks around it. -/
theorem reads_comment_spaced (inside : Inside (" " ++ s ++ " ")) :
    Reads ("/* " ++ s ++ " */") [.comment (" " ++ s ++ " ").toList] := by
  have whole : "/* " ++ s ++ " */" = "/*" ++ (" " ++ s ++ " ") ++ "*/" := by
    simp [← String.toList_inj]
  rw [whole]
  exact reads_comment inside

/-- Behind an asterisk and a slash some comment has ended, and it is no longer than what was read. -/
theorem Place.length_of_read_comment (cs : List Char) :
    (∀ body, ∃ q u ms, (comment body).read (cs ++ commentEnd) = (q, .comment u :: ms) ∧
      u.length ≤ body.length + cs.length) ∧
    ∀ body, ∃ q u ms, (star body).read (cs ++ commentEnd) = (q, .comment u :: ms) ∧
      u.length ≤ body.length + cs.length + 1 := by
  induction cs with
  | nil =>
      exact ⟨fun body => ⟨.plain, body, [], rfl, Nat.le_refl _⟩,
        fun body => ⟨.plain, body ++ ['*'], [], rfl, by simp⟩⟩
  | cons c rest ih =>
      obtain ⟨ihComment, ihStar⟩ := ih
      constructor
      · intro body
        by_cases asterisk : c = '*'
        · have step : (comment body).step c = (star body, []) := if_pos asterisk
          obtain ⟨q, u, ms, run, bound⟩ := ihStar body
          exact ⟨q, u, ms, (read_cons_of_step step _).trans run, bound⟩
        · have step : (comment body).step c = (comment (body ++ [c]), []) := if_neg asterisk
          obtain ⟨q, u, ms, run, bound⟩ := ihComment (body ++ [c])
          refine ⟨q, u, ms, (read_cons_of_step step _).trans run, ?_⟩
          simp only [List.length_append, List.length_cons, List.length_nil] at bound ⊢
          omega
      · intro body
        by_cases slash : c = '/'
        · have step : (star body).step c = (plain, [.comment body]) := if_pos slash
          refine ⟨(plain.read (rest ++ commentEnd)).1, body, (plain.read (rest ++ commentEnd)).2,
            ?_, by omega⟩
          rw [List.cons_append, read, step]
          rfl
        · by_cases asterisk : c = '*'
          · have step : (star body).step c = (star (body ++ ['*']), []) := by
              rw [Place.step, if_neg slash, if_pos asterisk]
            obtain ⟨q, u, ms, run, bound⟩ := ihStar (body ++ ['*'])
            refine ⟨q, u, ms, (read_cons_of_step step _).trans run, ?_⟩
            simp only [List.length_append, List.length_cons, List.length_nil] at bound ⊢
            omega
          · have step : (star body).step c = (comment (body ++ ['*', c]), []) := by
              rw [Place.step, if_neg slash, if_neg asterisk]
            obtain ⟨q, u, ms, run, bound⟩ := ihComment (body ++ ['*', c])
            refine ⟨q, u, ms, (read_cons_of_step step _).trans run, ?_⟩
            simp only [List.length_append, List.length_cons, List.length_nil] at bound ⊢
            omega

/-- A comment ends at its own end exactly if its text does not end it. -/
theorem reads_comment_iff :
    Reads ("/* " ++ s ++ " */") [.comment (" " ++ s ++ " ").toList] ↔ ¬ EndsComment s := by
  constructor
  · rintro run ⟨front, back, split⟩
    have chars : ("/* " ++ s ++ " */").toList =
        ['/', '*', ' '] ++ ((front ++ commentEnd) ++ (back ++ [' ', '*', '/'])) := by
      simp [← split]
    have enter : Place.plain.read ['/', '*', ' '] = (.comment [' '], []) := rfl
    obtain ⟨q, u, ms, first, bound⟩ := (Place.length_of_read_comment front).1 [' ']
    rw [Reads, chars, Place.read_append, enter, Place.read_append, first] at run
    obtain ⟨-, marks⟩ := Prod.mk.inj run
    have same := congrArg List.length (Mark.comment.inj (List.cons.inj marks).1)
    simp only [String.toList_append, ← split, commentEnd, List.length_append] at same bound
    simp at same bound
    omega
  · intro free
    have inside : Inside (" " ++ (s ++ " ")) :=
      (inside_of_over (by decide)).append
        (inside_of_not_endsComment (d := ' ') free (by decide) (by decide))
    rw [← String.append_assoc] at inside
    exact reads_comment_spaced inside

/-! ## Braces -/

/-- The count of open braces behind some marks; nothing if one is closed that is not open. -/
def depthAfter : Nat → List Mark → Option Nat
  | d, [] => some d
  | d, .opening :: ms => depthAfter (d + 1) ms
  | 0, .closing :: _ => none
  | d + 1, .closing :: ms => depthAfter d ms
  | d, .comment _ :: ms => depthAfter d ms
  | d, .text _ :: ms => depthAfter d ms

theorem depthAfter_append (d : Nat) (ms ns : List Mark) :
    depthAfter d (ms ++ ns) = (depthAfter d ms).bind fun d => depthAfter d ns := by
  fun_induction depthAfter d ms with
  | case1 => rfl
  | case2 d ms ih => rw [← ih]; rfl
  | case3 ms => rfl
  | case4 d ms ih => rw [← ih]; rfl
  | case5 d body ms ih => rw [← ih]; rfl
  | case6 d content ms ih => rw [← ih]; rfl

/-- Whether every brace that is opened is closed again, and no other. -/
def Balanced (ms : List Mark) : Prop :=
  ∀ d, depthAfter d ms = some d

theorem balanced_nil : Balanced [] := fun _ => rfl

theorem balanced_comment (body : List Char) : Balanced [.comment body] := fun _ => rfl

theorem balanced_text (content : List Char) : Balanced [.text content] := fun _ => rfl

theorem Balanced.append (h : Balanced ms) (h' : Balanced ns) : Balanced (ms ++ ns) := by
  intro d
  rw [depthAfter_append, h, Option.bind_some, h']

/-- Marks between braces. -/
def braces (ms : List Mark) : List Mark :=
  .opening :: ms ++ [.closing]

theorem Balanced.braces (h : Balanced ms) : Balanced (braces ms) := by
  intro d
  rw [Css.braces, List.cons_append, depthAfter, depthAfter_append, h]
  rfl

theorem Balanced.flatMap {α : Type} (xs : List α) {f : α → List Mark}
    (each : ∀ x ∈ xs, Balanced (f x)) : Balanced (xs.flatMap f) := by
  induction xs with
  | nil => exact balanced_nil
  | cons x rest ih =>
      obtain ⟨here, there⟩ := List.forall_mem_cons.1 each
      rw [List.flatMap_cons]
      exact here.append (ih there)

end TokenSheet.Css
