import TokenSheet.Command.Run
import TokenSheet.Proofs.Steps

/-!
Input files that cannot be used.

A run that cannot use a file stops with a message below the path of the file. This covers files that
are missing, texts that are malformed and documents of the wrong shape. Two kinds of content are not
covered (`input_files_reported_iff`): bytes that encode no text, and settings where a value stands in the
place of a table and has no entries. A value of a document that does not exist, such as an integer of too
many digits, is the fault of the reader of the format.
-/

namespace TokenSheet

/-! ## Values in the place of a table -/

namespace Settings

/-- Whether a value stands for a table: it is one, or its parts are pairs of a key and a value. -/
inductive HasEntries : Document → Prop where
  | mapping (entries : List (Key × Document)) : HasEntries (.mapping entries)
  | pairs {d : Document} {items : List Document} (parts : parts? d = some items)
      (each : ∀ item ∈ items, ∃ name value key,
        parts? item = some [name, value] ∧ name.key? = some key) : HasEntries d

theorem entryOf_returns_iff (index : Nat) {item : Document} :
    (∃ e, entryOf index item = .ok e) ↔
      ∃ name value key, parts? item = some [name, value] ∧ name.key? = some key := by
  unfold entryOf
  constructor
  · rintro ⟨e, run⟩
    split at run
    · cases run
    · rename_i name value parts
      split at run
      · rename_i key named
        exact ⟨name, value, key, parts, named⟩
      · cases run
    · cases run
  · rintro ⟨name, value, key, parts, named⟩
    simp only [parts, named]
    exact ⟨_, rfl⟩

theorem entriesOf_returns_iff (start : Nat) {items : List Document} :
    (∃ es, entriesOf start items = .ok es) ↔ ∀ item ∈ items, ∃ name value key,
      parts? item = some [name, value] ∧ name.key? = some key := by
  induction items generalizing start with
  | nil => simp [entriesOf]
  | cons item rest ih =>
      rw [List.forall_mem_cons, ← entryOf_returns_iff start, ← ih (start + 1), entriesOf]
      constructor
      · rintro ⟨es, run⟩
        obtain ⟨e, here, run⟩ := bind_eq_ok.1 run
        obtain ⟨others, there, -⟩ := bind_eq_ok.1 run
        exact ⟨⟨e, here⟩, others, there⟩
      · rintro ⟨⟨e, here⟩, others, there⟩
        exact ⟨e :: others, by rw [here, there]; rfl⟩

theorem tableOf_returns_iff {d : Document} : (∃ es, tableOf d = .ok es) ↔ HasEntries d := by
  unfold tableOf
  split
  · rename_i entries
    exact ⟨fun _ => .mapping entries, fun _ => ⟨entries, rfl⟩⟩
  · rename_i d noMapping
    constructor
    · rintro ⟨es, run⟩
      split at run
      · cases run
      · rename_i items parts
        refine .pairs parts ((entriesOf_returns_iff 0).1 ?_)
        cases read : entriesOf 0 items with
        | ok entries => exact ⟨entries, rfl⟩
        | error e => rw [read] at run; cases run
    · intro entries
      cases entries with
      | mapping entries => exact absurd rfl (noMapping entries)
      | pairs parts each =>
          obtain ⟨es, read⟩ := (entriesOf_returns_iff 0).2 each
          exact ⟨Document.ofEntries es, by simp only [parts, read]; rfl⟩

/-- A table of a file is there unless a value without entries stands in its place. -/
theorem table_returns_iff {document : List (Key × Document)} {name : String} :
    (∃ es, table document name = .ok es) ↔
      ∀ d, Document.find? document name = some d → HasEntries d := by
  unfold table
  split
  · rename_i absent
    simp [absent]
  · rename_i d found
    rw [found]
    simp only [Option.some.injEq, forall_eq', ← tableOf_returns_iff]
    cases tableOf d <;> simp [Except.mapError]

theorem notTable_of_table {document : List (Key × Document)} {name : String} {e : SettingsError}
    (run : table document name = .error e) : ∃ reason, e = .notTable reason := by
  unfold table at run
  split at run
  · cases run
  · rename_i d found
    cases read : tableOf d with
    | ok es => rw [read] at run; cases run
    | error reason =>
        rw [read] at run
        cases run
        exact ⟨reason, rfl⟩

end Settings

/-! ## Readings that end in a report -/

namespace Command

variable {ε ε' α β : Type} {stop : ε → Stop} {file : Path}

/-- Whether a failure stops the run with a message below the path of a file. -/
def ReportsAt (stop : ε → Stop) (file : Path) (e : ε) : Prop :=
  ∃ message, stop e = failure (file.text ++ "\n" ++ message)

/-- Whether a reading of a file gives a value, or a failure that is reported with the file. -/
def ReturnsOrReports (stop : ε → Stop) (file : Path) (r : Except ε α) : Prop :=
  (∃ a, r = .ok a) ∨ ∃ e, r = .error e ∧ ReportsAt stop file e

theorem returnsOrReports_ok (a : α) : ReturnsOrReports stop file (.ok a) :=
  .inl ⟨a, rfl⟩

theorem returnsOrReports_error {e : ε} :
    ReturnsOrReports stop file (.error e : Except ε α) ↔ ReportsAt stop file e := by
  simp [ReturnsOrReports]

/-- Of a reading in two steps, each must end well. -/
theorem returnsOrReports_bind {x : Except ε α} {f : α → Except ε β} :
    ReturnsOrReports stop file (x >>= f) ↔
      (∀ e, x = .error e → ReportsAt stop file e) ∧
        ∀ a, x = .ok a → ReturnsOrReports stop file (f a) := by
  cases x with
  | ok a => simp [ok_bind]
  | error e => simp [error_bind, returnsOrReports_error]

theorem returnsOrReports_mapError_bind {x : Except ε' α} {wrap : ε' → ε} {f : α → Except ε β} :
    ReturnsOrReports stop file (x.mapError wrap >>= f) ↔
      (∀ e, x = .error e → ReportsAt stop file (wrap e)) ∧
        ∀ a, x = .ok a → ReturnsOrReports stop file (f a) := by
  rw [returnsOrReports_bind]
  cases x <;> simp [Except.mapError]

/-- A last step whose failures are all reported ends well. -/
theorem returnsOrReports_mapError {x : Except ε' α} {wrap : ε' → ε}
    (all : ∀ e, ReportsAt stop file (wrap e)) : ReturnsOrReports stop file (x.mapError wrap) := by
  cases x with
  | ok a => exact returnsOrReports_ok a
  | error e => exact returnsOrReports_error.2 (all e)

theorem reportsAt_snapshotStop {e : Design.LoadError} :
    ReportsAt (snapshotStop file) file e ↔ e.message?.isSome = true := by
  unfold ReportsAt snapshotStop
  cases e.message? with
  | none => simp [failure]
  | some message => exact ⟨fun _ => rfl, fun _ => ⟨message, rfl⟩⟩

theorem reportsAt_settingsStop {e : SettingsError} :
    ReportsAt (settingsStop (some file)) file e ↔ e.message?.isSome = true := by
  unfold ReportsAt settingsStop
  cases e.message? with
  | none => simp [failure]
  | some message => exact ⟨fun _ => rfl, fun _ => ⟨message, rfl⟩⟩

/-! ## Files -/

/-- The text that the content of a file encodes, with unified line ends. -/
def contentText? (content : ByteArray) : Option String :=
  (String.fromUTF8? content).map fun s => String.ofList (Text.unifyLineEnds s.toList)

/-- Whether content is a text that is malformed or holds a document fit for use. -/
def Legible (parse : String → Except ReadFault α) (Fit : α → Prop) (content : ByteArray) : Prop :=
  ∃ s, contentText? content = some s ∧
    (∀ fault, parse s = .error fault → fault = .malformed) ∧ ∀ d, parse s = .ok d → Fit d

/-- A file is read and its text is parsed: this ends well if the content is legible, given that what is
wrong with the file itself and with the grammar is reported. -/
theorem returnsOrReports_parsed {w : Workspace} {parse : String → Except ReadFault α}
    {f : α → Except ε β} {ofFile : ReadTrouble → ε} {ofText : ReadFault → ε}
    (files : ∀ trouble, ReportsAt stop file (ofFile trouble) ↔ trouble = .unreadable)
    (texts : ∀ fault, ReportsAt stop file (ofText fault) ↔ fault = .malformed) :
    ReturnsOrReports stop file
        ((w.readText file).mapError ofFile >>= fun s => (parse s).mapError ofText >>= f) ↔
      file.hasEndMark = false ∧ ∀ content, w.at? file = some (.file content) →
        Legible parse (fun d => ReturnsOrReports stop file (f d)) content := by
  simp only [returnsOrReports_mapError_bind, files, texts, Workspace.readText]
  cases mark : file.hasEndMark with
  | true => simp
  | false =>
      simp only [Bool.false_eq_true, if_false, true_and]
      cases node : w.at? file with
      | none => simp
      | some n =>
          cases n with
          | folder => simp
          | file content =>
              simp only [Option.some.injEq, Node.file.injEq, forall_eq', Legible, contentText?]
              cases String.fromUTF8? content <;> simp

theorem Legible.congr {parse : String → Except ReadFault α} {Fit Fit' : α → Prop}
    {content : ByteArray} (same : ∀ d, Fit d ↔ Fit' d) :
    Legible parse Fit content ↔ Legible parse Fit' content := by
  simp only [Legible, same]

/-- Whatever the document of a snapshot is, it is a snapshot or the reason why not is reported. -/
theorem returnsOrReports_ofDocument (d : Document) :
    ReturnsOrReports (snapshotStop file) file
      ((Design.Snapshot.ofDocument d).mapError .invalid) :=
  returnsOrReports_mapError fun _ => reportsAt_snapshotStop.2 rfl

/-- Whatever the entries of the two tables are, they are settings or the reason why not is reported. -/
theorem returnsOrReports_ofTables (options widths : List (Key × Document)) :
    ReturnsOrReports (settingsStop (some file)) file (Settings.ofTables options widths) := by
  refine returnsOrReports_mapError_bind.2
    ⟨fun _ _ => reportsAt_settingsStop.2 rfl, fun o _ => returnsOrReports_mapError_bind.2
      ⟨fun _ _ => reportsAt_settingsStop.2 rfl, fun w _ => returnsOrReports_ok _⟩⟩

/-- What stands in the place of a table is not reported: there must be a table. -/
theorem reportsAt_table_iff {document : List (Key × Document)} {name : String} :
    (∀ e, Settings.table document name = .error e → ReportsAt (settingsStop (some file)) file e) ↔
      ∀ d, Document.find? document name = some d → Settings.HasEntries d := by
  rw [← Settings.table_returns_iff]
  cases read : Settings.table document name with
  | ok es => simp
  | error e =>
      have unreported : ¬ReportsAt (settingsStop (some file)) file e := by
        obtain ⟨reason, rfl⟩ := Settings.notTable_of_table read
        simp [reportsAt_settingsStop, SettingsError.message?]
      simp [unreported]

/-- Loading a snapshot ends in a report or a snapshot if the content of the file is legible; settings also
need tables, or values that stand for tables, in the places of their two tables. -/
theorem input_files_reported_iff (w : Workspace) (file : Path)
    (overrides : List (Key × Document)) :
    (ReturnsOrReports (snapshotStop file) file (Design.Snapshot.load w file) ↔
      file.hasEndMark = false ∧ ∀ content, w.at? file = some (.file content) →
        Legible (Design.parseDocument file) (fun _ => True) content) ∧
    (ReturnsOrReports (settingsStop (some file)) file
        (Settings.load w (some file) overrides) ↔
      file.hasEndMark = false ∧ ∀ content, w.at? file = some (.file content) →
        Legible Toml.parse (fun document => ∀ name ∈ ["export", "breakpoints"], ∀ d,
          Document.find? document name = some d → Settings.HasEntries d) content) := by
  constructor
  · have files : ∀ trouble,
        ReportsAt (snapshotStop file) file (.file trouble) ↔ trouble = .unreadable := fun trouble => by
      cases trouble <;> simp [reportsAt_snapshotStop, Design.LoadError.message?]
    have texts : ∀ fault,
        ReportsAt (snapshotStop file) file (.text fault) ↔ fault = .malformed := fun fault => by
      cases fault <;> simp [reportsAt_snapshotStop, Design.LoadError.message?]
    have always : ∀ d, ReturnsOrReports (snapshotStop file) file
        ((Design.Snapshot.ofDocument d).mapError .invalid) ↔ True :=
      fun d => iff_true_intro (returnsOrReports_ofDocument d)
    refine (returnsOrReports_parsed files texts).trans (and_congr_right fun _ => ?_)
    simp only [Legible.congr always]
  · have files : ∀ trouble, ReportsAt (settingsStop (some file)) file (.file trouble) ↔
        trouble = .unreadable := fun trouble => by
      cases trouble <;> simp [reportsAt_settingsStop, SettingsError.message?]
    have texts : ∀ fault, ReportsAt (settingsStop (some file)) file (.text fault) ↔
        fault = .malformed := fun fault => by
      cases fault <;> simp [reportsAt_settingsStop, SettingsError.message?]
    have tables : ∀ document, ReturnsOrReports (settingsStop (some file)) file
        (Settings.table document "export" >>= fun options =>
          Settings.table document "breakpoints" >>= fun widths =>
            Settings.ofTables (Settings.overridden options overrides) widths) ↔
        ∀ name ∈ ["export", "breakpoints"], ∀ d,
          Document.find? document name = some d → Settings.HasEntries d := fun document => by
      simp only [returnsOrReports_bind, reportsAt_table_iff, returnsOrReports_ofTables,
        implies_true, and_true, List.forall_mem_cons, List.not_mem_nil, false_imp_iff]
      refine and_congr_right fun entries => ?_
      obtain ⟨es, read⟩ := Settings.table_returns_iff.2 entries
      simp [read]
    have load : Settings.load w (some file) overrides =
        (w.readText file).mapError .file >>= fun s => (Toml.parse s).mapError .text >>=
          fun document => Settings.table document "export" >>= fun options =>
            Settings.table document "breakpoints" >>= fun widths =>
              Settings.ofTables (Settings.overridden options overrides) widths := by
      simp only [Settings.load, Settings.readTables, bind_assoc, pure_bind]
    rw [load]
    refine (returnsOrReports_parsed files texts).trans (and_congr_right fun _ => ?_)
    simp only [Legible.congr tables]

/-! ## Files that cut a run short -/

namespace RoughFiles

/-- A folder that holds one file. -/
def workspace (name : String) (content : ByteArray) : Workspace where
  current := []
  nodes := [([name], .file content)]

/-- A byte that begins no character. -/
def noText : ByteArray := ⟨#[0xff]⟩

/-- A number in the place of the table of options. -/
def numberForTable : ByteArray := "export = 1\n".toUTF8

/-- Whether a reading fails without a message. -/
def failsSilently {ε α : Type} (message? : ε → Option String) : Except ε α → Bool
  | .ok _ => false
  | .error e => (message? e).isNone

theorem crashes_of_failsSilently {ε α : Type} {message? : ε → Option String} {stop : ε → Stop}
    {file : Path} {r : Except ε α} (silent : failsSilently message? r = true)
    (same : ∀ e, ReportsAt stop file e ↔ (message? e).isSome = true) :
    ¬ReturnsOrReports stop file r := by
  cases r with
  | ok a => cases silent
  | error e =>
      have none : message? e = none := Option.isNone_iff_eq_none.1 silent
      rw [returnsOrReports_error, same, none]
      simp

/-- A byte that is no text cuts the run short in either file, and so does a number in the place of
a table. -/
theorem files_may_crash :
    ¬ReturnsOrReports (snapshotStop ⟨"", ["t.json"]⟩) ⟨"", ["t.json"]⟩
        (Design.Snapshot.load (workspace "t.json" noText) ⟨"", ["t.json"]⟩) ∧
      ∀ content ∈ [noText, numberForTable],
        ¬ReturnsOrReports (settingsStop (some ⟨"", [settingsFile]⟩)) ⟨"", [settingsFile]⟩
          (Settings.load (workspace settingsFile content) (some ⟨"", [settingsFile]⟩) []) := by
  refine ⟨crashes_of_failsSilently (by decide +kernel)
    fun _ => reportsAt_snapshotStop, fun content mem => ?_⟩
  obtain rfl | mem := List.mem_cons.1 mem
  · exact crashes_of_failsSilently (by decide +kernel)
      fun _ => reportsAt_settingsStop
  · obtain rfl := List.mem_singleton.1 mem
    exact crashes_of_failsSilently (by decide +kernel)
      fun _ => reportsAt_settingsStop

end RoughFiles

end Command

end TokenSheet
