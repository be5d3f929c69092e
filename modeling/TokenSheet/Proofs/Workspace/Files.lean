import TokenSheet.Proofs.Steps
import TokenSheet.Workspace.Tree

/-!
What writing changes in a workspace.

A path leads to one location, whatever is there (`Path.destination`). Writing a file changes the
content of the file at this location and of no other one (`ChangesOnly`), and neither writing files
nor making folders puts anything in the place of a folder (`KeepsFolders`). So every path that can be
followed before can be followed afterwards, to the same location, and a file that was written is
found under its path.
-/

namespace TokenSheet

/-- The location that a path leads to from a folder. -/
def Path.destination (current : Location) (p : Path) : Location :=
  p.parts.foldl (fun here part => if part = ".." then here.dropLast else here ++ [part])
    (if p.root.isEmpty then current else [])

namespace Workspace

/-- The content of the file at a location, if one is there. -/
def file? (w : Workspace) (here : Location) : Option ByteArray :=
  match w.node? here with
  | some (.file content) => some content
  | _ => none

/-- Whether two workspaces hold the same files, perhaps among other folders. -/
def SameFiles (w w' : Workspace) : Prop :=
  ∀ here, w'.file? here = w.file? here

/-- Whether all folders stay, with the one that paths start from. -/
structure KeepsFolders (w w' : Workspace) : Prop where
  current : w'.current = w.current
  folders : ∀ here, w.node? here = some .folder → w'.node? here = some .folder

/-- Whether each file that was made or changed has one of its new contents. -/
def ChangesOnly (w w' : Workspace) (filled : Location → ByteArray → Prop) : Prop :=
  ∀ here, w'.file? here = w.file? here ∨ ∃ content, w'.file? here = some content ∧ filled here content

variable {w w' w'' : Workspace} {here there : Location} {p : Path} {content : ByteArray}
  {filled filled' : Location → ByteArray → Prop}

theorem SameFiles.refl (w : Workspace) : SameFiles w w := fun _ => rfl

theorem SameFiles.trans (h : SameFiles w w') (h' : SameFiles w' w'') : SameFiles w w'' :=
  fun here => (h' here).trans (h here)

theorem SameFiles.changesOnly (same : SameFiles w w') : ChangesOnly w w' filled :=
  fun here => .inl (same here)

theorem KeepsFolders.refl (w : Workspace) : KeepsFolders w w := ⟨rfl, fun _ folder => folder⟩

theorem KeepsFolders.trans (h : KeepsFolders w w') (h' : KeepsFolders w' w'') :
    KeepsFolders w w'' :=
  ⟨h'.current.trans h.current, fun here folder => h'.folders here (h.folders here folder)⟩

theorem ChangesOnly.trans (h : ChangesOnly w w' filled) (h' : ChangesOnly w' w'' filled) :
    ChangesOnly w w'' filled := by
  intro here
  rcases h' here with same | changed
  · rw [same]
    exact h here
  · exact .inr changed

theorem ChangesOnly.mono (h : ChangesOnly w w' filled)
    (sub : ∀ here content, filled here content → filled' here content) :
    ChangesOnly w w' filled' := by
  intro here
  rcases h here with same | ⟨content, changed, new⟩
  · exact .inl same
  · exact .inr ⟨content, changed, sub here content new⟩

/-! ## Following a path -/

theorem KeepsFolders.follow {parts : List String} (keeps : KeepsFolders w w')
    (run : w.follow here parts = .ok there) : w'.follow here parts = .ok there := by
  induction parts generalizing here with
  | nil => exact run
  | cons part rest ih =>
      rw [Workspace.follow] at run ⊢
      split at run
      · cases run
      · cases run
      · rename_i folder
        rw [keeps.folders _ folder]
        split at run
        · cases run
        · rename_i short
          exact (if_neg short).trans (ih run)

theorem KeepsFolders.locate (keeps : KeepsFolders w w') (run : w.locate p = .ok here) :
    w'.locate p = .ok here := by
  rw [Workspace.locate] at run ⊢
  split at run
  · cases run
  · rename_i short
    rw [if_neg short, keeps.current]
    exact keeps.follow run

/-- What a file holds after it is written, and what else is as before. -/
structure Writes (w w' : Workspace) (p : Path) (content : ByteArray) : Prop where
  keeps : KeepsFolders w w'
  holds : w'.at? p = some (.file content)
  changes : ChangesOnly w w' fun here new => here = p.destination w.current ∧ new = content

/-- Whether folders may have been added, and nothing else is different. -/
structure Furnishes (w w' : Workspace) : Prop extends KeepsFolders w w' where
  same : SameFiles w w'

theorem Furnishes.refl (w : Workspace) : Furnishes w w := ⟨.refl w, .refl w⟩

theorem Furnishes.trans (h : Furnishes w w') (h' : Furnishes w' w'') : Furnishes w w'' :=
  ⟨h.toKeepsFolders.trans h'.toKeepsFolders, h.same.trans h'.same⟩

end Workspace

end TokenSheet
