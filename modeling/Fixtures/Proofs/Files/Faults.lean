import Fixtures.Proofs.Files.Replacing

/-!
# Faults of the system

An operation on files fails with a fault of the system, and is reported so (`Fault.IsSystem.report`). The one
fault that is none is that of a path without a file name. Replacing a file meets it only there
(`replaceFile_isSystem`): where the path has a name, whatever fails is an operation on files.
-/

namespace Fixtures.Files

open Runs

/-- A fault of the system, and not a path that names no file. -/
def Fault.IsSystem : Fault → Prop
  | nameless _ => False
  | _ => True

/-- A fault of the system is reported as one. -/
theorem Fault.IsSystem.report {fault : Fault} (h : fault.IsSystem) :
    fault.report = "io error: " ++ fault.message := by
  cases fault with
  | nameless => exact h.elim
  | _ => rfl

/-! ## Questions -/

/-- A question to the files that fails with faults of the system only. -/
def FailsAsSystem {α : Type} (x : Except Fault α) : Prop := ∀ fault, x = .error fault → fault.IsSystem

namespace FailsAsSystem

variable {α β : Type}

theorem ok (a : α) : FailsAsSystem (.ok a : Except Fault α) := by
  intro fault h
  cases h

theorem error {fault : Fault} (h : fault.IsSystem) : FailsAsSystem (.error fault : Except Fault α) := by
  intro other same
  cases same
  exact h

theorem bind {x : Except Fault α} {f : α → Except Fault β} (first : FailsAsSystem x)
    (second : ∀ a, FailsAsSystem (f a)) : FailsAsSystem (x >>= f) := by
  intro fault h
  cases x with
  | error other =>
    cases h
    exact first _ rfl
  | ok a => exact second a fault h

theorem foldlM {f : β → α → Except Fault β} (each : ∀ b a, FailsAsSystem (f b a)) (as : List α) (b : β) :
    FailsAsSystem (as.foldlM f b) := by
  induction as generalizing b with
  | nil => exact ok b
  | cons a as ih =>
    rw [List.foldlM_cons]
    exact (each b a).bind ih

end FailsAsSystem

open FailsAsSystem

namespace Tree

variable (t : Tree)

theorem enter_isSystem (location : Location) : FailsAsSystem (t.enter location) := by
  rw [enter]
  split
  · exact ok _
  · exact error trivial
  · exact error trivial

theorem namesOf_isSystem (path : String) : FailsAsSystem (namesOf path) := by
  unfold namesOf
  split
  · exact error trivial
  split
  · exact error trivial
  split
  · exact error trivial
  · exact ok _

theorem follow_isSystem (location : Location) (name : String) : FailsAsSystem (t.follow location name) := by
  refine (t.enter_isSystem location).bind fun _ => ?_
  split
  · exact ok _
  split
  · exact ok _
  split
  · exact error trivial
  split
  · exact ok _
  · exact error trivial

theorem locate_isSystem (path : String) : FailsAsSystem (t.locate path) :=
  (namesOf_isSystem path).bind fun _ => foldlM t.follow_isSystem _ _

theorem target_isSystem (path : String) : FailsAsSystem (t.target path) := by
  refine (namesOf_isSystem path).bind fun _ => ?_
  refine (foldlM t.follow_isSystem _ _).bind fun dir => ?_
  refine (t.enter_isSystem dir).bind fun _ => ?_
  dsimp only
  split
  · exact error trivial
  · exact ok _

theorem fileTarget_isSystem (path : String) : FailsAsSystem (t.fileTarget path) := by
  refine (t.target_isSystem path).bind fun target => ?_
  split
  · exact error trivial
  dsimp only
  split
  · exact error trivial
  split
  · exact error trivial
  · exact ok _

theorem makeDir_isSystem (path : String) : FailsAsSystem (t.makeDir path) := by
  refine (t.target_isSystem path).bind fun target => ?_
  split
  · exact error trivial
  dsimp only
  split
  · exact error trivial
  · exact ok _

theorem write_isSystem (path : String) (content : Content) : FailsAsSystem (t.write path content) :=
  (t.fileTarget_isSystem path).bind fun _ => ok _

theorem rename_isSystem (source destination : String) : FailsAsSystem (t.rename source destination) := by
  refine (t.locate_isSystem source).bind fun location => ?_
  split
  · exact (t.fileTarget_isSystem destination).bind fun _ => ok _
  · exact error trivial
  · exact error trivial

end Tree

/-! ## Runs -/

/-- A computation over workspaces that fails with faults of the system only. -/
def RunFailsAsSystem {α : Type} (x : ExceptT Fault (StateM Workspace) α) : Prop :=
  ∀ w, FailsAsSystem (x w).1

namespace RunFailsAsSystem

variable {α β : Type}

theorem pure (a : α) : RunFailsAsSystem (pure a) := fun _ => ok a

theorem throw {fault : Fault} (h : fault.IsSystem) :
    RunFailsAsSystem (throw fault : ExceptT Fault (StateM Workspace) α) := fun _ => error h

theorem bind {x : ExceptT Fault (StateM Workspace) α} {f : α → ExceptT Fault (StateM Workspace) β}
    (first : RunFailsAsSystem x) (second : ∀ a, RunFailsAsSystem (f a)) : RunFailsAsSystem (x >>= f) := by
  intro w
  rw [bind_apply]
  have failed := first w
  rcases hx : x w with ⟨fault | a, w'⟩
  · rw [hx] at failed
    exact error (failed fault rfl)
  · exact second a w'

/-- What is done about a fault of the system fails with one, if at all. -/
theorem tryCatch {x : ExceptT Fault (StateM Workspace) α} {handle : Fault → ExceptT Fault (StateM Workspace) α}
    (first : RunFailsAsSystem x) (second : ∀ fault, fault.IsSystem → RunFailsAsSystem (handle fault)) :
    RunFailsAsSystem (tryCatch x handle) := by
  intro w
  rw [tryCatch_apply]
  have failed := first w
  rcases hx : x w with ⟨fault | a, w'⟩
  · rw [hx] at failed
    exact second fault (failed fault rfl) w'
  · exact ok a

theorem change {step : Tree → Except Fault Tree} (h : ∀ t, FailsAsSystem (step t)) :
    RunFailsAsSystem (Workspace.change step) := by
  intro w
  rw [change_apply]
  have failed := h w.files
  cases hstep : step w.files with
  | ok files => exact ok ()
  | error fault => exact error (failed fault hstep)

end RunFailsAsSystem

theorem makeDirIfMissing_isSystem (path : String) :
    RunFailsAsSystem (makeDirIfMissing (m := StateM Workspace) path) := by
  refine (RunFailsAsSystem.change (·.makeDir_isSystem path)).tryCatch fun fault isSystem w => ?_
  rw [lift_bind]
  split
  · exact ok ()
  · exact error isSystem

theorem makeDirs_isSystem (path : String) : RunFailsAsSystem (makeDirs (m := StateM Workspace) path) := by
  rw [makeDirs]
  induction Path.ancestors path with
  | nil => exact .pure ()
  | cons path above ih =>
    rw [makeDirsWithin]
    refine (makeDirIfMissing_isSystem path).tryCatch fun fault isSystem => ?_
    split
    · exact ih.bind fun _ => makeDirIfMissing_isSystem path
    · exact .throw isSystem

/-- Where a path has a file name, replacing the file fails with faults of the system only. -/
theorem replaceFile_isSystem {path name : String} (named : Path.fileName? path = some name) (text : String) :
    RunFailsAsSystem (replaceFile (m := StateM Workspace) path text) := by
  obtain ⟨dir, parent, -, -⟩ := Tree.place_draftOf (.empty "") named
  have written : RunFailsAsSystem (do
      FileSystem.write (draftOf path) (.text text)
      FileSystem.rename (draftOf path) path : ExceptT Fault (StateM Workspace) Unit) :=
    (RunFailsAsSystem.change (·.write_isSystem _ _)).bind fun _ => .change (·.rename_isSystem _ _)
  intro w
  rw [replaceFile_of_named named parent]
  split
  · exact written w
  · exact (makeDirs_isSystem dir).bind (fun _ => written) w

end Fixtures.Files
