import Fixtures.Proofs.Runs

/-!
# Texts of files that are there

Asking for a file and reading its text change nothing, and give what the tree of the workspace holds.
-/

namespace Fixtures.Files

open Runs

variable {path text : String} {w : Workspace}

/-- Whether there is something at a path of a workspace. -/
theorem isPresent_apply (path : String) (w : Workspace) :
    (isPresent path : StateM Workspace Bool) w = ((w.files.find path).toOption.isSome, w) := by
  show (((w.files.find path).toOption.map Entry.kind).isSome, w) = _
  rw [Option.isSome_map]

/-- What is read is there. -/
theorem isSome_find_of_read {content : Content} (there : w.files.read path = .ok content) :
    (w.files.find path).toOption.isSome = true := by
  obtain ⟨entry, found, -⟩ := except_bind_eq_ok.mp there
  rw [found]
  rfl

/-- The text of a file that is there. -/
theorem readText_there (there : w.files.read path = .ok (.text text)) :
    (readText path : ExceptT Fault (StateM Workspace) String) w = (.ok text, w) := by
  have content : (FileSystem.read path : ExceptT Fault (StateM Workspace) Content) w = (.ok (.text text), w) :=
    congrArg (·, w) there
  rw [readText, bind_apply, content]
  rfl

end Fixtures.Files
