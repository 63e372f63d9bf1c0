import Fixtures.Fake.Date
import Fixtures.Host.Basic
import Fixtures.Log.Filter

/-!
# Journals

A journal takes the events that its filter admits and adds them to a log file, if there is one.
-/

namespace Fixtures.Log

/-- Where events go. -/
structure Journal where
  filter : Filter
  file : Option String

namespace Journal

/-- A journal without a file. -/
def silent : Journal := ⟨[], none⟩

variable {m : Type → Type} [Monad m] [Host m]

/-- Opens a journal; its file is made if it is missing. -/
def start (filter : Filter) (file : Option String) : ExceptT Files.Fault m Journal := do
  match file with
  | some path => Files.FileSystem.append path ""
  | none => pure ()
  pure ⟨filter, file⟩

/-- Takes an event. An event that can not be written is lost. -/
def record (j : Journal) (e : Event) : m Unit := do
  match j.file with
  | none => pure ()
  | some path =>
    if j.filter.admits e then
      let time := Fake.Date.write (← Host.now)
      discard (Files.FileSystem.append path (e.line time) : ExceptT Files.Fault m Unit).run
    else pure ()

end Journal

end Fixtures.Log
