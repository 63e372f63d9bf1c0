import Fixtures.Files.Tree
import Fixtures.Host.Basic

/-!
# Workspaces

A workspace is a host that is a value: a tree of files, a time that stands still, the seed that will be
drawn, and what was written on the console. An operation that fails leaves it as it is.
-/

namespace Fixtures

/-- A host as a value. -/
structure Workspace where
  files : Files.Tree
  clock : Int
  seed : UInt64
  console : String

namespace Workspace

/-- A workspace with an empty current directory. -/
def empty (clock : Int) (seed : UInt64) : Workspace := ⟨.empty "workspace", clock, seed, ""⟩

/-- Looks something up in the files. -/
def ask {α : Type} (question : Files.Tree → Except Files.Fault α) :
    ExceptT Files.Fault (StateM Workspace) α :=
  ExceptT.mk fun w => (question w.files, w)

/-- Changes the files. -/
def change (step : Files.Tree → Except Files.Fault Files.Tree) :
    ExceptT Files.Fault (StateM Workspace) Unit :=
  ExceptT.mk fun w =>
    match step w.files with
    | .ok files => (.ok (), { w with files })
    | .error fault => (.error fault, w)

instance : Host (StateM Workspace) where
  kind? path := fun w => ((w.files.find path).toOption.map Files.Entry.kind, w)
  read path := ask (·.read path)
  list path := ask (·.list path)
  makeDir path := change (·.makeDir path)
  write path content := change (·.write path content)
  append path text := change (·.append path text)
  rename source destination := change (·.rename source destination)
  now := fun w => (w.clock, w)
  drawSeed := fun w => (w.seed, w)
  print text := fun w => ((), { w with console := w.console ++ text })

end Workspace

end Fixtures
