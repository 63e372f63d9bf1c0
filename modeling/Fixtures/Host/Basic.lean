import Fixtures.Files.System

/-!
# Hosts

What a program asks of its surroundings: files, the time, a seed for a random stream, and a console to write
on. `Workspace` is a host that is a value, for reasoning and for trying things out.
-/

namespace Fixtures

/-- The surroundings of a program. -/
class Host (m : Type → Type) extends Files.FileSystem m where
  /-- The time, in milliseconds since the first of January 1970. -/
  now : m Int
  /-- A seed that nobody chose. -/
  drawSeed : m UInt64
  /-- Writes a text on the console. -/
  print : String → m Unit

namespace Host

/-- Carries out an operation of another host under a state of its own. -/
def lifted {σ α : Type} {m : Type → Type} [Monad m] (act : ExceptT Files.Fault m α) :
    ExceptT Files.Fault (StateT σ m) α :=
  ExceptT.mk (StateT.lift act.run)

/-- A state beside a host leaves the host as it is. -/
instance {σ : Type} {m : Type → Type} [Monad m] [Host m] : Host (StateT σ m) where
  kind? path := StateT.lift (Files.FileSystem.kind? path)
  read path := lifted (Files.FileSystem.read path)
  list path := lifted (Files.FileSystem.list path)
  makeDir path := lifted (Files.FileSystem.makeDir path)
  write path content := lifted (Files.FileSystem.write path content)
  append path text := lifted (Files.FileSystem.append path text)
  rename source destination := lifted (Files.FileSystem.rename source destination)
  now := StateT.lift Host.now
  drawSeed := StateT.lift Host.drawSeed
  print text := StateT.lift (Host.print text)

end Host

end Fixtures
