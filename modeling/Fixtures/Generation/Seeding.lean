import Fixtures.Generation.Report
import Fixtures.Script.Session

/-!
# Seeded generation

Each type has a random stream of its own, whose seed is mixed from the seed of the run and the name of
the type. So the documents of a type do not depend on the types beside it.
-/

namespace Fixtures.Generation

open Script (Session)

/-- The evaluator of a run with a seed. -/
def evaluatorOf (now : Int) (seed : UInt64) : Evaluator Session :=
  Session.evaluator now fun type => Random.mixSeed seed type.name

/-- Assembles the types of a schema from a seed; what the scripts printed is kept. -/
def assembleSeeded (now : Int) (seed : UInt64) (count : Count) (schema : Schema) :
    Except AssemblyError (List DocumentSet) × Session :=
  assemble (evaluatorOf now seed) count.val schema (Session.ofSeed seed)

end Fixtures.Generation
