import Fixtures.Proofs.Runs
import Fixtures.Script.Call

/-!
# Calls of a topic

A call of a topic runs the draw of the topic on the generator of the machine and changes nothing else
(`plain_topic`). So a call that is refused before anything is drawn changes nothing at all.
-/

namespace Fixtures.Script

open Fixtures.Random (Draw Generator)
open Runs (bind_apply)

/-- The machine with another place in the random stream. -/
abbrev Machine.withGenerator (m : Machine) (generator : Generator) : Machine := { m with generator }

/-- What a call of a topic comes to, given what its draw comes to. -/
def drawnReply (place : Place) (m : Machine) : Except Cause Value × Generator → Except Signal Reply × Machine
  | (.ok value, generator) => (.ok { value := value }, m.withGenerator generator)
  | (.error cause, generator) => (.error (.fault (Fault.of cause place)), m.withGenerator generator)

/-- A call of a topic draws from the generator of the machine, and nothing else changes. -/
theorem plain_topic {topic : Topic} {name : String} {args : List Value} {m : Machine}
    {draw : Draw (Except Cause Value)} (plain : name ∉ ["print", "debug", "exit"])
    (called : Binding.call? m.now topic name args = some draw) (place : Place) :
    Call.plain name (.topic topic :: args) place m = drawnReply place m (draw m.generator) := by
  simp only [List.mem_cons, List.not_mem_nil, or_false, not_or] at plain
  obtain ⟨notPrint, notDebug, notExit⟩ := plain
  have got : (get : Run Machine) m = (.ok m, m) := rfl
  have ran : Run.draw draw m = (.ok (draw m.generator).1, m.withGenerator (draw m.generator).2) := rfl
  rw [Call.plain]
  · rw [bind_apply, got]
    dsimp only
    rw [called, pure_bind]
    dsimp only
    rw [bind_apply, ran]
    rcases draw m.generator with ⟨cause | value, generator⟩ <;> rfl
  all_goals simp_all

/-- A call that is refused draws nothing. -/
theorem drawnReply_refused (text : String) (place : Place) (m : Machine) :
    drawnReply place m (Binding.refused text m.generator) =
      (.error (.fault (Fault.of (Binding.complain text) place)), m) := rfl

end Fixtures.Script
