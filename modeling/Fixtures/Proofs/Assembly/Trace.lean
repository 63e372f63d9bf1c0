import Fixtures.Proofs.Assembly.Plan

/-!
# Traces of evaluators

Any evaluator can be made to write down what it is asked: `Evaluator.traced` keeps a `Trace` beside the state
of the evaluator. `assemble_traced` says that nobody notices, and `behind_traced` that the trace behind some
steps has the types and the expressions of these steps in order.
-/

namespace Fixtures.Generation

/-- A call of an evaluator, with the answer. -/
structure Call where
  expression : String
  answer : Except EvaluationError Json

/-- The types that an evaluator was told of and the calls that it answered, each in order. -/
structure Trace where
  visited : List ObjectType := []
  calls : List Call := []

variable {σ : Type}

/-- The evaluator that also keeps a trace. -/
def Evaluator.traced (ev : Evaluator σ) : Evaluator (σ × Trace) where
  begin type := fun (s, t) => ((), (ev.begin type s).2, { t with visited := t.visited ++ [type] })
  evaluate expression := fun (s, t) =>
    let (answer, s') := ev.evaluate expression s
    (answer, s', { t with calls := t.calls ++ [⟨expression, answer⟩] })

theorem traced_evaluate (ev : Evaluator σ) (expression : String) (s : σ) (t : Trace) :
    ev.traced.evaluate expression (s, t) = ((ev.evaluate expression s).1, (ev.evaluate expression s).2,
      { t with calls := t.calls ++ [⟨expression, (ev.evaluate expression s).1⟩] }) := rfl

/-! ## A trace is not noticed -/

/-- Two computations of which the second also keeps a trace. -/
def Mirrors {α : Type} (x : Assemble σ α) (y : Assemble (σ × Trace) α) : Prop :=
  ∀ s t, ((y (s, t)).1, (y (s, t)).2.1) = x s

theorem Mirrors.bind {α β : Type} {x : Assemble σ α} {y : Assemble (σ × Trace) α}
    {f : α → Assemble σ β} {g : α → Assemble (σ × Trace) β} (h : Mirrors x y)
    (hf : ∀ a, Mirrors (f a) (g a)) : Mirrors (x >>= f) (y >>= g) := by
  intro s t
  rw [Runs.bind_apply, Runs.bind_apply, ← h s t]
  rcases y (s, t) with ⟨e | a, s', t'⟩
  · rfl
  · exact hf a s' t'

theorem Mirrors.map {α β : Type} {x : Assemble σ α} {y : Assemble (σ × Trace) α} (h : Mirrors x y)
    (f : α → β) : Mirrors (x >>= fun a => pure (f a)) (y >>= fun a => pure (f a)) :=
  h.bind fun _ _ _ => rfl

/-- What succeeds without a trace succeeds with one. -/
theorem Mirrors.ok {α : Type} {x : Assemble σ α} {y : Assemble (σ × Trace) α} (h : Mirrors x y) {s s' : σ} {a : α}
    (succeeds : x s = (.ok a, s')) (t : Trace) : ∃ t', y (s, t) = (.ok a, s', t') := by
  have seen := h s t
  rw [succeeds] at seen
  rcases hy : y (s, t) with ⟨result, s₁, t'⟩
  rw [hy] at seen
  cases seen
  exact ⟨t', rfl⟩

variable (ev : Evaluator σ)

theorem fillField_traced (typeName field expression : String) (index : Nat)
    (documents : List Document) :
    Mirrors (fillField ev typeName field expression index documents)
      (fillField ev.traced typeName field expression index documents) := by
  induction documents generalizing index with
  | nil => exact fun _ _ => rfl
  | cons document rest ih =>
    intro s t
    rw [fillField, fillField, Runs.lift_bind, Runs.lift_bind, traced_evaluate]
    rcases ev.evaluate expression s with ⟨source | value, s'⟩
    · rfl
    · exact (ih (index + 1)).map _ s' _

theorem addField_traced (set : DocumentSet) (field : Field) :
    Mirrors (addField ev set field) (addField ev.traced set field) := by
  unfold addField
  rcases resolve set.typeName field with e | _ | expression
  · exact fun _ _ => rfl
  · exact fun _ _ => rfl
  · exact (fillField_traced ev set.typeName field.name expression 0 set.documents).map _

theorem addFields_traced (fields : List Field) (set : DocumentSet) :
    Mirrors (fields.foldlM (addField ev) set) (fields.foldlM (addField ev.traced) set) := by
  induction fields generalizing set with
  | nil => exact fun _ _ => rfl
  | cons field rest ih =>
    rw [List.foldlM_cons, List.foldlM_cons]
    exact (addField_traced ev set field).bind ih

theorem assembleType_traced (count : Nat) (type : ObjectType) :
    Mirrors (assembleType ev count type) (assembleType ev.traced count type) := by
  unfold assembleType
  split
  · exact fun _ _ => rfl
  · exact (addFields_traced ev type.fields _).map some

/-- An assembly with a trace gives what it gives without one. -/
theorem assemble_traced (count : Nat) (schema : Schema) :
    Mirrors (assemble ev count schema) (assemble ev.traced count schema) := by
  show Mirrors (assembleTypes ev count schema.types) (assembleTypes ev.traced count schema.types)
  induction schema.types with
  | nil => exact fun _ _ => rfl
  | cons type rest ih =>
    intro s t
    rw [assembleTypes, assembleTypes, Runs.lift_bind, Runs.lift_bind]
    exact ((assembleType_traced ev count type).bind fun set? => ih.map (set?.toList ++ ·)) _ _

/-! ## Steps and their traces -/

namespace Step

/-- A step fails alike with and without a trace. -/
theorem error?_traced (step : Step) (s : σ) (t : Trace) :
    step.error? ev.traced (s, t) = step.error? ev s := by
  cases step with
  | visit type => rfl
  | fault typeName field what => rfl
  | call typeName field index expression =>
    simp only [error?, play, traced_evaluate]
    rcases ev.evaluate expression s with ⟨source | value, s'⟩ <;> rfl

/-- The trace behind a step. -/
theorem play_traced (step : Step) (s : σ) (t : Trace) :
    (step.play ev.traced (s, t)).2.1 = (step.play ev s).2 ∧
      (step.play ev.traced (s, t)).2.2.visited = t.visited ++ step.visited?.toList ∧
      (step.play ev.traced (s, t)).2.2.calls.map (·.expression) =
        t.calls.map (·.expression) ++ step.expression?.toList := by
  cases step with
  | visit type => exact ⟨rfl, rfl, (List.append_nil _).symm⟩
  | fault typeName field what => exact ⟨rfl, (List.append_nil _).symm, (List.append_nil _).symm⟩
  | call typeName field index expression =>
    simp only [play, traced_evaluate]
    rcases ev.evaluate expression s with ⟨source | value, s'⟩ <;>
      exact ⟨rfl, (List.append_nil _).symm, List.map_append⟩

/-- The trace behind some steps. -/
theorem behind_traced (steps : List Step) (s : σ) (t : Trace) :
    (behind ev.traced steps (s, t)).1 = behind ev steps s ∧
      (behind ev.traced steps (s, t)).2.visited = t.visited ++ steps.filterMap visited? ∧
      (behind ev.traced steps (s, t)).2.calls.map (·.expression) =
        t.calls.map (·.expression) ++ steps.filterMap expression? := by
  induction steps generalizing s t with
  | nil => exact ⟨rfl, (List.append_nil _).symm, (List.append_nil _).symm⟩
  | cons step rest ih =>
    obtain ⟨hstate, hvisited, hcalls⟩ := play_traced ev step s t
    rcases hp : (step.play ev.traced (s, t)).2 with ⟨s', t'⟩
    rw [hp] at hstate hvisited hcalls
    obtain ⟨ihState, ihVisited, ihCalls⟩ := ih s' t'
    have hcons : behind ev.traced (step :: rest) (s, t) = behind ev.traced rest (s', t') := by
      rw [behind, List.foldl_cons, hp, behind]
    rw [hcons]
    refine ⟨?_, ?_, ?_⟩
    · rw [ihState, behind, behind, List.foldl_cons, ← hstate]
    · rw [ihVisited, hvisited, List.append_assoc]
      cases hv : step.visited? <;> simp [hv]
    · rw [ihCalls, hcalls, List.append_assoc]
      cases hv : step.expression? <;> simp [hv]

end Step

end Fixtures.Generation
