import Fixtures.Proofs.Assembly.Trace

/-!
# Where an assembly fails

An assembly fails exactly if its plan has a step that fails in the state behind the steps before it, and then
with the error of the first such step. `assemble_eq_error_iff` also says what the evaluator has been asked by
then: the calls of the plan up to that step and no other, and the types up to the one that the step is of.
-/

namespace Fixtures.Generation

variable {σ : Type} (ev : Evaluator σ)

/-- A step of a plan that fails, while all those before it succeed. -/
structure FirstFailure (steps : List Step) (s : σ) (before : List Step) (step : Step)
    (e : AssemblyError) : Prop where
  splits : ∃ after, steps = before ++ step :: after
  clean : ∀ earlier other later, before = earlier ++ other :: later →
    other.error? ev (Step.behind ev earlier s) = none
  fails : step.error? ev (Step.behind ev before s) = some e

/-! ## First failures and plays -/

namespace Step

theorem behind_cons (step : Step) (rest : List Step) (s : σ) :
    behind ev (step :: rest) s = behind ev rest (step.play ev s).2 := rfl

theorem behind_concat (steps : List Step) (step : Step) (s : σ) :
    behind ev (steps ++ [step]) s = (step.play ev (behind ev steps s)).2 := by
  rw [behind, List.foldl_append, List.foldl_cons, List.foldl_nil, behind]

/-- A play of steps that all succeed succeeds. -/
theorem playAll_of_clean {steps : List Step} {s : σ}
    (h : ∀ earlier other later, steps = earlier ++ other :: later →
      other.error? ev (behind ev earlier s) = none) :
    playAll ev steps s = (none, behind ev steps s) := by
  induction steps generalizing s with
  | nil => rfl
  | cons step rest ih =>
    have hstep : step.error? ev s = none := h [] step rest rfl
    rcases hp : step.play ev s with ⟨e?, s'⟩
    have hnone : e? = none := by rw [← hstep, error?, hp]
    subst hnone
    rw [playAll, hp, behind_cons, hp]
    refine ih fun earlier other later hsplit => ?_
    have hother := h (step :: earlier) other later (by rw [hsplit, List.cons_append])
    rwa [behind_cons, hp] at hother

end Step

variable {ev}

theorem FirstFailure.playAll {steps before : List Step} {s : σ} {step : Step} {e : AssemblyError}
    (h : FirstFailure ev steps s before step e) :
    Step.playAll ev steps s = (some e, Step.behind ev (before ++ [step]) s) := by
  obtain ⟨after, rfl⟩ := h.splits
  rw [Step.playAll_append_none ev (Step.playAll_of_clean ev h.clean), Step.playAll,
    Step.behind_concat]
  have hfails := h.fails
  rw [Step.error?] at hfails
  rcases hp : step.play ev (Step.behind ev before s) with ⟨e?, s'⟩
  rw [hp] at hfails
  cases hfails
  rfl

theorem firstFailure_of_playAll {steps : List Step} {s s' : σ} {e : AssemblyError}
    (h : Step.playAll ev steps s = (some e, s')) :
    ∃ before step, FirstFailure ev steps s before step e := by
  obtain ⟨before, step, after, hsplit, hbefore, hstep⟩ := Step.playAll_eq_some ev h
  refine ⟨before, step, ⟨after, hsplit⟩, fun earlier other later => Step.error?_of_playAll ev hbefore,
    ?_⟩
  rw [Step.error?, hstep]

/-- A trace does not move the first failure. -/
theorem FirstFailure.traced {steps before : List Step} {s : σ} {step : Step} {e : AssemblyError}
    (h : FirstFailure ev steps s before step e) (t : Trace) :
    FirstFailure ev.traced steps (s, t) before step e := by
  have hstate : ∀ (l : List Step) (other : Step),
      other.error? ev.traced (Step.behind ev.traced l (s, t)) =
        other.error? ev (Step.behind ev l s) := by
    intro l other
    rw [← (Step.behind_traced ev l s t).1]
    exact Step.error?_traced ev other _ _
  refine ⟨h.splits, fun earlier other later hsplit => ?_, ?_⟩
  · rw [hstate]
    exact h.clean earlier other later hsplit
  · rw [hstate]
    exact h.fails

/-! ## The type of a step -/

/-- A place in lists one behind the other is a place in one of them. -/
theorem flatMap_eq_append_cons {α β : Type} {f : α → List β} {xs : List α} {before after : List β}
    {b : β} (h : xs.flatMap f = before ++ b :: after) :
    ∃ earlier x later front back, xs = earlier ++ x :: later ∧ f x = front ++ b :: back ∧
      before = earlier.flatMap f ++ front := by
  induction xs generalizing before with
  | nil => simp at h
  | cons x rest ih =>
    rw [List.flatMap_cons] at h
    rcases List.append_eq_append_iff.1 h with ⟨more, hbefore, hrest⟩ | ⟨more, hx, hrest⟩
    · obtain ⟨earlier, y, later, front, back, hsplit, hy, hmore⟩ := ih hrest
      refine ⟨x :: earlier, y, later, front, back, by rw [hsplit, List.cons_append], hy, ?_⟩
      rw [hbefore, hmore, List.flatMap_cons, List.append_assoc]
    · cases more with
      | nil =>
        have hfirst : rest.flatMap f = [] ++ b :: after := hrest.symm
        obtain ⟨earlier, y, later, front, back, hsplit, hy, hmore⟩ := ih hfirst
        refine ⟨x :: earlier, y, later, front, back, by rw [hsplit, List.cons_append], hy, ?_⟩
        rw [List.append_nil] at hx
        rw [List.flatMap_cons, List.append_assoc, ← hmore, List.append_nil, hx]
      | cons c more =>
        cases hrest
        exact ⟨[], x, rest, before, more, rfl, hx, rfl⟩

/-- Only the first step for a type visits one. -/
theorem visited?_fields (count : Nat) (typeName : String) (fields : List Field) :
    ∀ step ∈ fields.flatMap (fieldPlan count typeName), step.visited? = none := by
  intro step hstep
  obtain ⟨field, -, hmem⟩ := List.mem_flatMap.1 hstep
  unfold fieldPlan at hmem
  split at hmem
  · cases hmem
  · obtain ⟨index, -, rfl⟩ := List.mem_map.1 hmem
    rfl
  · rw [List.mem_singleton.1 hmem]
    rfl

theorem visited_visit (type : ObjectType) (steps : List Step) :
    (.visit type :: steps).filterMap Step.visited? = type :: steps.filterMap Step.visited? := rfl

/-- A type is visited by the first of its steps. -/
theorem visited_typePlan_prefix {count : Nat} {type : ObjectType} {front back : List Step}
    {step : Step} (h : typePlan count type = front ++ step :: back) :
    (front ++ [step]).filterMap Step.visited? = [type] := by
  have hnone : ∀ l : List Step, (∀ step ∈ l, step ∈ type.fields.flatMap (fieldPlan count type.name)) →
      l.filterMap Step.visited? = [] := fun l hl => List.filterMap_eq_nil_iff.2 fun step hstep =>
    visited?_fields count type.name type.fields step (hl step hstep)
  cases front with
  | nil =>
    cases h
    rfl
  | cons first front =>
    rw [typePlan, List.cons_append, List.cons.injEq] at h
    obtain ⟨rfl, hfields⟩ := h
    rw [List.cons_append, visited_visit, hnone]
    intro other hother
    rw [hfields]
    exact List.mem_append.2 ((List.mem_append.1 hother).imp_right fun hmem => by
      rw [List.mem_singleton.1 hmem]
      exact List.mem_cons_self)

theorem visited_plan (count : Nat) (types : List ObjectType) :
    (types.flatMap (typePlan count)).filterMap Step.visited? = types := by
  induction types with
  | nil => rfl
  | cons type rest ih =>
    have hfields : (type.fields.flatMap (fieldPlan count type.name)).filterMap Step.visited? = [] :=
      List.filterMap_eq_nil_iff.2 (visited?_fields count type.name type.fields)
    rw [List.flatMap_cons, List.filterMap_append, ih, typePlan, visited_visit, hfields,
      List.singleton_append]

/-! ## The failure of an assembly -/

theorem eq_error_of_failure? {α : Type} {r : Except AssemblyError α} {e : AssemblyError}
    (h : failure? r = some e) : r = .error e := by
  cases r with
  | ok a => cases h
  | error e' =>
    cases h
    rfl

variable (ev)

/-- The error of an assembly is that of the first step of its plan that fails. -/
theorem eq_error_iff_firstFailure (count : Nat) (schema : Schema) (s : σ) (e : AssemblyError) :
    (assemble ev count schema s).1 = .error e ↔
      ∃ before step, FirstFailure ev (plan count schema) s before step e := by
  have hplay := assemble_play ev count schema s
  constructor
  · intro h
    rw [Follows, h] at hplay
    exact firstFailure_of_playAll hplay.symm
  · rintro ⟨before, step, hfail⟩
    rw [Follows, hfail.playAll] at hplay
    exact eq_error_of_failure? (congrArg Prod.fst hplay)

variable {ev}

/-- What an evaluator was asked and told before an assembly failed. -/
theorem FirstFailure.trace {count : Nat} {schema : Schema} {s : σ} {before : List Step} {step : Step}
    {e : AssemblyError} (hfail : FirstFailure ev (plan count schema) s before step e) :
    ∃ earlier type later, schema.types = earlier ++ type :: later ∧
      earlier.flatMap (typePlan count) <+: before ∧
      before ++ [step] <+: (earlier ++ [type]).flatMap (typePlan count) ∧
      (assemble ev.traced count schema (s, {})).1 = .error e ∧
      (assemble ev.traced count schema (s, {})).2.2.visited = earlier ++ [type] ∧
      (assemble ev.traced count schema (s, {})).2.2.calls.map (·.expression) =
        (before ++ [step]).filterMap Step.expression? := by
  obtain ⟨after, hsplit⟩ := hfail.splits
  obtain ⟨earlier, type, later, front, back, htypes, htype, hbefore⟩ := flatMap_eq_append_cons hsplit
  have htrace := assemble_play ev.traced count schema (s, {})
  rw [Follows, (hfail.traced {}).playAll] at htrace
  obtain ⟨-, hvisited, hcalls⟩ := Step.behind_traced ev (before ++ [step]) s {}
  have hstate : (assemble ev.traced count schema (s, {})).2 =
      Step.behind ev.traced (before ++ [step]) (s, {}) := congrArg Prod.snd htrace
  rw [← hstate] at hvisited hcalls
  refine ⟨earlier, type, later, htypes, ⟨front, hbefore.symm⟩, ⟨back, ?_⟩,
    eq_error_of_failure? (congrArg Prod.fst htrace), ?_, hcalls⟩
  · rw [hbefore, List.flatMap_append, List.flatMap_singleton, htype]
    simp
  · refine hvisited.trans ?_
    rw [List.nil_append, hbefore, List.append_assoc, List.filterMap_append, visited_plan,
      visited_typePlan_prefix htype]

variable (ev)

/-- An assembly fails if and only if its plan has a step that fails in the state behind those before it. The
error is that of the first such step; the evaluator was asked for the expressions of the plan up to this
step, and told of the types up to its type. -/
theorem assemble_eq_error_iff (count : Nat) (schema : Schema) (s : σ) :
    ((∃ e, (assemble ev count schema s).1 = .error e) ↔
      ∃ before step after, plan count schema = before ++ step :: after ∧
        (step.error? ev (Step.behind ev before s)).isSome) ∧
    ∀ e, (assemble ev count schema s).1 = .error e ↔
      ∃ before step earlier type later, FirstFailure ev (plan count schema) s before step e ∧
        schema.types = earlier ++ type :: later ∧
        earlier.flatMap (typePlan count) <+: before ∧
        before ++ [step] <+: (earlier ++ [type]).flatMap (typePlan count) ∧
        (assemble ev.traced count schema (s, {})).1 = .error e ∧
        (assemble ev.traced count schema (s, {})).2.2.visited = earlier ++ [type] ∧
        (assemble ev.traced count schema (s, {})).2.2.calls.map (·.expression) =
          (before ++ [step]).filterMap Step.expression? := by
  refine ⟨⟨?_, ?_⟩, fun e => ⟨fun h => ?_, ?_⟩⟩
  · rintro ⟨e, h⟩
    obtain ⟨before, step, hfail⟩ := (eq_error_iff_firstFailure ev count schema s e).1 h
    obtain ⟨after, hsplit⟩ := hfail.splits
    exact ⟨before, step, after, hsplit, by rw [hfail.fails]; rfl⟩
  · rintro ⟨before, step, after, hsplit, hfails⟩
    have hplay := assemble_play ev count schema s
    rcases hrun : assemble ev count schema s with ⟨e | sets, s'⟩
    · exact ⟨e, rfl⟩
    -- Had the assembly succeeded, no step of its plan would have failed.
    · rw [Follows, hrun] at hplay
      rw [Step.error?_of_playAll ev hplay.symm hsplit] at hfails
      cases hfails
  · obtain ⟨before, step, hfail⟩ := (eq_error_iff_firstFailure ev count schema s e).1 h
    obtain ⟨earlier, type, later, traced⟩ := hfail.trace
    exact ⟨before, step, earlier, type, later, hfail, traced⟩
  · rintro ⟨before, step, earlier, type, later, hfail, -⟩
    exact (eq_error_iff_firstFailure ev count schema s e).2 ⟨before, step, hfail⟩

end Fixtures.Generation
