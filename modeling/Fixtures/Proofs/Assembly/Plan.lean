import Fixtures.Generation.Assembly
import Fixtures.Proofs.Runs

/-!
# The plan of an assembly

What an assembly does can be laid out before it begins: `plan` lists the steps in source order, one for each
type that is visited, one for each faulty directive and one for each evaluation. Playing the plan with an
evaluator, step by step up to the first failure, gives the error and the state of the assembly itself.

## Shape of the simulation

`playAll_append` cuts a play in two. From it `assembleTypes_play` follows along the recursions of the
assembly: documents (`fillField_play`), fields (`addFields_play`), types.
-/

namespace Fixtures.Generation

/-- A step of an assembly. -/
inductive Step where
  | visit (type : ObjectType)
  | fault (typeName field : String) (what : DirectiveFault)
  | call (typeName field : String) (index : Nat) (expression : String)

namespace Step

/-- The expression that a step evaluates. -/
def expression? : Step → Option String
  | call _ _ _ expression => some expression
  | _ => none

/-- The type that a step visits. -/
def visited? : Step → Option ObjectType
  | visit type => some type
  | _ => none

variable {σ : Type}

/-- What a step does: the error that it fails with, if it fails, and the state behind it. -/
def play (ev : Evaluator σ) : Step → σ → Option AssemblyError × σ
  | visit type, s => (none, (ev.begin type s).2)
  | fault typeName field what, s => (some (.directive ⟨typeName, field, what⟩), s)
  | call typeName field index expression, s =>
    match ev.evaluate expression s with
    | (.ok _, s') => (none, s')
    | (.error source, s') => (some (.evaluation typeName field index source), s')

/-- The error that a step fails with in a state. -/
def error? (ev : Evaluator σ) (step : Step) (s : σ) : Option AssemblyError := (step.play ev s).1

/-- The state behind some steps, whatever came of them. -/
def behind (ev : Evaluator σ) (steps : List Step) (s : σ) : σ :=
  steps.foldl (fun s step => (step.play ev s).2) s

/-- Plays steps up to the first that fails. -/
def playAll (ev : Evaluator σ) : List Step → σ → Option AssemblyError × σ
  | [], s => (none, s)
  | step :: rest, s =>
    match step.play ev s with
    | (none, s') => playAll ev rest s'
    | (some e, s') => (some e, s')

end Step

/-! ## The plan -/

/-- The steps for a field: none without the directive, else a fault or one call for each document. -/
def fieldPlan (count : Nat) (typeName : String) (field : Field) : List Step :=
  match resolve typeName field with
  | .ok none => []
  | .ok (some expression) =>
    (List.range count).map fun index => .call typeName field.name index expression
  | .error e => [.fault typeName field.name e.fault]

/-- The steps for a type: it is visited, and then come its fields in order. -/
def typePlan (count : Nat) (type : ObjectType) : List Step :=
  .visit type :: type.fields.flatMap (fieldPlan count type.name)

/-- The steps for a schema. -/
def plan (count : Nat) (schema : Schema) : List Step := schema.types.flatMap (typePlan count)

/-! ## Plays in parts -/

namespace Step

variable {σ : Type} (ev : Evaluator σ)

theorem playAll_append (steps more : List Step) (s : σ) :
    playAll ev (steps ++ more) s = match playAll ev steps s with
      | (none, s') => playAll ev more s'
      | (some e, s') => (some e, s') := by
  induction steps generalizing s with
  | nil => rfl
  | cons step rest ih =>
    rw [List.cons_append, playAll, playAll]
    rcases step.play ev s with ⟨_ | e, s'⟩
    · exact ih s'
    · rfl

theorem playAll_append_none {steps : List Step} {s s' : σ} (h : playAll ev steps s = (none, s'))
    (more : List Step) : playAll ev (steps ++ more) s = playAll ev more s' := by
  rw [playAll_append, h]

theorem playAll_append_some {steps : List Step} {s s' : σ} {e : AssemblyError}
    (h : playAll ev steps s = (some e, s')) (more : List Step) :
    playAll ev (steps ++ more) s = (some e, s') := by
  rw [playAll_append, h]

/-- A play that fails does so at a step whose predecessors all succeed. -/
theorem playAll_eq_some {steps : List Step} {s s' : σ} {e : AssemblyError}
    (h : playAll ev steps s = (some e, s')) :
    ∃ before step after, steps = before ++ step :: after ∧
      playAll ev before s = (none, behind ev before s) ∧
      step.play ev (behind ev before s) = (some e, s') := by
  induction steps generalizing s with
  | nil => cases h
  | cons first rest ih =>
    rw [playAll] at h
    rcases hp : first.play ev s with ⟨_ | e', s₁⟩
    · rw [hp] at h
      obtain ⟨before, step, after, hsplit, hbefore, hstep⟩ := ih h
      have hs₁ : behind ev (first :: before) s = behind ev before s₁ := by
        rw [behind, List.foldl_cons, hp, behind]
      refine ⟨first :: before, step, after, by rw [hsplit, List.cons_append], ?_, ?_⟩
      · rw [playAll, hp, hs₁]
        exact hbefore
      · rw [hs₁]
        exact hstep
    · rw [hp] at h
      cases h
      exact ⟨[], first, rest, rfl, rfl, hp⟩

/-- A play that succeeds ends behind all its steps. -/
theorem playAll_eq_none {steps : List Step} {s s' : σ} (h : playAll ev steps s = (none, s')) :
    s' = behind ev steps s := by
  induction steps generalizing s with
  | nil =>
    cases h
    rfl
  | cons first rest ih =>
    rw [playAll] at h
    rcases hp : first.play ev s with ⟨_ | e', s₁⟩
    · rw [hp] at h
      rw [ih h, behind, behind, List.foldl_cons, hp]
    · rw [hp] at h
      cases h

/-- No step of a play that succeeds fails, in the state that those before it lead to. -/
theorem error?_of_playAll {steps before after : List Step} {step : Step} {s s' : σ}
    (h : playAll ev steps s = (none, s')) (hsplit : steps = before ++ step :: after) :
    step.error? ev (behind ev before s) = none := by
  subst hsplit
  rw [playAll_append] at h
  rcases hb : playAll ev before s with ⟨_ | e, s₁⟩
  · rw [hb] at h
    rw [← playAll_eq_none ev hb, error?]
    rcases hp : step.play ev s₁ with ⟨_ | e, s₂⟩
    · rfl
    · simp only [playAll, hp] at h
      cases h
  · rw [hb] at h
    cases h

end Step

/-! ## The assembly plays its plan -/

/-- The error that a result is. -/
def failure? {α : Type} : Except AssemblyError α → Option AssemblyError
  | .ok _ => none
  | .error e => some e

/-- A fault of a directive names the type and the field. -/
theorem resolve_error {typeName : String} {field : Field} {e : DirectiveError}
    (h : resolve typeName field = .error e) : e = ⟨typeName, field.name, e.fault⟩ := by
  unfold resolve at h
  split at h
  · cases h
  · split at h
    · cases h
    · cases h
      rfl
  · cases h
    rfl

variable {σ : Type} (ev : Evaluator σ)

/-- An assembly fails as a play does, and ends in the same state. -/
def Follows {α : Type} (run : Except AssemblyError α × σ) (play : Option AssemblyError × σ) : Prop :=
  (failure? run.1, run.2) = play

theorem follows_bind {α β : Type} {x : Assemble σ α} {f : α → Assemble σ β} {s : σ}
    {first second : List Step} (hx : Follows (x s) (Step.playAll ev first s))
    (hf : ∀ a s', x s = (.ok a, s') → Follows (f a s') (Step.playAll ev second s')) :
    Follows ((x >>= f) s) (Step.playAll ev (first ++ second) s) := by
  rw [Runs.bind_apply]
  rcases h : x s with ⟨e | a, s'⟩
  · rw [h] at hx
    rw [Step.playAll_append_some ev hx.symm]
    rfl
  · rw [h] at hx
    rw [Step.playAll_append_none ev hx.symm]
    exact hf a s' h

/-- A value built from that of a part adds no step. -/
theorem follows_map {α β : Type} {x : Assemble σ α} {s : σ} {steps : List Step} (g : α → β)
    (hx : Follows (x s) (Step.playAll ev steps s)) :
    Follows ((x >>= fun a => pure (g a)) s) (Step.playAll ev steps s) := by
  have h : Follows ((x >>= fun a => pure (g a)) s) (Step.playAll ev (steps ++ []) s) :=
    follows_bind ev hx fun _ _ _ => rfl
  rwa [List.append_nil] at h

theorem fillField_play (typeName field expression : String) (index : Nat) (documents : List Document)
    (s : σ) : Follows (fillField ev typeName field expression index documents s)
      (Step.playAll ev ((List.range' index documents.length).map fun i =>
        .call typeName field i expression) s) := by
  induction documents generalizing index s with
  | nil => rfl
  | cons document rest ih =>
    rw [fillField, List.length_cons, List.range'_succ, List.map_cons, Runs.lift_bind, Step.playAll,
      Step.play]
    rcases ev.evaluate expression s with ⟨source | value, s'⟩
    · rfl
    · exact follows_map ev (Json.setMember document field value :: ·) (ih (index + 1) s')

theorem length_fillField {typeName field expression : String} {index : Nat}
    {documents filled : List Document} {s s' : σ}
    (h : fillField ev typeName field expression index documents s = (.ok filled, s')) :
    filled.length = documents.length := by
  induction documents generalizing index filled s with
  | nil =>
    cases h
    rfl
  | cons document rest ih =>
    rw [fillField, Runs.lift_bind] at h
    rcases hev : ev.evaluate expression s with ⟨source | value, s₁⟩
    · rw [hev] at h
      cases h
    · rw [hev] at h
      obtain ⟨more, s₂, hmore, hpure⟩ := Runs.bind_eq_ok h
      cases hpure
      rw [List.length_cons, List.length_cons, ih hmore]

theorem addField_play (set : DocumentSet) (field : Field) (s : σ) :
    Follows (addField ev set field s)
      (Step.playAll ev (fieldPlan set.documents.length set.typeName field) s) := by
  unfold addField fieldPlan
  rcases h : resolve set.typeName field with e | _ | expression
  · rw [resolve_error h]
    rfl
  · rfl
  · have hfill := fillField_play ev set.typeName field.name expression 0 set.documents s
    rw [← List.range_eq_range'] at hfill
    exact follows_map ev _ hfill

/-- Adding a field changes neither the type of a set nor the number of its documents. -/
theorem addField_keeps {set next : DocumentSet} {field : Field} {s s' : σ}
    (h : addField ev set field s = (.ok next, s')) :
    next.typeName = set.typeName ∧ next.documents.length = set.documents.length := by
  unfold addField at h
  rcases hr : resolve set.typeName field with e | _ | expression
  · rw [hr] at h
    cases h
  · rw [hr] at h
    cases h
    exact ⟨rfl, rfl⟩
  · rw [hr] at h
    obtain ⟨documents, s₁, hfill, hpure⟩ := Runs.bind_eq_ok h
    cases hpure
    exact ⟨rfl, length_fillField ev hfill⟩

theorem addFields_play (fields : List Field) (set : DocumentSet) (s : σ) :
    Follows (fields.foldlM (addField ev) set s)
      (Step.playAll ev (fields.flatMap (fieldPlan set.documents.length set.typeName)) s) := by
  induction fields generalizing set s with
  | nil => rfl
  | cons field rest ih =>
    rw [List.foldlM_cons, List.flatMap_cons]
    refine follows_bind ev (addField_play ev set field s) fun next s' h => ?_
    obtain ⟨hname, hlength⟩ := addField_keeps ev h
    rw [← hname, ← hlength]
    exact ih next s'

theorem assembleType_play (count : Nat) (type : ObjectType) (s : σ) :
    Follows (assembleType ev count type s)
      (Step.playAll ev (type.fields.flatMap (fieldPlan count type.name)) s) := by
  unfold assembleType
  split
  · next h =>
    rw [List.isEmpty_iff.1 h]
    rfl
  · have hfields := addFields_play ev type.fields ⟨type.name, List.replicate count [], [], []⟩ s
    rw [List.length_replicate] at hfields
    exact follows_map ev some hfields

theorem assembleTypes_play (count : Nat) (types : List ObjectType) (s : σ) :
    Follows (assembleTypes ev count types s)
      (Step.playAll ev (types.flatMap (typePlan count)) s) := by
  induction types generalizing s with
  | nil => rfl
  | cons type rest ih =>
    rw [assembleTypes, Runs.lift_bind, List.flatMap_cons, typePlan, List.cons_append, Step.playAll,
      Step.play]
    refine follows_bind ev (assembleType_play ev count type _) fun set? s' _ => ?_
    exact follows_map ev (set?.toList ++ ·) (ih s')

/-- An assembly comes to what its plan comes to. -/
theorem assemble_play (count : Nat) (schema : Schema) (s : σ) :
    Follows (assemble ev count schema s) (Step.playAll ev (plan count schema) s) :=
  assembleTypes_play ev count schema.types s

end Fixtures.Generation
