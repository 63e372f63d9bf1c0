import Fixtures.Proofs.Assembly.Sets
import Mathlib

/-!
# Types are assembled apart

An assembly from a seed comes to what the assemblies of its types one by one come to: it succeeds exactly if all
of these do, and its document sets are theirs, one after the other. So the set of a type is the same in every
schema that the type stands in, whatever stands beside it.

## Shape of the proof

What may pass from one type to the next is the state of the evaluator. `Alike` names what it takes for two
evaluators to answer alike: every type begins in related states, whatever was there before, and related states
stay so. `assembleTypes_fst` carries this through the recursions of the assembly. For scripts the relation is to
stand at the same place of the random stream (`alike_evaluatorOf`).
-/

namespace Fixtures

/-- An expression that does not read the clock: it comes to the same whenever it is evaluated. -/
def Script.IsClockless (expression : String) : Prop :=
  ∀ (s : Script.Session) (now later : Int), s.evaluate now expression = s.evaluate later expression

/-- Whether an expression generates one of the fields of a type. -/
def ObjectType.Asks (type : ObjectType) (expression : String) : Prop :=
  ∃ field ∈ type.fields, Generation.resolve type.name field = .ok (some expression)

/-- A type none of whose expressions reads the clock. -/
def ObjectType.IsClockless (type : ObjectType) : Prop :=
  ∀ expression, type.Asks expression → Script.IsClockless expression

/-- The document sets of an assembly, each beside its type. -/
def Schema.withSets (schema : Schema) (sets : List Generation.DocumentSet) :
    List (ObjectType × Generation.DocumentSet) :=
  (schema.types.filter (!·.fields.isEmpty)).zip sets

namespace Generation

open Script (Session)

/-! ## Evaluators that answer alike -/

/-- Two evaluators, over related states, that give the same answers to what is asked. A type begins in related
states, whatever came before it. -/
structure Alike {σ τ : Type} (R : σ → τ → Prop) (asked : String → Prop) (ev : Evaluator σ) (ev' : Evaluator τ) :
    Prop where
  begins : ∀ type s t, R (ev.begin type s).2 (ev'.begin type t).2
  answers : ∀ expression, asked expression → ∀ s t, R s t →
    (ev.evaluate expression s).1 = (ev'.evaluate expression t).1 ∧
      R (ev.evaluate expression s).2 (ev'.evaluate expression t).2

/-- Two computations that come to the same from related states, and end in related states. -/
def Agree {σ τ α : Type} (R : σ → τ → Prop) (x : Assemble σ α) (y : Assemble τ α) : Prop :=
  ∀ s t, R s t → (x s).1 = (y t).1 ∧ R (x s).2 (y t).2

section Alike

variable {σ τ α β : Type} {R : σ → τ → Prop} {asked : String → Prop}

theorem Agree.bind {x : Assemble σ α} {y : Assemble τ α} {f : α → Assemble σ β} {g : α → Assemble τ β}
    (h : Agree R x y) (hf : ∀ a s s', x s = (.ok a, s') → Agree R (f a) (g a)) :
    Agree R (x >>= f) (y >>= g) := by
  intro s t related
  obtain ⟨same, after⟩ := h s t related
  rw [Runs.bind_apply, Runs.bind_apply]
  rcases hx : x s with ⟨e | a, s'⟩ <;> rcases hy : y t with ⟨e' | a', t'⟩ <;> rw [hx, hy] at same after <;>
    cases same
  · exact ⟨rfl, after⟩
  · exact hf a s s' hx s' t' after

theorem agree_pure (a : α) : Agree R (pure a) (pure a) := fun _ _ related => ⟨rfl, related⟩

variable {ev : Evaluator σ} {ev' : Evaluator τ}

theorem fillField_agree (alike : Alike R asked ev ev') {expression : String} (h : asked expression)
    (typeName field : String) (index : Nat) (documents : List Document) :
    Agree R (fillField ev typeName field expression index documents)
      (fillField ev' typeName field expression index documents) := by
  induction documents generalizing index with
  | nil => exact agree_pure []
  | cons document rest ih =>
    intro s t related
    obtain ⟨same, after⟩ := alike.answers expression h s t related
    rw [fillField, fillField, Runs.lift_bind, Runs.lift_bind, ← same]
    cases (ev.evaluate expression s).1 with
    | error source => exact ⟨rfl, after⟩
    | ok value => exact (ih (index + 1)).bind (fun _ _ _ _ => agree_pure _) _ _ after

theorem addField_agree (alike : Alike R asked ev ev') (set : DocumentSet) (field : Field)
    (h : ∀ expression, resolve set.typeName field = .ok (some expression) → asked expression) :
    Agree R (addField ev set field) (addField ev' set field) := by
  unfold addField
  rcases hr : resolve set.typeName field with e | _ | expression
  · exact fun _ _ related => ⟨rfl, related⟩
  · exact agree_pure _
  · exact (fillField_agree alike (h expression hr) _ _ 0 _).bind fun _ _ _ _ => agree_pure _

theorem addFields_agree (alike : Alike R asked ev ev') (fields : List Field) (set : DocumentSet)
    (h : ∀ field ∈ fields, ∀ expression, resolve set.typeName field = .ok (some expression) → asked expression) :
    Agree R (fields.foldlM (addField ev) set) (fields.foldlM (addField ev') set) := by
  induction fields generalizing set with
  | nil => exact agree_pure set
  | cons field rest ih =>
    rw [List.foldlM_cons, List.foldlM_cons]
    refine (addField_agree alike set field (h field List.mem_cons_self)).bind fun next s s' hnext => ?_
    obtain ⟨hname, -⟩ := addField_keeps ev hnext
    refine ih next fun other hother => ?_
    rw [hname]
    exact h other (List.mem_cons_of_mem field hother)

theorem assembleType_agree (alike : Alike R asked ev ev') (count : Nat) (type : ObjectType)
    (h : ∀ expression, type.Asks expression → asked expression) :
    Agree R (assembleType ev count type) (assembleType ev' count type) := by
  unfold assembleType
  split
  · exact agree_pure none
  · refine Agree.bind (addFields_agree alike type.fields _ fun field hfield expression hr => ?_)
      fun _ _ _ _ => agree_pure _
    exact h expression ⟨field, hfield, hr⟩

/-- What comes first and what comes after it come to the same, whatever states lie between. -/
theorem fst_bind_congr {x : Assemble σ α} {y : Assemble τ α} {f : α → Assemble σ β} {g : α → Assemble τ β}
    {s : σ} {t : τ} (h : (x s).1 = (y t).1) (hf : ∀ a s' t', (f a s').1 = (g a t').1) :
    ((x >>= f) s).1 = ((y >>= g) t).1 := by
  rw [Runs.bind_apply, Runs.bind_apply]
  rcases hx : x s with ⟨e | a, s'⟩ <;> rcases hy : y t with ⟨e' | a', t'⟩ <;> rw [hx, hy] at h <;> cases h
  · rfl
  · exact hf a s' t'

/-- Evaluators that answer alike assemble the same, from whatever states: every type begins anew. -/
theorem assembleTypes_fst (alike : Alike R asked ev ev') (count : Nat) (types : List ObjectType)
    (h : ∀ type ∈ types, ∀ expression, type.Asks expression → asked expression) (s : σ) (t : τ) :
    (assembleTypes ev count types s).1 = (assembleTypes ev' count types t).1 := by
  induction types generalizing s t with
  | nil => rfl
  | cons type rest ih =>
    have first := assembleType_agree alike count type (h type List.mem_cons_self) _ _ (alike.begins type s t)
    rw [assembleTypes, assembleTypes, Runs.lift_bind, Runs.lift_bind]
    -- The other types begin anew, so the states behind the first one need not be related.
    refine fst_bind_congr first.1 fun set? s' t' => fst_bind_congr ?_ fun _ _ _ => rfl
    exact ih (fun other hother => h other (List.mem_cons_of_mem type hother)) s' t'

end Alike

/-! ## One type after another -/

section Apart

variable {σ α β : Type} {R : σ → σ → Prop} {ev : Evaluator σ}

/-- A computation whose second part comes to the same in every state. -/
theorem fst_bind {x : Assemble σ α} {f : α → Assemble σ β} {r : α → Except AssemblyError β} (s : σ)
    (h : ∀ a s', (f a s').1 = r a) : ((x >>= f) s).1 = (x s).1 >>= r := by
  rw [Runs.bind_apply]
  rcases x s with ⟨e | a, s'⟩
  · rfl
  · exact h a s'

theorem assembleTypes_cons_fst (alike : Alike R (fun _ => True) ev ev) (count : Nat) (type : ObjectType)
    (rest : List ObjectType) (s : σ) :
    (assembleTypes ev count (type :: rest) s).1 =
      (assembleType ev count type (ev.begin type s).2).1 >>= fun set? =>
        (assembleTypes ev count rest s).1 >>= fun others => .ok (set?.toList ++ others) := by
  rw [assembleTypes, Runs.lift_bind]
  refine fst_bind _ fun set? s' => ?_
  rw [assembleTypes_fst alike count rest (fun _ _ _ _ => trivial) s s']
  exact fst_bind s' fun _ _ => rfl

/-- The sets of some types are those of the first and those of the others. -/
theorem assembleTypes_cons_eq_ok (alike : Alike R (fun _ => True) ev ev) {count : Nat} {type : ObjectType}
    {rest : List ObjectType} {sets : List DocumentSet} {s : σ} :
    (assembleTypes ev count (type :: rest) s).1 = .ok sets ↔
      ∃ own others, (assembleTypes ev count [type] s).1 = .ok own ∧
        (assembleTypes ev count rest s).1 = .ok others ∧ sets = own ++ others := by
  rw [assembleTypes_cons_fst alike, assembleTypes_cons_fst alike, Runs.except_bind_eq_ok]
  constructor
  · rintro ⟨set?, hset, h⟩
    obtain ⟨others, hothers, hsets⟩ := Runs.except_bind_eq_ok.1 h
    cases hsets
    refine ⟨set?.toList, others, ?_, hothers, rfl⟩
    rw [hset, ← List.append_nil set?.toList]
    rfl
  · rintro ⟨own, others, hown, hothers, rfl⟩
    obtain ⟨set?, hset, h⟩ := Runs.except_bind_eq_ok.1 hown
    cases h
    refine ⟨set?, hset, ?_⟩
    rw [hothers, List.append_nil]
    rfl

/-- An assembly succeeds with what the assemblies of the single types give, one after the other. -/
theorem assembleTypes_eq_ok_iff (alike : Alike R (fun _ => True) ev ev) {count : Nat}
    {types : List ObjectType} {sets : List DocumentSet} {s : σ} :
    (assembleTypes ev count types s).1 = .ok sets ↔
      ∃ owns, List.Forall₂ (fun type own => (assembleTypes ev count [type] s).1 = .ok own) types owns ∧
        sets = owns.flatten := by
  induction types generalizing sets with
  | nil =>
    constructor
    · intro h
      cases h
      exact ⟨[], .nil, rfl⟩
    · rintro ⟨owns, each, rfl⟩
      cases each
      rfl
  | cons type rest ih =>
    rw [assembleTypes_cons_eq_ok alike]
    constructor
    · rintro ⟨own, others, hown, hothers, rfl⟩
      obtain ⟨owns, each, rfl⟩ := ih.1 hothers
      exact ⟨own :: owns, .cons hown each, rfl⟩
    · rintro ⟨owns, each, rfl⟩
      cases each with
      | cons hown each => exact ⟨_, _, hown, ih.2 ⟨_, each, rfl⟩, rfl⟩

/-- A type without fields has no set when it is assembled alone, and any other has one. -/
theorem own_eq {count : Nat} {type : ObjectType} {own : List DocumentSet} {s : σ}
    (h : (assembleTypes ev count [type] s).1 = .ok own) :
    if type.fields.isEmpty then own = [] else ∃ set, own = [set] := by
  have run : assembleTypes ev count [type] s = (.ok own, (assembleTypes ev count [type] s).2) := Prod.ext h rfl
  have names := (assembleTypes_names run).1
  cases hfields : type.fields.isEmpty with
  | true => simpa [hfields] using names
  | false =>
    have one : own.length = 1 := by simpa [hfields] using congrArg List.length names
    simpa using List.length_eq_one_iff.1 one

/-- What stands beside a type is the set that it has when it is assembled alone. -/
theorem mem_zip_flatten {count : Nat} {types : List ObjectType} {owns : List (List DocumentSet)} {s : σ}
    (each : List.Forall₂ (fun type own => (assembleTypes ev count [type] s).1 = .ok own) types owns)
    {type : ObjectType} {set : DocumentSet} :
    (type, set) ∈ (types.filter (!·.fields.isEmpty)).zip owns.flatten ↔
      type ∈ types ∧ (assembleTypes ev count [type] s).1 = .ok [set] := by
  induction each with
  | nil => simp
  | @cons first own rest owns hown each ih =>
    have single := own_eq hown
    split at single
    -- Without fields the first type stands on neither side; with fields it stands beside its own set.
    · next hempty =>
      subst single
      rw [List.filter_cons_of_neg (by simp [hempty]), List.flatten_cons, List.nil_append, ih, List.mem_cons]
      refine and_congr_left fun alone => (or_iff_right ?_).symm
      rintro rfl
      cases hown.symm.trans alone
    · next hfields =>
      obtain ⟨set', rfl⟩ := single
      rw [List.filter_cons_of_pos (by simpa using hfields), List.flatten_cons, List.singleton_append,
        List.zip_cons_cons, List.mem_cons, ih, List.mem_cons, or_and_right]
      refine or_congr_left ⟨?_, ?_⟩
      · intro h
        cases h
        exact ⟨rfl, hown⟩
      · rintro ⟨rfl, alone⟩
        cases hown.symm.trans alone
        rfl

end Apart

/-! ## Scripts -/

/-- Of a session, a script sees the place in the random stream and nothing else. -/
theorem evaluate_congr {s t : Session} (h : s.generator = t.generator) (now : Int) (expression : String) :
    (s.evaluate now expression).1 = (t.evaluate now expression).1 ∧
      (s.evaluate now expression).2.generator = (t.evaluate now expression).2.generator := by
  unfold Session.evaluate
  split
  · exact ⟨rfl, h⟩
  · next p _ =>
    have same (functions : List Script.Function) : s.machine now functions = t.machine now functions := by
      rw [Session.machine, Session.machine, h]
    rw [Session.run, Session.run, same]
    exact ⟨rfl, rfl⟩

/-- Evaluators of scripts that begin each type alike answer alike, at one time to all expressions and at two times
to those that do not read the clock. -/
theorem alike_evaluator {now later : Int} (start : ObjectType → UInt64) {asked : String → Prop}
    (h : ∀ expression, asked expression → ∀ s : Session, s.evaluate now expression = s.evaluate later expression) :
    Alike (fun s t : Session => s.generator = t.generator) asked (Session.evaluator now start)
      (Session.evaluator later start) where
  begins _ _ _ := rfl
  answers expression hasked s t related := by
    obtain ⟨value, stream⟩ := evaluate_congr related later expression
    rw [← h expression hasked s] at value stream
    simp only [Session.evaluator]
    rcases hs : s.evaluate now expression with ⟨text | v, s'⟩ <;>
      rcases ht : t.evaluate later expression with ⟨text' | v', t'⟩ <;> rw [hs, ht] at value stream <;>
      cases value <;> exact ⟨rfl, stream⟩

/-- With one seed each type begins at the start of its own random stream. -/
theorem alike_evaluatorOf {now later : Int} (seed : UInt64) {asked : String → Prop}
    (h : ∀ expression, asked expression → ∀ s : Session, s.evaluate now expression = s.evaluate later expression) :
    Alike (fun s t : Session => s.generator = t.generator) asked (evaluatorOf now seed)
      (evaluatorOf later seed) := alike_evaluator _ h

/-- Each of some things has a partner if and only if there is a list of partners. -/
theorem exists_forall₂_iff {α β : Type} {r : α → β → Prop} {as : List α} :
    (∃ bs, List.Forall₂ r as bs) ↔ ∀ a ∈ as, ∃ b, r a b := by
  induction as with
  | nil => exact ⟨fun _ _ h => absurd h List.not_mem_nil, fun _ => ⟨[], .nil⟩⟩
  | cons a as ih =>
    rw [List.forall_mem_cons, ← ih]
    constructor
    · rintro ⟨_, _ | ⟨first, rest⟩⟩
      exact ⟨⟨_, first⟩, _, rest⟩
    · rintro ⟨⟨b, first⟩, bs, rest⟩
      exact ⟨b :: bs, .cons first rest⟩

variable {seed : UInt64} {count : Count}

theorem alike_self (now : Int) (seed : UInt64) :
    Alike (fun s t : Session => s.generator = t.generator) (fun _ => True) (evaluatorOf now seed)
      (evaluatorOf now seed) := alike_evaluatorOf seed fun _ _ _ => rfl

/-- Without expressions that read the clock, an assembly comes to the same at any time. -/
theorem assembleSeeded_anytime {schema : Schema} (clockless : ∀ type ∈ schema.types, type.IsClockless)
    (now later : Int) : (assembleSeeded now seed count schema).1 = (assembleSeeded later seed count schema).1 :=
  assembleTypes_fst (alike_evaluatorOf seed fun _ h s => h s now later) count.val schema.types clockless _ _

/-- Types are assembled independently: without expressions that read the clock, an assembly succeeds exactly if the
assembly of each single type does, whenever that is made, and gives the document sets of these assemblies in the
order of the types. So the document set of a type is the same in all schemas that the type stands in. -/
theorem assembleSeeded_apart {schema : Schema} (clockless : ∀ type ∈ schema.types, type.IsClockless) (now : Int)
    (clock : ObjectType → Int) :
    ((∃ sets, (assembleSeeded now seed count schema).1 = .ok sets) ↔
      ∀ type ∈ schema.types, ∃ own, (assembleSeeded (clock type) seed count ⟨[type]⟩).1 = .ok own) ∧
    (∀ sets, (assembleSeeded now seed count schema).1 = .ok sets →
      ∃ owns, List.Forall₂ (fun type own => (assembleSeeded (clock type) seed count ⟨[type]⟩).1 = .ok own)
        schema.types owns ∧ sets = owns.flatten) ∧
    ∀ (other : Schema) (later : Int) (sets others : List DocumentSet),
      (assembleSeeded now seed count schema).1 = .ok sets →
      (assembleSeeded later seed count other).1 = .ok others →
      ∀ type ∈ schema.types, type ∈ other.types → ∀ set,
        (type, set) ∈ schema.withSets sets ↔ (type, set) ∈ other.withSets others := by
  -- The clock of a single type may be set to that of the whole run.
  have anytime (then' : ObjectType → Int) (type : ObjectType) (htype : type ∈ schema.types) :
      (assembleSeeded (then' type) seed count ⟨[type]⟩).1 = (assembleSeeded now seed count ⟨[type]⟩).1 :=
    assembleSeeded_anytime (by simpa using clockless type htype) _ now
  refine ⟨⟨?_, ?_⟩, ?_, ?_⟩
  · rintro ⟨sets, h⟩ type htype
    obtain ⟨owns, each, -⟩ := (assembleTypes_eq_ok_iff (alike_self now seed)).1 h
    rw [anytime clock type htype]
    exact exists_forall₂_iff.1 ⟨owns, each⟩ type htype
  · intro h
    obtain ⟨owns, each⟩ := exists_forall₂_iff.2 fun type htype => anytime clock type htype ▸ h type htype
    exact ⟨owns.flatten, (assembleTypes_eq_ok_iff (alike_self now seed)).2 ⟨owns, each, rfl⟩⟩
  · intro sets h
    obtain ⟨owns, each, flat⟩ := (assembleTypes_eq_ok_iff (alike_self now seed)).1 h
    refine ⟨owns, ?_, flat⟩
    exact ((List.forall₂_and_left _ _).2 ⟨anytime clock, each⟩).imp fun type own both => both.1.trans both.2
  · intro other later sets others h hother type htype htype' set
    obtain ⟨owns, each, rfl⟩ := (assembleTypes_eq_ok_iff (alike_self now seed)).1 h
    obtain ⟨owns', each', rfl⟩ := (assembleTypes_eq_ok_iff (alike_self later seed)).1 hother
    rw [Schema.withSets, Schema.withSets, mem_zip_flatten each, mem_zip_flatten each', and_iff_right htype,
      and_iff_right htype']
    exact Eq.congr_left (anytime (fun _ => later) type htype).symm

/-- A schema with two types that draw from the random stream, and one without fields. -/
def dice : Schema :=
  ⟨[⟨"Person", [⟨"roll", [⟨"generate", [⟨"faker", "faker.number.int(1, 6)"⟩]⟩]⟩]⟩, ⟨"Empty", []⟩,
    ⟨"Post", [⟨"roll", [⟨"generate", [⟨"faker", "faker.number.int(1, 6)"⟩]⟩]⟩]⟩]⟩

theorem isClockless_roll : Script.IsClockless "faker.number.int(1, 6)" := by
  intro s now later
  cbv

/-- The dice of each type fall alike in the schema, alone, and with the types in the opposite order. -/
theorem assembleSeeded_dice :
    (∀ type ∈ dice.types, type.IsClockless) ∧
    (∀ type ∈ dice.types, ∃ own, (assembleSeeded 1000 7 .one ⟨[type]⟩).1 = .ok own) ∧
    ∃ sets others, (assembleSeeded 0 7 .one dice).1 = .ok sets ∧
      (assembleSeeded 5 7 .one ⟨dice.types.reverse⟩).1 = .ok others ∧
      ∀ type ∈ dice.types, ∀ set,
        (type, set) ∈ dice.withSets sets ↔ (type, set) ∈ (Schema.mk dice.types.reverse).withSets others := by
  have clockless : ∀ type ∈ dice.types, type.IsClockless := by
    rintro type htype expression ⟨field, hfield, asked⟩
    have rolled : expression = "faker.number.int(1, 6)" := by
      simp only [dice, List.mem_cons, List.not_mem_nil, or_false] at htype
      rcases htype with rfl | rfl | rfl
      · cases List.mem_singleton.1 hfield
        exact (Option.some.inj (Except.ok.inj asked)).symm
      · cases hfield
      · cases List.mem_singleton.1 hfield
        exact (Option.some.inj (Except.ok.inj asked)).symm
    rw [rolled]
    exact isClockless_roll
  have rolls : (assembleSeeded 0 7 .one dice).1.toOption.isSome = true := by decide +kernel
  have reversed : (assembleSeeded 5 7 .one ⟨dice.types.reverse⟩).1.toOption.isSome = true := by decide +kernel
  obtain ⟨sets, hsets⟩ := Option.isSome_iff_exists.1 rolls
  obtain ⟨others, hothers⟩ := Option.isSome_iff_exists.1 reversed
  have hsets := Runs.except_eq_ok_of_toOption hsets
  have hothers := Runs.except_eq_ok_of_toOption hothers
  obtain ⟨succeeds, -, same⟩ := @assembleSeeded_apart 7 .one dice clockless 0 fun _ => 1000
  exact ⟨clockless, succeeds.1 ⟨sets, hsets⟩, sets, others, hsets, hothers,
    fun type htype => same _ 5 sets others hsets hothers type htype (List.mem_reverse.2 htype)⟩

end Generation

end Fixtures
