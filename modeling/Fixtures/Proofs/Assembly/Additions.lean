import Fixtures.Proofs.Assembly.Independence
import Fixtures.Proofs.Script.Confinement

/-!
# Fields beside the random stream

An expression in whose text neither the binding nor `eval` is named leaves the random stream where it was. So fields
with such expressions may be added to a type and taken from it, and the other fields of every document keep their
values.

## Shape of the proof

An assembly that succeeds can be thinned: `addFields_thinned` follows it with a second assembly, of the fields
outside some names, that asks for the same values from the same places of the random stream. Two types that have
the same fields outside these names thin to one assembly (`assembleType_beside`).
-/

namespace Fixtures

/-- A text that names neither the binding of the fake values nor `eval`. -/
structure Script.Unaided (text : String) : Prop where
  binding : ¬ Script.Binding.name.toList <:+: text.toList
  eval : ¬ "eval".toList <:+: text.toList

/-- Two types of one name that have the same fields outside some names. -/
structure ObjectType.SameBeside (names : List String) (type type' : ObjectType) : Prop where
  name : type.name = type'.name
  fields : type.fields.filter (·.name ∉ names) = type'.fields.filter (·.name ∉ names)

/-- The expressions of the fields with some names are unaided. -/
def ObjectType.UnaidedOn (names : List String) (type : ObjectType) : Prop :=
  ∀ field ∈ type.fields, field.name ∈ names →
    ∀ expression, Generation.resolve type.name field = .ok (some expression) → Script.Unaided expression

namespace Generation

open Script (Session)

/-! ## Documents without some names -/

/-- The members of a document outside some names. -/
def without (names : List String) (document : Document) : Document := document.filter (·.1 ∉ names)

theorem without_setMember_of_mem {names : List String} {key : String} (h : key ∈ names) (document : Document)
    (value : Json) : without names (Json.setMember document key value) = without names document := by
  induction document with
  | nil => simp [without, Json.setMember, h]
  | cons member rest ih =>
    obtain ⟨k, v⟩ := member
    unfold without at ih ⊢
    rw [Json.setMember]
    split
    · next same => simp [same, h]
    · rw [List.filter_cons, List.filter_cons, ih]

theorem without_setMember_of_not_mem {names : List String} {key : String} (h : key ∉ names) (document : Document)
    (value : Json) :
    without names (Json.setMember document key value) = Json.setMember (without names document) key value := by
  induction document with
  | nil => simp [without, Json.setMember, h]
  | cons member rest ih =>
    obtain ⟨k, v⟩ := member
    unfold without at ih ⊢
    rw [Json.setMember]
    split
    · next same => simp [same, h, Json.setMember]
    · next other =>
      rw [List.filter_cons, List.filter_cons, ih]
      split
      · rw [Json.setMember, if_neg other]
      · rfl

/-- A document set without some names: the same type, and of every document the members outside the names. -/
structure Thins (names : List String) (set thin : DocumentSet) : Prop where
  typeName : thin.typeName = set.typeName
  documents : thin.documents = set.documents.map (without names)

theorem thins_empty (names : List String) (typeName : String) (count : Nat) :
    Thins names ⟨typeName, List.replicate count [], [], []⟩ ⟨typeName, List.replicate count [], [], []⟩ where
  typeName := rfl
  documents := by rw [List.map_replicate]; rfl

/-! ## Thinned assemblies -/

section Thinned

variable {σ : Type} {R : σ → σ → Prop} {ev : Evaluator σ} {names : List String}

/-- An expression whose evaluation goes unnoticed: the states that the state before it is related to are related
to the state behind it. -/
def Unnoticed (R : σ → σ → Prop) (ev : Evaluator σ) (expression : String) : Prop :=
  ∀ s t, R s t → R (ev.evaluate expression s).2 t

theorem fillField_unnoticed {typeName field expression : String} (named : field ∈ names)
    (unnoticed : Unnoticed R ev expression) {index : Nat} {documents filled : List Document} {s s' t : σ}
    (related : R s t) (h : fillField ev typeName field expression index documents s = (.ok filled, s')) :
    filled.map (without names) = documents.map (without names) ∧ R s' t := by
  induction documents generalizing index filled s with
  | nil =>
    cases h
    exact ⟨rfl, related⟩
  | cons document rest ih =>
    have after := unnoticed s t related
    rw [fillField, Runs.lift_bind] at h
    rcases hev : ev.evaluate expression s with ⟨source | value, s₁⟩ <;> rw [hev] at h after
    · cases h
    · obtain ⟨more, s₂, hmore, hpure⟩ := Runs.bind_eq_ok h
      cases hpure
      obtain ⟨same, after⟩ := ih after hmore
      rw [List.map_cons, List.map_cons, without_setMember_of_mem named, same]
      exact ⟨rfl, after⟩

theorem fillField_thinned (alike : Alike R (fun _ => True) ev ev) {typeName field expression : String}
    (other : field ∉ names) {index : Nat} {documents filled : List Document} {s s' t : σ} (related : R s t)
    (h : fillField ev typeName field expression index documents s = (.ok filled, s')) :
    ∃ t', fillField ev typeName field expression index (documents.map (without names)) t =
      (.ok (filled.map (without names)), t') ∧ R s' t' := by
  induction documents generalizing index filled s t with
  | nil =>
    cases h
    exact ⟨t, rfl, related⟩
  | cons document rest ih =>
    obtain ⟨same, after⟩ := alike.answers expression trivial s t related
    rw [fillField, Runs.lift_bind] at h
    rw [List.map_cons, fillField, Runs.lift_bind, ← same]
    rcases hev : ev.evaluate expression s with ⟨source | value, s₁⟩ <;> rw [hev] at h after
    · cases h
    · obtain ⟨more, s₂, hmore, hpure⟩ := Runs.bind_eq_ok h
      cases hpure
      obtain ⟨t₂, hthin, after⟩ := ih after hmore
      refine ⟨t₂, ?_, after⟩
      dsimp only
      rw [Runs.bind_apply, hthin, List.map_cons, without_setMember_of_not_mem other]
      rfl

/-- A field with one of the names is added to the documents and not to what is left of them. -/
theorem addField_unnoticed {set next thin : DocumentSet} {field : Field} {s s' t : σ} (named : field.name ∈ names)
    (unnoticed : ∀ expression, resolve set.typeName field = .ok (some expression) → Unnoticed R ev expression)
    (thins : Thins names set thin) (related : R s t) (h : addField ev set field s = (.ok next, s')) :
    Thins names next thin ∧ R s' t := by
  unfold addField at h
  rcases hr : resolve set.typeName field with e | _ | expression <;> rw [hr] at h
  · cases h
  · cases h
    exact ⟨⟨thins.typeName, thins.documents⟩, related⟩
  · obtain ⟨documents, s₁, hfill, hpure⟩ := Runs.bind_eq_ok h
    cases hpure
    obtain ⟨same, after⟩ := fillField_unnoticed named (unnoticed expression hr) related hfill
    exact ⟨⟨thins.typeName, thins.documents.trans same.symm⟩, after⟩

/-- Any other field is added to both. -/
theorem addField_thinned (alike : Alike R (fun _ => True) ev ev) {set next thin : DocumentSet} {field : Field}
    {s s' t : σ} (other : field.name ∉ names) (thins : Thins names set thin) (related : R s t)
    (h : addField ev set field s = (.ok next, s')) :
    ∃ nextThin t', addField ev thin field t = (.ok nextThin, t') ∧ Thins names next nextThin ∧ R s' t' := by
  unfold addField at h ⊢
  rw [thins.typeName]
  rcases hr : resolve set.typeName field with e | _ | expression <;> rw [hr] at h
  · cases h
  · cases h
    exact ⟨_, t, rfl, ⟨rfl, thins.documents⟩, related⟩
  · obtain ⟨documents, s₁, hfill, hpure⟩ := Runs.bind_eq_ok h
    cases hpure
    obtain ⟨t₁, hthin, after⟩ := fillField_thinned alike other related hfill
    dsimp only
    rw [thins.documents, Runs.bind_apply, hthin]
    exact ⟨_, t₁, rfl, ⟨rfl, rfl⟩, after⟩

/-- An assembly of all fields is followed by one of the fields outside the names. -/
theorem addFields_thinned (alike : Alike R (fun _ => True) ev ev) {fields : List Field}
    {set last thin : DocumentSet} {s s' t : σ}
    (unnoticed : ∀ field ∈ fields, field.name ∈ names → ∀ expression,
      resolve set.typeName field = .ok (some expression) → Unnoticed R ev expression)
    (thins : Thins names set thin) (related : R s t)
    (h : fields.foldlM (addField ev) set s = (.ok last, s')) :
    ∃ lastThin t', (fields.filter (·.name ∉ names)).foldlM (addField ev) thin t = (.ok lastThin, t') ∧
      Thins names last lastThin ∧ R s' t' := by
  induction fields generalizing set thin s t with
  | nil =>
    cases h
    exact ⟨thin, t, rfl, thins, related⟩
  | cons field rest ih =>
    rw [List.foldlM_cons] at h
    obtain ⟨next, s₁, hfield, hrest⟩ := Runs.bind_eq_ok h
    obtain ⟨unnoticed, later⟩ := List.forall_mem_cons.1 unnoticed
    rw [← (addField_keeps ev hfield).1] at later
    by_cases named : field.name ∈ names
    · obtain ⟨thins, related⟩ := addField_unnoticed named (unnoticed named) thins related hfield
      rw [List.filter_cons_of_neg (by simpa using named)]
      exact ih later thins related hrest
    · obtain ⟨nextThin, t₁, hthin, thins, related⟩ := addField_thinned alike named thins related hfield
      rw [List.filter_cons_of_pos (by simpa using named), List.foldlM_cons, Runs.bind_apply, hthin]
      exact ih later thins related hrest

/-- Types that have the same fields outside some names get the same documents outside these names. -/
theorem assembleType_beside (alike : Alike R (fun _ => True) ev ev) {count : Nat} {type type' : ObjectType}
    (beside : type.SameBeside names type')
    (unnoticed : ∀ t ∈ [type, type'], ∀ field ∈ t.fields, field.name ∈ names → ∀ expression,
      resolve t.name field = .ok (some expression) → Unnoticed R ev expression)
    {set set' : DocumentSet} {s t u v : σ} (related : R s t) (reflected : R t t)
    (h : assembleType ev count type s = (.ok (some set), u))
    (h' : assembleType ev count type' t = (.ok (some set'), v)) :
    set.documents.map (without names) = set'.documents.map (without names) := by
  have fields {type : ObjectType} {set : DocumentSet} {s u : σ}
      (h : assembleType ev count type s = (.ok (some set), u)) :
      type.fields.foldlM (addField ev) ⟨type.name, List.replicate count [], [], []⟩ s = (.ok set, u) := by
    unfold assembleType at h
    split at h
    · cases h
    · obtain ⟨last, s₁, hlast, hpure⟩ := Runs.bind_eq_ok h
      cases hpure
      exact hlast
  rw [List.forall_mem_cons, List.forall_mem_singleton] at unnoticed
  obtain ⟨thin, w, hthin, thins, -⟩ :=
    addFields_thinned alike unnoticed.1 (thins_empty names type.name count) related (fields h)
  obtain ⟨thin', w', hthin', thins', -⟩ :=
    addFields_thinned alike unnoticed.2 (thins_empty names type'.name count) reflected (fields h')
  rw [← beside.name, ← beside.fields, hthin] at hthin'
  cases hthin'
  exact thins.documents.symm.trans thins'.documents

end Thinned
/-! ## Scripts -/

section Scripts

variable {now : Int} {start : ObjectType → UInt64} {names : List String}

/-- Evaluation leaves the random stream where it was, whether it succeeds or fails. -/
theorem generator_evaluator (now : Int) (start : ObjectType → UInt64) {text : String} (h : Script.Unaided text)
    (s : Session) : ((Session.evaluator now start).evaluate text s).2.generator = s.generator := by
  have kept := s.generator_evaluate now h.binding h.eval
  simp only [Session.evaluator]
  rcases hs : s.evaluate now text with ⟨fault | v, s'⟩ <;> rw [hs] at kept <;> exact kept

theorem unnoticed_evaluator {type : ObjectType} (h : type.UnaidedOn names) :
    ∀ field ∈ type.fields, field.name ∈ names → ∀ expression, resolve type.name field = .ok (some expression) →
      Unnoticed (fun s t : Session => s.generator = t.generator) (Session.evaluator now start) expression :=
  fun field hfield named expression asked s _ related =>
    (generator_evaluator now start (h field hfield named expression asked) s).trans related

/-- The set that a type has in an assembly of a schema is the one that it has alone. -/
theorem assembleType_of_mem_withSets {seed : UInt64} {count : Count} {schema : Schema} {sets : List DocumentSet}
    (h : (assembleSeeded now seed count schema).1 = .ok sets) {type : ObjectType} {set : DocumentSet}
    (hset : (type, set) ∈ schema.withSets sets) :
    ∃ u, assembleType (evaluatorOf now seed) count.val type
      ((evaluatorOf now seed).begin type (Session.ofSeed seed)).2 = (.ok (some set), u) := by
  obtain ⟨owns, each, rfl⟩ := (assembleTypes_eq_ok_iff (alike_self now seed)).1 h
  obtain ⟨-, alone⟩ := (mem_zip_flatten each).1 hset
  rw [assembleTypes_cons_fst (alike_self now seed)] at alone
  obtain ⟨set?, hfirst, hpure⟩ := Runs.except_bind_eq_ok.1 alone
  refine ⟨_, Prod.ext ?_ rfl⟩
  rw [hfirst]
  cases set? with
  | none => cases hpure
  | some own =>
    cases hpure
    rfl

/-- A type with one field, which draws from the random stream. -/
def rolling : ObjectType := ⟨"Person", [⟨"roll", [⟨"generate", [⟨"faker", "faker.number.int(1, 6)"⟩]⟩]⟩]⟩

/-- The same type with two more fields, one before and one after it. -/
def rollingBeside : ObjectType :=
  ⟨"Person", [⟨"sum", [⟨"generate", [⟨"faker", "1 + 1"⟩]⟩]⟩] ++ rolling.fields ++ [⟨"note", []⟩]⟩

end Scripts

end Generation

end Fixtures
