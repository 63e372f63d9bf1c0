import Fixtures.Generation.Seeding
import Fixtures.Proofs.Assembly.Plan
import Fixtures.Proofs.Json.Regular

/-!
# The document sets of an assembly

Each type with fields has one set, which bears its name and has as many documents as asked for
(`assembleTypes_names`). Whatever holds of the empty document and is kept by setting answers of the evaluator
holds of every document (`assembleTypes_documents`). So the documents of scripts are regular values
(`assembleSeeded_regular`).
-/

namespace Fixtures.Generation

variable {σ : Type} {ev : Evaluator σ}

/-! ## Names and numbers -/

/-- Adding fields changes neither the type of a set nor the number of its documents. -/
theorem addFields_keeps {fields : List Field} {set last : DocumentSet} {s s' : σ}
    (h : fields.foldlM (addField ev) set s = (.ok last, s')) :
    last.typeName = set.typeName ∧ last.documents.length = set.documents.length := by
  induction fields generalizing set s with
  | nil =>
    cases h
    exact ⟨rfl, rfl⟩
  | cons field rest ih =>
    rw [List.foldlM_cons] at h
    obtain ⟨next, s₁, hfield, hrest⟩ := Runs.bind_eq_ok h
    obtain ⟨hname, hlength⟩ := addField_keeps ev hfield
    rw [← hname, ← hlength]
    exact ih hrest

theorem assembleType_keeps {count : Nat} {type : ObjectType} {set? : Option DocumentSet} {s s' : σ}
    (h : assembleType ev count type s = (.ok set?, s')) :
    if type.fields.isEmpty then set? = none
    else ∃ set, set? = some set ∧ set.typeName = type.name ∧ set.documents.length = count := by
  unfold assembleType at h
  split at h
  · next hempty =>
    cases h
    rw [if_pos hempty]
  · next hfields =>
    obtain ⟨set, s₁, hset, hpure⟩ := Runs.bind_eq_ok h
    cases hpure
    obtain ⟨hname, hlength⟩ := addFields_keeps hset
    rw [if_neg hfields]
    exact ⟨set, rfl, hname, by rw [hlength, List.length_replicate]⟩

/-- The sets of an assembly are those of the types with fields, in source order. -/
theorem assembleTypes_names {count : Nat} {types : List ObjectType} {sets : List DocumentSet} {s s' : σ}
    (h : assembleTypes ev count types s = (.ok sets, s')) :
    sets.map (·.typeName) = (types.filter (!·.fields.isEmpty)).map (·.name) ∧
      ∀ set ∈ sets, set.documents.length = count := by
  induction types generalizing sets s with
  | nil =>
    cases h
    exact ⟨rfl, fun _ hset => absurd hset List.not_mem_nil⟩
  | cons type rest ih =>
    rw [assembleTypes, Runs.lift_bind] at h
    obtain ⟨set?, s₁, hset, hrest⟩ := Runs.bind_eq_ok h
    obtain ⟨others, s₂, hothers, hpure⟩ := Runs.bind_eq_ok hrest
    cases hpure
    have first := assembleType_keeps hset
    obtain ⟨names, lengths⟩ := ih hothers
    split at first
    · next hempty =>
      subst first
      rw [List.filter_cons_of_neg (by simp [hempty])]
      exact ⟨names, lengths⟩
    · next hfields =>
      obtain ⟨set, rfl, hname, hlength⟩ := first
      rw [List.filter_cons_of_pos (by simpa using hfields)]
      refine ⟨by simp [hname, names], fun other hother => ?_⟩
      rcases List.mem_cons.1 hother with rfl | hother
      · exact hlength
      · exact lengths other hother

/-! ## Every document -/

section Documents

variable {P : Document → Prop} {Q : Json → Prop}
  (grows : ∀ document key value, P document → Q value → P (Json.setMember document key value))
  (answers : ∀ expression s value s', ev.evaluate expression s = (.ok value, s') → Q value)

include grows answers

theorem fillField_documents {typeName field expression : String} {index : Nat} {documents filled : List Document} {s s' : σ}
    (before : ∀ d ∈ documents, P d)
    (h : fillField ev typeName field expression index documents s = (.ok filled, s')) :
    ∀ d ∈ filled, P d := by
  induction documents generalizing index filled s with
  | nil =>
    cases h
    exact before
  | cons document rest ih =>
    rw [fillField, Runs.lift_bind] at h
    rcases hev : ev.evaluate expression s with ⟨source | value, s₁⟩
    · rw [hev] at h
      cases h
    · rw [hev] at h
      obtain ⟨more, s₂, hmore, hpure⟩ := Runs.bind_eq_ok h
      cases hpure
      intro d hd
      rcases List.mem_cons.1 hd with rfl | hd
      · exact grows _ _ _ (before document List.mem_cons_self) (answers _ _ _ _ hev)
      · exact ih (fun d hd => before d (List.mem_cons_of_mem _ hd)) hmore d hd

theorem addFields_documents {fields : List Field} {set last : DocumentSet} {s s' : σ} (before : ∀ d ∈ set.documents, P d)
    (h : fields.foldlM (addField ev) set s = (.ok last, s')) : ∀ d ∈ last.documents, P d := by
  induction fields generalizing set s with
  | nil =>
    cases h
    exact before
  | cons field rest ih =>
    rw [List.foldlM_cons] at h
    obtain ⟨next, s₁, hfield, hrest⟩ := Runs.bind_eq_ok h
    refine ih ?_ hrest
    unfold addField at hfield
    rcases hr : resolve set.typeName field with e | _ | expression
    · rw [hr] at hfield
      cases hfield
    · rw [hr] at hfield
      cases hfield
      exact before
    · rw [hr] at hfield
      obtain ⟨documents, s₂, hfill, hpure⟩ := Runs.bind_eq_ok hfield
      cases hpure
      exact fillField_documents grows answers before hfill

/-- What holds of the empty document and is kept by setting answers holds of all documents. -/
theorem assembleTypes_documents (empty : P []) {count : Nat} {types : List ObjectType}
    {sets : List DocumentSet} {s s' : σ}
    (h : assembleTypes ev count types s = (.ok sets, s')) : ∀ set ∈ sets, ∀ d ∈ set.documents, P d := by
  induction types generalizing sets s with
  | nil =>
    cases h
    exact fun _ hset => absurd hset List.not_mem_nil
  | cons type rest ih =>
    rw [assembleTypes, Runs.lift_bind] at h
    obtain ⟨set?, s₁, hset, hrest⟩ := Runs.bind_eq_ok h
    obtain ⟨others, s₂, hothers, hpure⟩ := Runs.bind_eq_ok hrest
    cases hpure
    intro other hother
    rcases List.mem_append.1 hother with hfirst | hlater
    · unfold assembleType at hset
      split at hset
      · cases hset
        exact absurd hfirst List.not_mem_nil
      · obtain ⟨set, s₃, hfields, hpure⟩ := Runs.bind_eq_ok hset
        cases hpure
        rw [List.mem_singleton.1 hfirst]
        refine addFields_documents grows answers (fun d hd => ?_) hfields
        rw [List.eq_of_mem_replicate hd]
        exact empty
    · exact ih hothers other hlater

end Documents

/-! ## Assemblies with scripts -/

/-- The evaluator of scripts answers with regular values. -/
theorem regular_of_evaluate {now : Int} {seed : UInt64} {expression : String} {s s' : Script.Session}
    {value : Json} (h : (evaluatorOf now seed).evaluate expression s = (.ok value, s')) : value.Regular := by
  simp only [evaluatorOf, Script.Session.evaluator] at h
  rcases hev : s.evaluate now expression with ⟨text | v, s₁⟩
  · rw [hev] at h
    cases h
  · rw [hev] at h
    cases h
    exact v.regular_toJson

variable {now : Int} {seed : UInt64} {count : Count} {schema : Schema} {sets : List DocumentSet}

theorem assembleTypes_of_seeded (h : (assembleSeeded now seed count schema).1 = .ok sets) :
    assembleTypes (evaluatorOf now seed) count.val schema.types (Script.Session.ofSeed seed) =
      (.ok sets, (assembleSeeded now seed count schema).2) := Prod.ext h rfl

/-- The sets of an assembly with scripts are those of the types with fields. -/
theorem assembleSeeded_names (h : (assembleSeeded now seed count schema).1 = .ok sets) :
    sets.map (·.typeName) = (schema.types.filter (!·.fields.isEmpty)).map (·.name) ∧
      ∀ set ∈ sets, set.documents.length = count.val := assembleTypes_names (assembleTypes_of_seeded h)

/-- What holds of the names of all types holds of those of their sets. -/
theorem forall_typeName {P : String → Prop} (h : (assembleSeeded now seed count schema).1 = .ok sets)
    (each : ∀ type ∈ schema.types, P type.name) : ∀ set ∈ sets, P set.typeName := by
  intro set hset
  have mem : set.typeName ∈ sets.map (·.typeName) := List.mem_map_of_mem hset
  rw [(assembleSeeded_names h).1] at mem
  obtain ⟨type, htype, same⟩ := List.mem_map.1 mem
  rw [← same]
  exact each type (List.mem_filter.1 htype).1

/-- Each type with fields has a set. -/
theorem exists_set (h : (assembleSeeded now seed count schema).1 = .ok sets) {type : ObjectType}
    (htype : type ∈ schema.types) (fields : type.fields ≠ []) : ∃ set ∈ sets, set.typeName = type.name := by
  have mem : type.name ∈ (schema.types.filter (!·.fields.isEmpty)).map (·.name) :=
    List.mem_map_of_mem (List.mem_filter.2 ⟨htype, by simpa using fields⟩)
  rw [← (assembleSeeded_names h).1] at mem
  exact List.mem_map.1 mem

/-- The documents of an assembly with scripts are regular. -/
theorem assembleSeeded_regular (h : (assembleSeeded now seed count schema).1 = .ok sets) :
    ∀ set ∈ sets, ∀ d ∈ set.documents, (Json.object d).Regular := by
  have run := assembleTypes_of_seeded h
  exact assembleTypes_documents (P := fun d => (Json.object d).Regular)
    (fun _ key _ regular hvalue => regular.setMember key hvalue)
    (fun _ _ _ _ => regular_of_evaluate) ⟨List.nodup_nil, trivial⟩ run

end Fixtures.Generation
