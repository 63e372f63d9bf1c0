import Fixtures.Proofs.Assembly.Trace
import Mathlib.Data.List.Forall2

/-!
# What an assembly gives

If an assembly succeeds, each type with fields has one document set, and every value in it is the answer to
one call: that for the last generated field of its name and for the index of its document. The calls are
those of the fields in source order, and for each field those of the documents in order.

## Shape of the proof

An answer has three coordinates: the positions of its type and of its field, and the index of its document.
`fillField_ok`, `addFields_ok` and `assembleTypes_ok` each add one of them. `grown` is the document that the
answers of one index come to; its keys are in `keys_grown` and its values in `lookup_grown`.
-/

namespace Fixtures.Generation

/-- Whether a generating directive stands next to a field. -/
def isGenerated (field : Field) : Bool := field.directives.any (·.name = directiveName)

/-- The names of the generated fields among some. -/
def generatedNames (fields : List Field) : List String := (fields.filter isGenerated).map (·.name)

/-- The names of the other fields among some. -/
def plainNames (fields : List Field) : List String := (fields.filter (!isGenerated ·)).map (·.name)

theorem resolve_none {typeName : String} {field : Field} (h : resolve typeName field = .ok none) :
    isGenerated field = false := by
  unfold resolve at h
  split at h
  · next hnil => simpa [isGenerated] using hnil
  · split at h <;> cases h
  · cases h

theorem resolve_some {typeName expression : String} {field : Field}
    (h : resolve typeName field = .ok (some expression)) : isGenerated field = true := by
  unfold resolve at h
  split at h
  · cases h
  · next directive hone =>
    have hmem : directive ∈ field.directives.filter (·.name = directiveName) := by
      rw [hone]
      exact List.mem_singleton_self directive
    obtain ⟨hin, hname⟩ := List.mem_filter.1 hmem
    exact List.any_eq_true.2 ⟨directive, hin, hname⟩
  · cases h

/-- The calls for a field that answer with the given values, one for each document. -/
def fieldCalls (count : Nat) (typeName : String) (field : Field) (answers : Nat → Json) : List Call :=
  match resolve typeName field with
  | .ok (some expression) => (List.range count).map fun index => ⟨expression, .ok (answers index)⟩
  | _ => []

/-- What the document set of a type holds, given the answers by field and document: as many documents as
asked for; the names of generated fields as keys, in the order in which they first occur; and as the value of
a key the answer for the last generated field of that name. -/
structure Holds (count : Nat) (type : ObjectType) (answers : Nat → Nat → Json) (set : DocumentSet) :
    Prop where
  typeName : set.typeName = type.name
  length : set.documents.length = count
  keys : ∀ document ∈ set.documents, document.map (·.1) = (generatedNames type.fields).eraseDups
  value : ∀ index document, set.documents[index]? = some document → ∀ j field,
    type.fields[j]? = some field → isGenerated field → (∀ l later, j < l →
      type.fields[l]? = some later → isGenerated later → later.name ≠ field.name) →
    Json.member? document field.name = some (answers j index)
  generatedFields : set.generatedFields = generatedNames type.fields
  skippedFields : set.skippedFields = plainNames type.fields

/-! ## The documents of answers -/

/-- A document with the value of a further field, if that is generated. -/
def grownBy (field : Field) (value : Json) (document : Document) : Document :=
  if isGenerated field then Json.setMember document field.name value else document

/-- A document with the values of further fields, given by position. -/
def grown : (fields : List Field) → (values : Nat → Json) → Document → Document
  | [], _, document => document
  | field :: rest, values, document =>
    grown rest (fun j => values (j + 1)) (grownBy field (values 0) document)

theorem keys_grownBy (field : Field) (value : Json) (document : Document) (names : List String)
    (h : document.map (·.1) = names.eraseDups) :
    (grownBy field value document).map (·.1) = (names ++ generatedNames [field]).eraseDups := by
  unfold grownBy generatedNames
  cases hg : isGenerated field with
  | false => simp [hg, h]
  | true =>
    rw [if_pos rfl, Json.keys_setMember, h, List.eraseDups_append]
    by_cases hmem : field.name ∈ names <;>
      simp [hg, hmem, List.removeAll, List.mem_eraseDups, List.eraseDups_cons]

/-- The keys come in the order of their first occurrence. -/
theorem keys_grown (fields : List Field) (values : Nat → Json) (document : Document)
    (names : List String) (h : document.map (·.1) = names.eraseDups) :
    (grown fields values document).map (·.1) = (names ++ generatedNames fields).eraseDups := by
  induction fields generalizing values document names with
  | nil => simpa [grown, generatedNames] using h
  | cons field rest ih =>
    have hnames : generatedNames (field :: rest) = generatedNames [field] ++ generatedNames rest := by
      rw [generatedNames, ← List.singleton_append, List.filter_append, List.map_append]
      rfl
    rw [grown, ih _ _ _ (keys_grownBy field (values 0) document names h), hnames, List.append_assoc]

/-- Fields of other names leave the value of a key alone. -/
theorem lookup_grown_of_ne (fields : List Field) (values : Nat → Json) (document : Document)
    (key : String) (h : ∀ field ∈ fields, isGenerated field → field.name ≠ key) :
    (grown fields values document).lookup key = document.lookup key := by
  induction fields generalizing values document with
  | nil => rfl
  | cons field rest ih =>
    rw [grown, ih _ _ fun other hmem => h other (List.mem_cons_of_mem field hmem), grownBy]
    split
    · next hg => exact Json.lookup_setMember_ne document (values 0) (h field List.mem_cons_self hg)
    · rfl

/-- The value of a key is that of the last generated field of its name. -/
theorem lookup_grown (fields : List Field) (values : Nat → Json) (document : Document) (j : Nat)
    (field : Field) (hj : fields[j]? = some field) (hg : isGenerated field)
    (hlast : ∀ l later, j < l → fields[l]? = some later → isGenerated later →
      later.name ≠ field.name) :
    (grown fields values document).lookup field.name = some (values j) := by
  induction fields generalizing values document j with
  | nil => cases hj
  | cons first rest ih =>
    cases j with
    | zero =>
      cases hj
      rw [grown, lookup_grown_of_ne, grownBy, if_pos hg, Json.lookup_setMember_self]
      intro other hmem hother
      obtain ⟨l, hl⟩ := List.mem_iff_getElem?.1 hmem
      exact hlast (l + 1) other (Nat.succ_pos l) hl hother
    | succ j =>
      exact ih _ _ j hj fun l later hjl hl => hlast (l + 1) later (Nat.succ_lt_succ hjl) hl

/-! ## From the calls to the documents -/

variable {σ : Type} {ev : Evaluator σ}

/-- A trace with further calls. -/
def Trace.add (t : Trace) (calls : List Call) : Trace := { t with calls := t.calls ++ calls }

theorem Trace.add_add (t : Trace) (first second : List Call) :
    (t.add first).add second = t.add (first ++ second) := by
  rw [add, add, add, List.append_assoc]

theorem Trace.add_nil (t : Trace) : t.add [] = t := by
  rw [add, List.append_nil]

/-- The answer for the first index put before those for the others. -/
theorem map_range'_override {β : Type} (f : Nat → Json → β) (answers : Nat → Json) (value : Json)
    (index n : Nat) :
    (List.range' index (n + 1)).map (fun i => f i (if i = index then value else answers i)) =
      f index value :: (List.range' (index + 1) n).map fun i => f i (answers i) := by
  rw [List.range'_succ, List.map_cons, if_pos rfl]
  refine congrArg _ (List.map_congr_left fun i hi => ?_)
  have hlt : index < i := (List.mem_range'_1.1 hi).1
  rw [if_neg (Nat.ne_of_gt hlt)]

theorem fillField_ok {typeName field expression : String} (D : Nat → Document) {index n : Nat}
    {filled : List Document} {s s' : σ} {t t' : Trace}
    (h : fillField ev.traced typeName field expression index ((List.range' index n).map D) (s, t) =
      (.ok filled, s', t')) :
    ∃ answers : Nat → Json,
      filled = (List.range' index n).map (fun i => Json.setMember (D i) field (answers i)) ∧
      t' = t.add ((List.range' index n).map fun i => ⟨expression, .ok (answers i)⟩) := by
  -- By induction on the documents that are left; the answer at the first index is put before the others.
  induction n generalizing index filled s t with
  | zero =>
    cases h
    exact ⟨fun _ => .null, rfl, (Trace.add_nil _).symm⟩
  | succ n ih =>
    rw [List.range'_succ, List.map_cons, fillField, Runs.lift_bind, traced_evaluate] at h
    rcases hev : ev.evaluate expression s with ⟨source | value, s₁⟩
    · rw [hev] at h
      cases h
    · rw [hev] at h
      obtain ⟨rest, ⟨s₂, t₂⟩, hrest, hpure⟩ := Runs.bind_eq_ok h
      cases hpure
      obtain ⟨answers, hfilled, htrace⟩ := ih hrest
      refine ⟨fun i => if i = index then value else answers i, ?_, ?_⟩
      · rw [map_range'_override fun i answer => Json.setMember (D i) field answer, hfilled]
      · rw [map_range'_override fun _ answer => (⟨expression, .ok answer⟩ : Call), htrace]
        exact Trace.add_add t [_] _

/-- A set with further fields, whose documents were `D`. -/
def DocumentSet.with (set : DocumentSet) (count : Nat) (D : Nat → Document) (fields : List Field)
    (answers : Nat → Nat → Json) : DocumentSet :=
  ⟨set.typeName, (List.range count).map fun i => grown fields (answers · i) (D i),
    set.generatedFields ++ generatedNames fields, set.skippedFields ++ plainNames fields⟩

theorem addField_ok {count : Nat} {D : Nat → Document} {set next : DocumentSet} {field : Field}
    {s s' : σ} {t t' : Trace} (hdocs : set.documents = (List.range count).map D)
    (h : addField ev.traced set field (s, t) = (.ok next, s', t')) :
    ∃ answers : Nat → Json, next = set.with count D [field] (fun _ => answers) ∧
      t' = t.add (fieldCalls count set.typeName field answers) := by
  unfold addField at h
  unfold fieldCalls
  -- A field may not be resolved, may have no directive and be left out, or has an expression and is filled.
  rcases hr : resolve set.typeName field with e | _ | expression
  · rw [hr] at h
    cases h
  · rw [hr] at h
    cases h
    have hg := resolve_none hr
    refine ⟨fun _ => .null, ?_, (Trace.add_nil _).symm⟩
    simp [DocumentSet.with, grown, grownBy, generatedNames, plainNames, hg, hdocs]
  · rw [hr] at h
    obtain ⟨documents, ⟨s₁, t₁⟩, hfill, hpure⟩ := Runs.bind_eq_ok h
    cases hpure
    rw [hdocs, List.range_eq_range'] at hfill
    obtain ⟨answers, rfl, htrace⟩ := fillField_ok D hfill
    have hg := resolve_some hr
    refine ⟨answers, ?_, ?_⟩
    · simp [DocumentSet.with, grown, grownBy, generatedNames, plainNames, hg, List.range_eq_range']
    · rw [htrace, List.range_eq_range']

theorem flatMap_zipIdx_cons {α β : Type} (f : α × Nat → List β) (x : α) (xs : List α) :
    (x :: xs).zipIdx.flatMap f = f (x, 0) ++ xs.zipIdx.flatMap fun p => f (p.1, p.2 + 1) := by
  rw [List.zipIdx_cons, List.flatMap_cons, List.zipIdx_succ, List.flatMap_map]

/-- The calls for some fields, given the answers by position and document. -/
def fieldsCalls (count : Nat) (typeName : String) (fields : List Field) (answers : Nat → Nat → Json) :
    List Call :=
  fields.zipIdx.flatMap fun (field, j) => fieldCalls count typeName field (answers j)

theorem fieldsCalls_cons (count : Nat) (typeName : String) (field : Field) (rest : List Field)
    (answers : Nat → Nat → Json) :
    fieldsCalls count typeName (field :: rest) answers =
      fieldCalls count typeName field (answers 0) ++
        fieldsCalls count typeName rest fun j => answers (j + 1) :=
  flatMap_zipIdx_cons _ field rest

theorem addFields_ok {count : Nat} {fields : List Field} {D : Nat → Document}
    {set last : DocumentSet} {s s' : σ} {t t' : Trace}
    (hdocs : set.documents = (List.range count).map D)
    (h : fields.foldlM (addField ev.traced) set (s, t) = (.ok last, s', t')) :
    ∃ answers : Nat → Nat → Json, last = set.with count D fields answers ∧
      t' = t.add (fieldsCalls count set.typeName fields answers) := by
  induction fields generalizing D set s t with
  | nil =>
    cases h
    refine ⟨fun _ _ => .null, ?_, (Trace.add_nil _).symm⟩
    show last = ⟨last.typeName, (List.range count).map D, last.generatedFields ++ [],
      last.skippedFields ++ []⟩
    rw [← hdocs, List.append_nil, List.append_nil]
  | cons field rest ih =>
    rw [List.foldlM_cons] at h
    obtain ⟨next, ⟨s₁, t₁⟩, hfield, hrest⟩ := Runs.bind_eq_ok h
    obtain ⟨first, rfl, rfl⟩ := addField_ok hdocs hfield
    obtain ⟨others, rfl, rfl⟩ := ih rfl hrest
    refine ⟨fun | 0 => first | j + 1 => others j, ?_, ?_⟩
    · simp only [DocumentSet.with, grown, generatedNames, plainNames, List.append_assoc,
        ← List.map_append, ← List.filter_append, List.singleton_append]
    · rw [Trace.add_add, fieldsCalls_cons]
      rfl

/-- A set grown from empty documents holds what it should. -/
theorem holds_with (count : Nat) (type : ObjectType) (answers : Nat → Nat → Json) :
    Holds count type answers
      (DocumentSet.with ⟨type.name, List.replicate count [], [], []⟩ count (fun _ => []) type.fields
        answers) where
  typeName := rfl
  length := by rw [DocumentSet.with, List.length_map, List.length_range]
  keys := by
    intro document hmem
    obtain ⟨i, -, rfl⟩ := List.mem_map.1 hmem
    exact keys_grown type.fields (answers · i) [] [] rfl
  value := by
    intro index document hdoc j field hj hg hlast
    rw [DocumentSet.with, List.getElem?_map, Option.map_eq_some_iff] at hdoc
    obtain ⟨i, hi, rfl⟩ := hdoc
    obtain ⟨hlt, rfl⟩ := List.getElem?_eq_some_iff.1 hi
    rw [List.getElem_range]
    exact lookup_grown type.fields (answers · index) [] j field hj hg hlast
  generatedFields := rfl
  skippedFields := rfl

theorem replicate_eq_map_range (count : Nat) :
    List.replicate count ([] : Document) = (List.range count).map fun _ => [] := by
  rw [List.map_const', List.length_range]

theorem assembleType_ok {count : Nat} {type : ObjectType} {set? : Option DocumentSet} {s s' : σ}
    {t t' : Trace} (h : assembleType ev.traced count type (s, t) = (.ok set?, s', t')) :
    ∃ answers : Nat → Nat → Json,
      t' = t.add (fieldsCalls count type.name type.fields answers) ∧
      if type.fields.isEmpty then set? = none else ∃ set, set? = some set ∧ Holds count type answers set := by
  unfold assembleType at h
  split at h
  · next hempty =>
    cases h
    refine ⟨fun _ _ => .null, ?_, by rw [if_pos hempty]⟩
    rw [List.isEmpty_iff.1 hempty]
    exact (Trace.add_nil _).symm
  · next hfields =>
    obtain ⟨set, ⟨s₁, t₁⟩, hset, hpure⟩ := Runs.bind_eq_ok h
    cases hpure
    obtain ⟨answers, rfl, htrace⟩ := addFields_ok (replicate_eq_map_range count) hset
    refine ⟨answers, htrace, ?_⟩
    rw [if_neg hfields]
    exact ⟨_, rfl, holds_with count type answers⟩

/-- The calls for some types, given the answers by type, field and document. -/
def typesCalls (count : Nat) (types : List ObjectType) (answers : Nat → Nat → Nat → Json) : List Call :=
  types.zipIdx.flatMap fun (type, k) => fieldsCalls count type.name type.fields (answers k)

theorem typesCalls_cons (count : Nat) (type : ObjectType) (rest : List ObjectType)
    (answers : Nat → Nat → Nat → Json) :
    typesCalls count (type :: rest) answers =
      fieldsCalls count type.name type.fields (answers 0) ++
        typesCalls count rest fun k => answers (k + 1) :=
  flatMap_zipIdx_cons _ type rest

/-- The answers for a type before those for others. -/
def consAnswers (first : Nat → Nat → Json) (more : Nat → Nat → Nat → Json) : Nat → Nat → Nat → Json
  | 0 => first
  | k + 1 => more k

/-- One set for each type with fields, holding the answers for that type. -/
def HoldEach (count : Nat) (types : List ObjectType) (answers : Nat → Nat → Nat → Json)
    (sets : List DocumentSet) : Prop :=
  List.Forall₂ (fun (p : ObjectType × Nat) set => Holds count p.1 (answers p.2) set)
    (types.zipIdx.filter fun p => !p.1.fields.isEmpty) sets

theorem HoldEach.shift {count : Nat} {types : List ObjectType} {answers : Nat → Nat → Nat → Json}
    {sets : List DocumentSet} (h : HoldEach count types (fun k => answers (k + 1)) sets) :
    List.Forall₂ (fun (p : ObjectType × Nat) set => Holds count p.1 (answers p.2) set)
      ((types.zipIdx 1).filter fun p => !p.1.fields.isEmpty) sets := by
  rw [List.zipIdx_succ, List.filter_map, List.forall₂_map_left_iff]
  exact h

theorem assembleTypes_ok {count : Nat} {types : List ObjectType} {sets : List DocumentSet}
    {s s' : σ} {t t' : Trace}
    (h : assembleTypes ev.traced count types (s, t) = (.ok sets, s', t')) :
    ∃ answers : Nat → Nat → Nat → Json,
      t' = ⟨t.visited ++ types, t.calls ++ typesCalls count types answers⟩ ∧
      HoldEach count types answers sets := by
  -- The answers of the first type stand before those of the others, whose types are counted from one.
  induction types generalizing sets s t with
  | nil =>
    cases h
    refine ⟨fun _ _ _ => .null, ?_, List.Forall₂.nil⟩
    rw [List.append_nil, typesCalls, List.zipIdx_nil, List.flatMap_nil, List.append_nil]
  | cons type rest ih =>
    rw [assembleTypes, Runs.lift_bind] at h
    obtain ⟨set?, ⟨s₁, t₁⟩, hset, hrest⟩ := Runs.bind_eq_ok h
    obtain ⟨others, ⟨s₂, t₂⟩, hothers, hpure⟩ := Runs.bind_eq_ok hrest
    cases hpure
    obtain ⟨first, rfl, hfirst⟩ := assembleType_ok hset
    obtain ⟨more, rfl, hmore⟩ := ih hothers
    refine ⟨consAnswers first more, ?_, ?_⟩
    · rw [typesCalls_cons, Trace.add, List.append_assoc, List.append_assoc, List.singleton_append]
      rfl
    · have htail := @HoldEach.shift count rest (consAnswers first more) others hmore
      unfold HoldEach
      rw [List.zipIdx_cons]
      split at hfirst
      · next hempty =>
        subst hfirst
        rw [List.filter_cons_of_neg (by simp [hempty])]
        exact htail
      · next hfields =>
        obtain ⟨set, rfl, hholds⟩ := hfirst
        rw [List.filter_cons_of_pos (by simpa using hfields)]
        exact List.Forall₂.cons hholds htail

/-! ## A successful assembly -/

/-- A successful assembly gives one document set for each type with fields, in source order. There is a
table of answers, by type, field and document, such that the evaluator was asked for just these answers, in
the order of the types, their fields and their documents, and each set holds the answers of its type. -/
theorem assemble_ok_holdEach {ev : Evaluator σ} {count : Nat} {schema : Schema} {s s' : σ}
    {sets : List DocumentSet} (h : assemble ev count schema s = (.ok sets, s')) :
    ∃ answers : Nat → Nat → Nat → Json,
      assemble ev.traced count schema (s, {}) =
        (.ok sets, s', ⟨schema.types, typesCalls count schema.types answers⟩) ∧
      HoldEach count schema.types answers sets := by
  have hmirror := assemble_traced ev count schema s {}
  rw [h] at hmirror
  rcases htraced : assemble ev.traced count schema (s, {}) with ⟨result, s₁, t⟩
  rw [htraced] at hmirror
  cases hmirror
  obtain ⟨answers, rfl, hold⟩ := assembleTypes_ok htraced
  exact ⟨answers, by rw [List.nil_append, List.nil_append], hold⟩

/-- An evaluator that answers with the number of calls before. -/
def counting : Evaluator Nat where
  begin _ := pure ()
  evaluate _ := fun n => (.ok (.int n), n + 1)

/-- A field with the generating directive. -/
def generatedField (name expression : String) : Field :=
  ⟨name, [⟨directiveName, [⟨argumentName, expression⟩]⟩]⟩

/-- A schema with a repeated field and a type without fields. -/
def repeatedField : Schema :=
  ⟨[⟨"A", [generatedField "x" "1", ⟨"z", []⟩, generatedField "y" "2", generatedField "x" "3"]⟩,
    ⟨"E", []⟩]⟩

/-- The documents of `repeatedField` have the value of its second `x` at the place of the first. -/
theorem assemble_counting_holdEach :
    let sets : List DocumentSet := [⟨"A", [[("x", .int 4), ("y", .int 2)], [("x", .int 5), ("y", .int 3)]],
      ["x", "y", "x"], ["z"]⟩]
    assemble counting 2 repeatedField 0 = (.ok sets, 6) ∧
      ∃ answers : Nat → Nat → Nat → Json,
        assemble counting.traced 2 repeatedField (0, {}) =
          (.ok sets, 6, ⟨repeatedField.types, typesCalls 2 repeatedField.types answers⟩) ∧
        HoldEach 2 repeatedField.types answers sets :=
  ⟨rfl, assemble_ok_holdEach rfl⟩

end Fixtures.Generation
