import Fixtures.Proofs.Assembly.Documents

/-!
# Types that grow at their end

Fields that are written behind the others are evaluated after them, and their members come after those of the
others. So a type that grows at its end keeps what its documents begin with, and fields without the directive,
wherever they are put, are not noticed but in the list of fields that were skipped (`assembleType_append`).

## Shape of the proof

An assembly of fields that succeeds is one of the first fields and then one of the others, from the state and the
documents that the first left. Values under keys that a document does not have yet go behind it (`grown_append`).
For the second part `addFields_skipping` leaves out the fields without the directive: adding them changes nothing
but the list of skipped fields, and adding others does not look at that list.
-/

namespace Fixtures.Generation

variable {σ : Type} {ev : Evaluator σ}

/-! ## Members behind a document -/

/-- A key that the front of a document does not have is looked for behind it. -/
theorem setMember_append {front : Document} {key : String} (fresh : key ∉ front.map (·.1)) (value : Json)
    (tail : Document) : Json.setMember (front ++ tail) key value = front ++ Json.setMember tail key value := by
  induction front with
  | nil => rfl
  | cons member rest ih =>
    obtain ⟨k, v⟩ := member
    rw [List.map_cons, List.mem_cons, not_or] at fresh
    rw [List.cons_append, Json.setMember, if_neg (Ne.symm fresh.1), ih fresh.2, List.cons_append]

/-- Fields whose names the front of a document does not have put their values behind it. -/
theorem grown_append {front : Document} {fields : List Field}
    (fresh : ∀ name ∈ generatedNames fields, name ∉ front.map (·.1)) (values : Nat → Json) (tail : Document) :
    grown fields values (front ++ tail) = front ++ grown fields values tail := by
  induction fields generalizing values tail with
  | nil => rfl
  | cons field rest ih =>
    have later : ∀ name ∈ generatedNames rest, name ∉ front.map (·.1) := by
      intro name hname
      refine fresh name ?_
      rw [generatedNames, List.filter_cons]
      split
      · exact List.mem_cons_of_mem field.name hname
      · exact hname
    rw [grown, grown]
    by_cases generated : isGenerated field
    · -- The key may stand in the tail already, but not in the front.
      have first : field.name ∉ front.map (·.1) := by
        refine fresh field.name ?_
        rw [generatedNames, List.filter_cons_of_pos generated]
        exact List.mem_cons_self
      rw [grownBy, if_pos generated, setMember_append first, ih later, grownBy, if_pos generated]
    · rw [grownBy, if_neg generated, ih later, grownBy, if_neg generated]

/-- Adding fields grows every document by answers for them. -/
theorem addFields_grown {count : Nat} {fields : List Field} {D : Nat → Document} {set last : DocumentSet}
    {s s' : σ} (hdocs : set.documents = (List.range count).map D)
    (h : fields.foldlM (addField ev) set s = (.ok last, s')) :
    ∃ answers : Nat → Nat → Json,
      last.documents = (List.range count).map fun i => grown fields (answers · i) (D i) := by
  obtain ⟨t', traced⟩ := (addFields_traced ev fields set).ok h {}
  obtain ⟨answers, rfl, -⟩ := addFields_ok hdocs traced
  exact ⟨answers, rfl⟩

/-! ## Fields that are skipped -/

/-- A document set with other names in place of those of the skipped fields. -/
def DocumentSet.skipping (set : DocumentSet) (names : List String) : DocumentSet :=
  { set with skippedFields := names }

/-- A field without the directive is skipped. -/
theorem addField_plain {field : Field} (plain : isGenerated field = false) (set : DocumentSet) :
    addField ev set field = pure (set.skipping (set.skippedFields ++ [field.name])) := by
  have none : resolve set.typeName field = .ok none := by
    have unmarked : field.directives.filter (·.name = directiveName) = [] := by simpa [isGenerated] using plain
    rw [resolve, unmarked]
  rw [addField, none]
  rfl

/-- Adding a generated field does not look at the fields skipped so far. -/
theorem addField_skipping {field : Field} (generated : isGenerated field) (set : DocumentSet)
    (names : List String) :
    addField ev (set.skipping names) field = (·.skipping names) <$> addField ev set field := by
  have same : resolve (set.skipping names).typeName field = resolve set.typeName field := rfl
  rw [addField, addField, same]
  rcases hr : resolve set.typeName field with e | _ | expression
  · rfl
  · rw [resolve_none hr] at generated
    cases generated
  · simp only [map_bind, map_pure]
    rfl

/-- Adding fields is adding those that are generated, and the others are skipped. -/
theorem addFields_skipping (fields : List Field) (set : DocumentSet) (names : List String) :
    fields.foldlM (addField ev) (set.skipping names) =
      (·.skipping (names ++ plainNames fields)) <$> (fields.filter isGenerated).foldlM (addField ev) set := by
  induction fields generalizing set names with
  | nil =>
    rw [plainNames, List.filter_nil, List.map_nil, List.append_nil]
    rfl
  | cons field rest ih =>
    rw [List.foldlM_cons]
    by_cases generated : isGenerated field
    · -- The field is added to the same documents whatever was skipped before it, so the names can wait.
      have names_eq : plainNames (field :: rest) = plainNames rest := by simp [plainNames, generated]
      rw [addField_skipping generated, List.filter_cons_of_pos generated, List.foldlM_cons, names_eq, bind_map_left,
        map_bind]
      exact congrArg _ (funext fun next => ih next names)
    · have plain : isGenerated field = false := by simpa using generated
      have names_eq : plainNames (field :: rest) = field.name :: plainNames rest := by simp [plainNames, plain]
      rw [addField_plain plain, pure_bind, List.filter_cons_of_neg generated, names_eq]
      simpa [DocumentSet.skipping] using ih set (names ++ [field.name])

/-- The fields of the second list are those of the first with fields without the directive put among them. -/
inductive Padded : List Field → List Field → Prop
  | nil : Padded [] []
  | keep {fields padded : List Field} (field : Field) : Padded fields padded →
    Padded (field :: fields) (field :: padded)
  | insert {fields padded : List Field} {field : Field} (plain : isGenerated field = false) :
    Padded fields padded → Padded fields (field :: padded)

theorem Padded.filter_eq {fields padded : List Field} (h : Padded fields padded) :
    padded.filter isGenerated = fields.filter isGenerated := by
  induction h with
  | nil => rfl
  | keep field _ ih => rw [List.filter_cons, List.filter_cons, ih]
  | insert plain _ ih => rw [List.filter_cons_of_neg (by simp [plain]), ih]

theorem Padded.ne_nil {fields padded : List Field} (h : Padded fields padded) (filled : fields ≠ []) :
    padded ≠ [] := by
  cases h with
  | nil => exact filled
  | keep | insert => exact List.cons_ne_nil _ _

/-- The documents of a type come from its generated fields, and the names of the others are noted. -/
theorem assembleType_eq (count : Nat) {type : ObjectType} (filled : type.fields ≠ []) :
    assembleType ev count type = (fun set => some (set.skipping (plainNames type.fields))) <$>
      (type.fields.filter isGenerated).foldlM (addField ev) ⟨type.name, List.replicate count [], [], []⟩ := by
  have all := @addFields_skipping σ ev type.fields ⟨type.name, List.replicate count [], [], []⟩ []
  rw [List.nil_append] at all
  rw [assembleType, if_neg (by simpa using filled)]
  show some <$> type.fields.foldlM (addField ev) _ = _
  exact (congrArg _ all).trans (Functor.map_map _ _ _)

/-- An assembly does not depend on fields without the directive but in the list of skipped fields. -/
theorem assembleType_padded (count : Nat) (name : String) {fields padded : List Field} (filled : fields ≠ [])
    (h : Padded fields padded) :
    assembleType ev count ⟨name, padded⟩ =
      Option.map (·.skipping (plainNames padded)) <$> assembleType ev count ⟨name, fields⟩ := by
  have short := @assembleType_eq σ ev count ⟨name, fields⟩ filled
  have long := @assembleType_eq σ ev count ⟨name, padded⟩ (h.ne_nil filled)
  rw [short, long, h.filter_eq, Functor.map_map]
  rfl

/-! ## Fields at the end -/

/-- An assembly of a type is one of its first fields and then one of the others. -/
theorem assembleType_first {count : Nat} {name : String} {fields more : List Field} (filled : fields ≠ [])
    {s s' : σ} {set? : Option DocumentSet}
    (h : assembleType ev count ⟨name, fields ++ more⟩ s = (.ok set?, s')) :
    ∃ first set s₁, set? = some set ∧ assembleType ev count ⟨name, fields⟩ s = (.ok (some first), s₁) ∧
      ((∀ key ∈ generatedNames more, key ∉ generatedNames fields) →
        first.documents = set.documents.map (List.take (generatedNames fields).eraseDups.length)) := by
  have filled' : fields ++ more ≠ [] := List.append_ne_nil_of_left_ne_nil filled more
  rw [assembleType, if_neg (by simpa using filled')] at h
  obtain ⟨set, s₂, hset, hpure⟩ := Runs.bind_eq_ok h
  cases hpure
  rw [List.foldlM_append] at hset
  obtain ⟨first, s₁, hfirst, hmore⟩ := Runs.bind_eq_ok hset
  refine ⟨first, set, s₁, rfl, ?_, fun apart => ?_⟩
  · rw [assembleType, if_neg (by simpa using filled), Runs.bind_apply, hfirst]
    rfl
  · obtain ⟨values, documents⟩ := addFields_grown (replicate_eq_map_range count) hfirst
    obtain ⟨others, grew⟩ := addFields_grown documents hmore
    rw [documents, grew, List.map_map]
    refine List.map_congr_left fun i _ => ?_
    -- The document that the first fields leave is the front that the other fields do not touch.
    have keys : (grown fields (values · i) []).map (·.1) = (generatedNames fields).eraseDups :=
      keys_grown fields (values · i) [] [] rfl
    have fresh : ∀ key ∈ generatedNames more, key ∉ (grown fields (values · i) []).map (·.1) := by
      intro key hkey
      rw [keys, List.mem_eraseDups]
      exact apart key hkey
    have behind := grown_append fresh (others · i) []
    rw [List.append_nil] at behind
    rw [Function.comp_apply, behind, ← keys, List.length_map, List.take_left]

/-- If the assembly of a type with some fields and then others succeeds, so does that of the type with the first
fields only, from the same state, whatever evaluates and for any number of documents. If none of the others has the
name of one of the first, each document of the first is that of all fields cut after the keys of the first. And
fields without the directive, put anywhere, are seen in the list of skipped fields only: the result and the state
behind it are the same, and so are the calls that the evaluator answers. A type without any fields is left out,
since it has no documents. -/
theorem assembleType_append (ev : Evaluator σ) (count : Nat) (name : String) {fields more : List Field}
    (filled : fields ≠ []) :
    (∀ s s' set?, assembleType ev count ⟨name, fields ++ more⟩ s = (.ok set?, s') →
      ∃ first set s₁, set? = some set ∧ assembleType ev count ⟨name, fields⟩ s = (.ok (some first), s₁) ∧
        ((∀ key ∈ generatedNames more, key ∉ generatedNames fields) →
          first.documents = set.documents.map (List.take (generatedNames fields).eraseDups.length))) ∧
    ∀ padded, Padded (fields ++ more) padded →
      assembleType ev count ⟨name, padded⟩ =
        Option.map (·.skipping (plainNames padded)) <$> assembleType ev count ⟨name, fields ++ more⟩ ∧
      ∀ s t, (assembleType ev.traced count ⟨name, padded⟩ (s, t)).2 =
        (assembleType ev.traced count ⟨name, fields ++ more⟩ (s, t)).2 := by
  have filled' : fields ++ more ≠ [] := List.append_ne_nil_of_left_ne_nil filled more
  refine ⟨fun _ _ _ h => assembleType_first filled h, fun padded h => ⟨assembleType_padded count name filled' h, ?_⟩⟩
  intro s t
  rw [assembleType_padded count name filled' h, Runs.map_apply]

/-- A type with fields `x` and `z` grows by `y`: the value of `x` stays what it was. A field `note` without the
directive is only skipped. -/
theorem assembleType_append_counting :
    let set : DocumentSet :=
      ⟨"A", [[("x", .int 0), ("y", .int 2)], [("x", .int 1), ("y", .int 3)]], ["x", "y"], ["z"]⟩
    let fields := [generatedField "x" "1", ⟨"z", []⟩]
    let more := [generatedField "y" "2"]
    fields ≠ [] ∧ assembleType counting 2 ⟨"A", fields ++ more⟩ 0 = (.ok (some set), 4) ∧
      (∃ first s₁, assembleType counting 2 ⟨"A", fields⟩ 0 = (.ok (some first), s₁) ∧
        first.documents = [[("x", .int 0)], [("x", .int 1)]]) ∧
      assembleType counting 2 ⟨"A", ⟨"note", []⟩ :: (fields ++ more)⟩ 0 =
        (.ok (some (set.skipping ["note", "z"])), 4) := by
  intro set fields more
  have filled : fields ≠ [] := List.cons_ne_nil _ _
  have whole : assembleType counting 2 ⟨"A", fields ++ more⟩ 0 = (.ok (some set), 4) := rfl
  obtain ⟨grows, padded⟩ := @assembleType_append Nat counting 2 "A" fields more filled
  obtain ⟨first, _, s₁, same, assembled, cut⟩ := grows 0 4 (some set) whole
  cases same
  have noted : Padded (fields ++ more) (⟨"note", []⟩ :: (fields ++ more)) :=
    .insert rfl (.keep _ (.keep _ (.keep _ .nil)))
  refine ⟨filled, whole, ⟨first, s₁, assembled, cut (by decide)⟩, ?_⟩
  rw [(padded _ noted).1, Runs.map_apply, whole]
  rfl

end Fixtures.Generation
