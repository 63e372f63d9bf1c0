import Fixtures.Proofs.Assembly.Documents
import Fixtures.Proofs.CommandLine.Stages

/-!
# What a report accounts for

The report of a run is put together from two walks: one over the types of the schema, which collects the names of
those without fields, and one over the document sets that were assembled and written. The two agree on which
types have fields, so that together they give each type of the schema once.

## Main results

* `run_accounts`: the report of a run that succeeds accounts for its schema, for every schema, all options and
  whatever the journal and the workspace are.

## Shape of the proof

* `Parts` is a list taken apart into the chosen and the other elements, each in order, such that merging the two
  by position gives the list back. `Parts.of_filter` holds for any choice; it is used for the types of a schema
  and for the fields of each type.
* `entries_of_writeSets` and `forall₂_holds` are the second walk: an entry for each set and a set for each type
  with fields, both in order.
-/

namespace Fixtures.Generation

open Log (Journal)
open Runs

/-! ## Lists in two parts -/

section Parts

variable {α β : Type}

/-- Two lists put together by marks: a mark that is set takes an element of the first list, one that is not takes
an element of the second. -/
def merge : List Bool → List β → List β → List β
  | true :: marks, x :: chosen, others => x :: merge marks chosen others
  | false :: marks, chosen, x :: others => x :: merge marks chosen others
  | _, _, _ => []

/-- The elements of a list under other names, in two parts: those chosen and the others, each in order. By their
positions the two parts are merged to all of them, and no element is left over. -/
structure Parts (choice : α → Bool) (name : α → β) (whole : List α) (chosen others : List β) : Prop where
  chosen_eq : chosen = (whole.filter choice).map name
  others_eq : others = (whole.filter (!choice ·)).map name
  merged : merge (whole.map choice) chosen others = whole.map name
  length : chosen.length + others.length = whole.length

/-- Merging by position undoes a choice. -/
theorem merge_filter (choice : α → Bool) (name : α → β) (whole : List α) :
    merge (whole.map choice) ((whole.filter choice).map name) ((whole.filter (!choice ·)).map name) =
      whole.map name := by
  induction whole with
  | nil => rfl
  | cons x rest ih =>
    rw [List.map_cons, List.map_cons]
    cases chosen : choice x with
    | true =>
      rw [List.filter_cons_of_pos chosen, List.filter_cons_of_neg (by simp [chosen]), List.map_cons, merge, ih]
    | false =>
      rw [List.filter_cons_of_neg (by simp [chosen]), List.filter_cons_of_pos (by simp [chosen]), List.map_cons,
        merge, ih]

/-- Every choice takes a list apart. -/
theorem Parts.of_filter (choice : α → Bool) (name : α → β) (whole : List α) :
    Parts choice name whole ((whole.filter choice).map name) ((whole.filter (!choice ·)).map name) where
  chosen_eq := rfl
  others_eq := rfl
  merged := merge_filter choice name whole
  length := by
    rw [List.length_map, List.length_map]
    exact (List.length_eq_length_filter_add choice).symm

end Parts

/-! ## Entries and reports -/

/-- The entry of a report for a type: it has the number of documents asked for, the path of the file of the type,
and the fields of the type in two parts, those generated and those left out. -/
structure EntryFor (options : Options) (type : ObjectType) (entry : TypeReport) : Prop where
  typeName : entry.typeName = type.name
  documents : entry.documents = options.documents.val
  fields : Parts isGenerated (·.name) type.fields entry.fieldsGenerated entry.fieldsSkipped
  path : entry.path = outputPath options.outDir type.name

/-- A report that accounts for a schema: it has an entry for each type with fields, in order, and the names of the
other types, in order; both together give the types of the schema; and it counts the documents of all types. -/
structure Accounts (options : Options) (schema : Schema) (report : Report) : Prop where
  entries : List.Forall₂ (EntryFor options) (schema.types.filter (!·.fields.isEmpty)) report.types
  types : Parts (!·.fields.isEmpty) (·.name) schema.types (report.types.map (·.typeName)) report.skippedTypes
  total : report.documentsTotal =
    options.documents.val * (schema.types.filter (!·.fields.isEmpty)).length

/-- Entries for some types add the same number of documents for each to a total. -/
theorem sum_of_entries {options : Options} {types : List ObjectType} {entries : List TypeReport}
    (each : List.Forall₂ (EntryFor options) types entries) (start : Nat) :
    entries.foldl (fun total entry => total + entry.documents) start =
      start + options.documents.val * types.length := by
  induction each generalizing start with
  | nil => rfl
  | cons first _ ih =>
    rw [List.foldl_cons, ih, first.documents, List.length_cons, Nat.mul_succ]
    omega

/-! ## Sets and their entries -/

/-- Writing a set gives the path of its type. -/
theorem path_of_writeDocuments {outDir typeName path : String} {documents : List Document} {w w' : Workspace}
    (h : writeDocuments (m := StateM Workspace) outDir typeName documents w = (.ok path, w')) :
    path = outputPath outDir typeName := by
  obtain ⟨_, _, -, given⟩ := bind_eq_ok h
  cases given
  rfl

/-- Sets that are written are announced in order, whatever the journal does. -/
theorem entries_of_writeSets {journal : Journal} {outDir : String} {sets : List DocumentSet} {w w' : Workspace}
    {entries : List TypeReport}
    (h : writeSets (m := StateM Workspace) journal outDir sets w = (.ok entries, w')) :
    entries = sets.map (announce outDir) := by
  induction sets generalizing w entries with
  | nil =>
    cases h
    rfl
  | cons set rest ih =>
    obtain ⟨path, w₁, wrote, recorded⟩ := bind_eq_ok h
    rw [lift_bind] at recorded
    obtain ⟨others, w₂, wroteOthers, given⟩ := bind_eq_ok recorded
    cases given
    rw [path_of_writeDocuments wrote, ih wroteOthers]
    rfl

/-- A successful assembly has a set for each type with fields, in order. -/
theorem forall₂_holds {σ : Type} {ev : Evaluator σ} {count : Nat} {schema : Schema} {s s' : σ}
    {sets : List DocumentSet} (h : assemble ev count schema s = (.ok sets, s')) :
    List.Forall₂ (fun type set => ∃ answers, Holds count type answers set)
      (schema.types.filter (!·.fields.isEmpty)) sets := by
  obtain ⟨answers, -, hold⟩ := assemble_ok_holdEach h
  have positions : schema.types.filter (!·.fields.isEmpty) =
      (schema.types.zipIdx.filter fun p => !p.1.fields.isEmpty).map Prod.fst := by
    conv_lhs => rw [← List.zipIdx_map_fst 0 schema.types, List.filter_map]
    rfl
  rw [positions, List.forall₂_map_left_iff]
  exact hold.imp fun p set holds => ⟨answers p.2, holds⟩

/-- The entry of a set that holds the documents of a type. -/
theorem entryFor_announce {options : Options} {type : ObjectType} {answers : Nat → Nat → Json}
    {set : DocumentSet} (holds : Holds options.documents.val type answers set) :
    EntryFor options type (announce options.outDir set) where
  typeName := holds.typeName
  documents := holds.length
  fields := by
    show Parts isGenerated (·.name) type.fields set.generatedFields set.skippedFields
    rw [holds.generatedFields, holds.skippedFields]
    exact Parts.of_filter isGenerated (·.name) type.fields
  path := congrArg (outputPath options.outDir) holds.typeName

/-- The report of a run that succeeds accounts for the schema, whatever its types and fields are called. -/
theorem run_accounts {journal : Journal} {options : Options} {schema : Schema} {w w' : Workspace}
    {report : Report} (ran : run (m := StateM Workspace) journal options schema w = (.ok report, w')) :
    Accounts options schema report := by
  rw [CommandLine.run_stages] at ran
  split at ran
  · cases ran
  next sets assembled =>
  split at ran
  · cases ran
  next entries w₁ wrote =>
  cases ran
  obtain rfl := entries_of_writeSets wrote
  have holds := forall₂_holds (assembleTypes_of_seeded assembled)
  -- The entries are about the types with fields and the skipped names about the others: a split of the schema.
  have names : (sets.map (announce options.outDir)).map (·.typeName) =
      (schema.types.filter (!·.fields.isEmpty)).map (·.name) := by
    rw [List.map_map]
    exact (assembleSeeded_names assembled).1
  have skipped : skippedTypes schema = (schema.types.filter (!!·.fields.isEmpty)).map (·.name) := by
    simp only [skippedTypes, Bool.not_not]
  have entries : List.Forall₂ (EntryFor options) (schema.types.filter (!·.fields.isEmpty))
      (sets.map (announce options.outDir)) := by
    rw [List.forall₂_map_right_iff]
    exact holds.imp fun type set ⟨answers, own⟩ => entryFor_announce own
  refine ⟨entries, ?_, (sum_of_entries entries 0).trans (Nat.zero_add _)⟩
  show Parts _ _ schema.types ((sets.map (announce options.outDir)).map (·.typeName)) (skippedTypes schema)
  rw [names, skipped]
  exact Parts.of_filter (!·.fields.isEmpty) (·.name) schema.types

/-- A schema with a name that is used twice, a type without fields between and fields with and without the
directive. -/
def ledger : Schema :=
  ⟨[⟨"A", [generatedField "x" "1", ⟨"y", []⟩]⟩, ⟨"E", []⟩, ⟨"A", [⟨"z", []⟩]⟩]⟩

/-- What a run with two documents of each type reports of it. -/
def ledgerReport : Report :=
  ⟨1, [⟨"A", 2, ["x"], ["y"], "out/A.json"⟩, ⟨"A", 2, [], ["z"], "out/A.json"⟩], ["E"], 0⟩

/-- A run on this schema, whose report accounts for it. -/
theorem run_ledger_accounts :
    let options : Options := ⟨"out", ⟨2, by decide, by decide⟩, some 1⟩
    (run (m := StateM Workspace) .silent options ledger (.empty 0 0)).1 = .ok ledgerReport ∧
      Accounts options ledger ledgerReport := by
  intro options
  have reported : (run (m := StateM Workspace) .silent options ledger (.empty 0 0)).1.toOption =
      some ledgerReport := by decide +kernel
  exact ⟨except_eq_ok_of_toOption reported, run_accounts (eq_ok_of_toOption reported)⟩

end Fixtures.Generation
