import Fixtures.Json.Decode

/-!
# Options and reports of a generation

The options of a run say where its files go, how many documents each type gets and which random stream
is used. The report of a run has an entry for each file written and the names of the types left out.
-/

namespace Fixtures.Generation

open Json (Decoder)

/-- A number of documents: at least one, and at most what 64 bits hold. -/
structure Count where
  val : Nat
  pos : 0 < val
  fits : val < UInt64.size
  deriving DecidableEq

namespace Count

/-- One document. -/
def one : Count := ⟨1, by decide, by decide⟩

instance : Inhabited Count := ⟨one⟩

/-- The count of a number, if it can be one. -/
def ofNat? (n : Nat) : Option Count :=
  if h : 0 < n ∧ n < UInt64.size then some ⟨n, h.1, h.2⟩ else none

/-- What a count is called where one is expected. -/
def expected : String := "a nonzero usize"

/-- Decodes a count. -/
def decode : Decoder Count :=
  Json.checked (Json.unsigned expected 1) fun n =>
    match ofNat? n with
    | some count => .ok count
    | none => .error (.invalidValue (.int n) expected)

end Count

/-- The options of a run. Without a seed one is drawn for the run. -/
structure Options where
  outDir : String
  documents : Count
  seed : Option UInt64

namespace Options

/-- Where files go unless said otherwise. -/
def defaultOutDir : String := "datagen"

/-- What a word of 64 bits is called where one is expected. -/
def expectedWord : String := "u64"

/-- Decodes a word of 64 bits. -/
def decodeWord : Decoder UInt64 := fun levels rest =>
  Json.mapOutcome UInt64.ofNat (Json.unsigned expectedWord 0 levels rest)

/-- Options as JSON. -/
def toJson (o : Options) : Json :=
  .object [("out_dir", .string o.outDir), ("documents", .int o.documents.val),
    ("seed", match o.seed with
      | some seed => .int seed.toNat
      | none => .null)]

/-- Decodes options. -/
def decode : Decoder Options :=
  Json.record "GenerateOptions"
    (.cons "out_dir" (Json.text "path string") none
      (.cons "documents" Count.decode none
        (.cons "seed" (Json.optional decodeWord) (some none) .nil)))
    fun (outDir, documents, seed, ()) => ⟨outDir, documents, seed⟩

end Options

/-- Texts as JSON. -/
def textsToJson (texts : List String) : Json := .array (texts.map .string)

/-- Decodes texts. -/
def decodeTexts : Decoder (List String) := Json.list (Json.text "a string")

/-- The entry of a report for the file of a type. -/
structure TypeReport where
  typeName : String
  documents : Nat
  fieldsGenerated : List String
  fieldsSkipped : List String
  path : String
  deriving DecidableEq

namespace TypeReport

/-- An entry as JSON. -/
def toJson (r : TypeReport) : Json :=
  .object [("type_name", .string r.typeName), ("documents", .int r.documents),
    ("fields_generated", textsToJson r.fieldsGenerated),
    ("fields_skipped", textsToJson r.fieldsSkipped), ("path", .string r.path)]

/-- Decodes an entry. -/
def decode : Decoder TypeReport :=
  Json.record "TypeReport"
    (.cons "type_name" (Json.text "a string") none
      (.cons "documents" (Json.unsigned "usize" 0) none
        (.cons "fields_generated" decodeTexts none
          (.cons "fields_skipped" decodeTexts none
            (.cons "path" (Json.text "path string") none .nil)))))
    fun (typeName, documents, fieldsGenerated, fieldsSkipped, path, ()) =>
      ⟨typeName, documents, fieldsGenerated, fieldsSkipped, path⟩

end TypeReport

/-- The report of a run. -/
structure Report where
  seed : UInt64
  types : List TypeReport
  /-- The types without fields, which have no documents. -/
  skippedTypes : List String
  /-- How long the run took, in milliseconds. -/
  duration : UInt64
  deriving DecidableEq

namespace Report

/-- The report of a run that begins. -/
def ofSeed (seed : UInt64) : Report := ⟨seed, [], [], 0⟩

/-- The number of documents of all types. -/
def documentsTotal (r : Report) : Nat := r.types.foldl (fun total t => total + t.documents) 0

/-- A report as JSON. -/
def toJson (r : Report) : Json :=
  .object [("seed", .int r.seed.toNat), ("types", .array (r.types.map TypeReport.toJson)),
    ("skipped_types", textsToJson r.skippedTypes), ("duration_ms", .int r.duration.toNat)]

/-- Decodes a report. -/
def decode : Decoder Report :=
  Json.record "GenerationReport"
    (.cons "seed" Options.decodeWord none
      (.cons "types" (Json.list TypeReport.decode) none
        (.cons "skipped_types" decodeTexts none
          (.cons "duration_ms" Options.decodeWord none .nil))))
    fun (seed, types, skippedTypes, duration, ()) => ⟨seed, types, skippedTypes, duration⟩

end Report

end Fixtures.Generation
