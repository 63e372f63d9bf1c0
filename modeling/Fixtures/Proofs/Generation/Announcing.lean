import Mathlib.Data.List.Forall2
import Mathlib.Data.List.Nodup
import Fixtures.Proofs.Generation.Running
import Fixtures.Proofs.Sdl.Names

/-!
# What a run announces

A run announces one entry for each type with fields, with the path of the file that it wrote for it. Types may
have the same name, and then they have the same path: the file there holds the documents of the last of them.

## Main results

* `run_holdsEach_iff`: what the files hold after a run on a schema that was read; the entries announced hold
  their own documents exactly if no two types with fields have the same name.
* `run_twins`: two types of the same name, the first of which loses its documents.
-/

namespace Fixtures.Generation

open Files (Tree)
open Runs

/-- Each entry of a report leads to a file with the documents of its set, and no two have the same path. -/
structure HoldsEach (entries : List TypeReport) (sets : List DocumentSet) (t : Tree) : Prop where
  own : List.Forall₂ (fun entry set => t.read entry.path = .ok (.text (documentsText set.documents)))
    entries sets
  apart : (entries.map (·.path)).Nodup

/-- Different names have different paths. -/
theorem outputPath_inj {outDir a b : String} (ha : IsSlashless a) (hb : IsSlashless b)
    (h : outputPath outDir a = outputPath outDir b) : a = b := by
  have last := congrArg Files.Path.fileName? h
  rw [outputPath_eq, outputPath_eq, Files.Path.fileName?_join _ (documentsName_plain ha),
    Files.Path.fileName?_join _ (documentsName_plain hb)] at last
  exact documentsName_inj (Option.some.inj last)

section Written

variable {outDir : String} {sets : List DocumentSet} {t t' : Tree}

/-- The path of each set holds the documents of the last set of its name. -/
theorem SetsWritten.read_last (h : SetsWritten outDir sets t t') {set : DocumentSet} (hset : set ∈ sets) :
    ∃ last, lastOf sets set.typeName = some last ∧
      t'.read (outputPath outDir set.typeName) = .ok (.text (documentsText last.documents)) := by
  obtain ⟨last, hlast⟩ := Option.isSome_iff_exists.1 (lastOf_isSome.2 ⟨set, hset, rfl⟩)
  obtain ⟨reached, there⟩ := h.announced hlast
  exact ⟨last, hlast, reached.read there⟩

/-- The entries hold their own documents exactly if the names of the sets are distinct. -/
theorem SetsWritten.holdsEach_iff (h : SetsWritten outDir sets t t')
    (slashless : ∀ set ∈ sets, IsSlashless set.typeName) :
    HoldsEach (sets.map (announce outDir)) sets t' ↔ (sets.map (·.typeName)).Nodup := by
  have paths : (sets.map (announce outDir)).map (·.path) =
      (sets.map (·.typeName)).map (outputPath outDir) := by
    rw [List.map_map, List.map_map]
    rfl
  constructor
  · intro holds
    have apart := holds.apart
    rw [paths] at apart
    -- The same name would give the same path.
    exact List.Nodup.of_map _ apart
  · intro distinct
    refine ⟨?_, ?_⟩
    · rw [List.forall₂_map_left_iff, List.forall₂_same]
      intro set hset
      obtain ⟨last, hlast, read⟩ := h.read_last hset
      rw [lastOf_of_mem distinct hset] at hlast
      cases hlast
      exact read
    · rw [paths]
      refine List.Nodup.map_on (fun a ha b hb same => ?_) distinct
      obtain ⟨set, hset, rfl⟩ := List.mem_map.1 ha
      obtain ⟨other, hother, rfl⟩ := List.mem_map.1 hb
      exact outputPath_inj (slashless set hset) (slashless other hother) same

end Written

/-- After a run on a schema that was read, the path of each type announced holds the documents of the last
type with fields of the same name. So the entries hold their own documents, at paths of their own, exactly if
the names of the types with fields are distinct. -/
theorem run_holdsEach_iff {text : String} {schema : Schema} {filter : Log.Filter} {options : Options}
    {w w' : Workspace} {report : Report} (parsed : Sdl.parse text = .ok schema)
    (ran : run (m := StateM Workspace) ⟨filter, none⟩ options schema w = (.ok report, w')) :
    ∃ sets, (assembleSeeded w.clock (options.seed.getD w.seed) options.documents schema).1 = .ok sets ∧
      sets.map (·.typeName) = (schema.types.filter (!·.fields.isEmpty)).map (·.name) ∧
      report.types = sets.map (announce options.outDir) ∧
      (∀ set ∈ sets, ∃ last, lastOf sets set.typeName = some last ∧
        w'.files.read (outputPath options.outDir set.typeName) = .ok (.text (documentsText last.documents))) ∧
      (HoldsEach report.types sets w'.files ↔
        ((schema.types.filter (!·.fields.isEmpty)).map (·.name)).Nodup) := by
  obtain ⟨sets, w₁, assembled, files, wrote, -, -⟩ := run_eq_ok ran
  have names := (assembleSeeded_names assembled).1
  -- The names of the sets are names of the schema language, which have no slashes.
  have slashless : ∀ set ∈ sets, IsSlashless set.typeName :=
    forall_typeName assembled fun type htype => (Sdl.parse_names parsed type htype).1.slashless
  obtain ⟨types, files', rfl, written⟩ := writeSets_eq_ok slashless wrote
  have each := written.holdsEach_iff slashless
  rw [← types, names] at each
  exact ⟨sets, assembled, names, types, fun set hset => written.read_last hset, each⟩

/-- A text with two types of one field each, of which only the first one is generated. -/
def pairText (first second : String) : String :=
  "type " ++ first ++ " \x7b n: Int @generate(faker: \"1\") \x7d\n" ++
    "type " ++ second ++ " \x7b n: Int \x7d\n"

/-- The schema of such a text. -/
def pair (first second : String) : Schema :=
  ⟨[⟨first, [⟨"n", [⟨"generate", [⟨"faker", "1"⟩]⟩]⟩]⟩, ⟨second, [⟨"n", []⟩]⟩]⟩

/-- The sets that are assembled from it. -/
def pairSets (first second : String) : List DocumentSet :=
  [⟨first, [[("n", .int 1)]], ["n"], []⟩, ⟨second, [[]], [], ["n"]⟩]

/-- What a run reports of it. -/
def pairReport (first second : String) : Report :=
  ⟨1, [⟨first, 1, ["n"], [], outputPath "out" first⟩, ⟨second, 1, [], ["n"], outputPath "out" second⟩], [], 0⟩

/-- What a run leaves of an empty workspace. -/
def pairAfter (first second : String) : Workspace :=
  (run (m := StateM Workspace) .silent ⟨"out", .one, some 1⟩ (pair first second) (.empty 0 0)).2

/-- Two types with names of their own have files of their own. -/
theorem run_pair_holdsEach :
    Sdl.parse (pairText "A" "B") = .ok (pair "A" "B") ∧
      run (m := StateM Workspace) .silent ⟨"out", .one, some 1⟩ (pair "A" "B") (.empty 0 0) =
        (.ok (pairReport "A" "B"), pairAfter "A" "B") ∧
      HoldsEach (pairReport "A" "B").types (pairSets "A" "B") (pairAfter "A" "B").files := by
  have read : (Sdl.parse (pairText "A" "B")).toOption = some (pair "A" "B") := by decide +kernel
  have reported : (run (m := StateM Workspace) .silent ⟨"out", .one, some 1⟩ (pair "A" "B")
      (.empty 0 0)).1.toOption = some (pairReport "A" "B") := by decide +kernel
  have parsed := except_eq_ok_of_toOption read
  have ran : run (m := StateM Workspace) .silent ⟨"out", .one, some 1⟩ (pair "A" "B") (.empty 0 0) =
      (.ok (pairReport "A" "B"), pairAfter "A" "B") := eq_ok_of_toOption reported
  have expected : (assembleSeeded 0 1 .one (pair "A" "B")).1 = .ok (pairSets "A" "B") := rfl
  obtain ⟨sets, assembled, -, -, -, each⟩ := run_holdsEach_iff parsed ran
  have same : pairSets "A" "B" = sets := Except.ok.inj (expected.symm.trans assembled)
  refine ⟨parsed, ran, ?_⟩
  rw [same]
  exact each.2 (by decide)

/-- Two types of the same name are announced at the same path, and the documents of the first one are lost. -/
theorem run_twins :
    Sdl.parse (pairText "A" "A") = .ok (pair "A" "A") ∧
      run (m := StateM Workspace) .silent ⟨"out", .one, some 1⟩ (pair "A" "A") (.empty 0 0) =
        (.ok (pairReport "A" "A"), pairAfter "A" "A") ∧
      (assembleSeeded 0 1 .one (pair "A" "A")).1 = .ok (pairSets "A" "A") ∧
      ¬ ((pairReport "A" "A").types.map (·.path)).Nodup ∧
      (pairAfter "A" "A").files.read "out/A.json" ≠ .ok (.text (documentsText [[("n", .int 1)]])) := by
  have read : (Sdl.parse (pairText "A" "A")).toOption = some (pair "A" "A") := by decide +kernel
  have reported : (run (m := StateM Workspace) .silent ⟨"out", .one, some 1⟩ (pair "A" "A")
      (.empty 0 0)).1.toOption = some (pairReport "A" "A") := by decide +kernel
  have holds : ((pairAfter "A" "A").files.read "out/A.json" >>= Files.Content.text?).toOption =
      some (documentsText [[]]) := by decide +kernel
  -- The file holds the one empty document of the second type.
  refine ⟨except_eq_ok_of_toOption read, eq_ok_of_toOption reported, rfl, by decide, ?_⟩
  intro kept
  rw [kept] at holds
  exact absurd holds (by decide +kernel)

end Fixtures.Generation
