import Fixtures.Proofs.Assembly.Sets
import Fixtures.Proofs.Generation.Writing

/-!
# Runs as an assembly and a writing

A run assembles all types and then writes one file for each document set, in order, and it ends as the first of
the two that fails: `run_apply`. `run_eq_ok` is what a run that succeeds has done. The seed is that of the
options or else the one that the host drew.
-/

namespace Fixtures.Generation

open Files (Tree withFiles)
open Runs

/-- The seed that a run uses. -/
def seedOf (options : Options) (w : Workspace) : UInt64 := options.seed.getD w.seed

/-- Drawing a seed changes nothing. -/
theorem seed_bind (options : Options) (w : Workspace)
    (next : UInt64 → ExceptT RunError (StateM Workspace) Report) :
    (match options.seed with
      | some seed => pure seed >>= next
      | none => liftM (Host.drawSeed (m := StateM Workspace)) >>= next) w = next (seedOf options w) w := by
  unfold seedOf
  cases options.seed <;> rfl

/-- Events are not kept without a file. -/
theorem recordAll_fileless {filter : Log.Filter} (events : List Log.Event) (w : Workspace) :
    (recordAll ⟨filter, none⟩ events : StateM Workspace Unit) w = ((), w) := by
  induction events with
  | nil => rfl
  | cons event rest ih => exact ih

/-- An assembly in a workspace changes nothing but the console. -/
theorem assembleAll_apply {filter : Log.Filter} (now : Int) (seed : UInt64) (count : Count) (schema : Schema)
    (w : Workspace) :
    (assembleAll (m := StateM Workspace) ⟨filter, none⟩ now seed count schema) w =
      ((assembleSeeded now seed count schema).1,
        { w with console := w.console ++ (assembleSeeded now seed count schema).2.printed }) := by
  rw [assembleAll]
  rcases assembleSeeded now seed count schema with ⟨result, session⟩
  dsimp only
  rw [lift_bind, recordAll_fileless]
  rfl

/-- A run assembles the sets of all types and then writes them. It fails with the failure of either. -/
theorem run_apply {filter : Log.Filter} (options : Options) (schema : Schema) (w : Workspace) :
    run (m := StateM Workspace) ⟨filter, none⟩ options schema w =
      match assembleAll (m := StateM Workspace) ⟨filter, none⟩ w.clock (seedOf options w) options.documents
          schema w with
      | (.error e, w₁) => (.error (.assembly e), w₁)
      | (.ok sets, w₁) =>
        match writeSets (m := StateM Workspace) ⟨filter, none⟩ options.outDir sets w₁ with
        | (.error fault, w₂) => (.error (.files fault), w₂)
        | (.ok entries, w₂) =>
          (.ok ⟨seedOf options w, entries, skippedTypes schema, UInt64.ofNat (w₂.clock - w.clock).toNat⟩,
            w₂) := by
  rw [run, lift_bind]
  refine (seed_bind options w _).trans ?_
  show ((assembleAll ⟨filter, none⟩ w.clock (seedOf options w) options.documents schema).adapt .assembly >>= _ :
    ExceptT RunError (StateM Workspace) Report) w = _
  rw [bind_apply, adapt_apply]
  rcases assembleAll (m := StateM Workspace) ⟨filter, none⟩ w.clock (seedOf options w) options.documents
      schema w with ⟨e | sets, w₁⟩
  · rfl
  dsimp only
  show ((writeSets ⟨filter, none⟩ options.outDir sets).adapt .files >>= _ :
    ExceptT RunError (StateM Workspace) Report) w₁ = _
  rw [bind_apply, adapt_apply]
  rcases writeSets (m := StateM Workspace) ⟨filter, none⟩ options.outDir sets w₁ with ⟨fault | entries, w₂⟩
  · rfl
  · rfl

/-- What a run that succeeds has done. -/
theorem run_eq_ok {filter : Log.Filter} {options : Options} {schema : Schema} {w w' : Workspace}
    {report : Report} (h : run (m := StateM Workspace) ⟨filter, none⟩ options schema w = (.ok report, w')) :
    ∃ sets w₁, (assembleSeeded w.clock (seedOf options w) options.documents schema).1 = .ok sets ∧
      w₁.files = w.files ∧
      writeSets (m := StateM Workspace) ⟨filter, none⟩ options.outDir sets w₁ = (.ok report.types, w') ∧
      report.seed = seedOf options w ∧ report.skippedTypes = skippedTypes schema := by
  rw [run_apply] at h
  split at h
  · cases h
  next sets w₁ hsets =>
  split at h
  · cases h
  next entries w₂ hentries =>
  cases h
  rw [assembleAll_apply] at hsets
  have assembled := congrArg Prod.fst hsets
  have files : w.files = w₁.files := congrArg (fun run => run.2.files) hsets
  exact ⟨sets, w₁, assembled, files.symm, hentries, rfl, rfl⟩

end Fixtures.Generation
