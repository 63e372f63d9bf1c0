import Fixtures.CommandLine.Program
import Fixtures.Proofs.Generation.Running
import Fixtures.Proofs.Log.Recording

/-!
# The stages of a generating command

A generating command loads its settings, opens its log file, loads the schema, assembles the documents and writes
them. `course` is this order: each stage is a function of the workspace in which it begins, and the first
failure is that of the command. Up to the last stage nothing changes in the files but the log file, to which
events are added.

## Shape of the proof

* Loading settings and a schema leaves the workspace as it is: `Leaves`.
* What is recorded between the stages is `Log.Recorded`, so that a command that fails before it writes has only
  recorded.
* `carryOut_generate` puts the stages together.
-/

namespace Fixtures.CommandLine

open Files (Tree withFiles)
open Log (Journal Event Recorded)
open Generation (Options DocumentSet AssemblyError RunError)
open Export (Credentials ExportError Sink)
open Runs

/-! ## Loading -/

/-- A computation that changes nothing. -/
def Leaves {ε α : Type} (x : ExceptT ε (StateM Workspace) α) : Prop := ∀ w, (x w).2 = w

namespace Leaves

variable {ε ε' α β : Type}

theorem pure (a : α) : Leaves (pure a : ExceptT ε (StateM Workspace) α) := fun _ => rfl

theorem throw (e : ε) : Leaves (throw e : ExceptT ε (StateM Workspace) α) := fun _ => rfl

theorem bind {x : ExceptT ε (StateM Workspace) α} {f : α → ExceptT ε (StateM Workspace) β} (hx : Leaves x)
    (hf : ∀ a, Leaves (f a)) : Leaves (x >>= f) := by
  intro w
  have same := hx w
  rw [bind_apply]
  rcases h : x w with ⟨e | a, w'⟩ <;> rw [h] at same
  · exact same
  · exact (hf a w').trans same

theorem adapt {x : ExceptT ε (StateM Workspace) α} (h : Leaves x) (f : ε → ε') :
    Leaves (x.adapt f : ExceptT ε' (StateM Workspace) α) := h

theorem ite {c : Prop} [Decidable c] {x y : ExceptT ε (StateM Workspace) α} (hx : Leaves x) (hy : Leaves y) :
    Leaves (if c then x else y) := by
  split
  · exact hx
  · exact hy

theorem ofExcept (x : Except ε α) : Leaves (liftM x : ExceptT ε (StateM Workspace) α) := by
  intro w
  cases x <;> rfl

theorem isPresent (path : String) :
    Leaves (liftM (Files.isPresent path : StateM Workspace Bool) : ExceptT ε (StateM Workspace) Bool) :=
  fun _ => rfl

theorem readText (path : String) : Leaves (Files.readText path : ExceptT Files.Fault (StateM Workspace) String) :=
  bind (fun _ => rfl) fun content => ofExcept content.text?

end Leaves

theorem leaves_loadSettings (config : Option String) : Leaves (Settings.load (m := StateM Workspace) config) := by
  have read (path : String) : Leaves (Settings.read (m := StateM Workspace) path) :=
    ((Leaves.readText path).adapt _).bind fun text => .ofExcept (Settings.ofText path text)
  cases config with
  | none => exact (Leaves.isPresent _).bind fun _ => .ite (read _) (.pure _)
  | some path => exact (Leaves.isPresent _).bind fun _ => .ite (read _) (.throw _)

theorem leaves_loadSchema (path : String) : Leaves (Schema.load (m := StateM Workspace) path) :=
  (Leaves.isPresent _).bind fun _ =>
    .ite (((Leaves.readText path).adapt _).bind fun text => .ofExcept (Schema.ofText text)) (.throw _)

/-! ## The stages -/

/-- A stage of a generating command. -/
inductive Stage where
  | settings
  | logging
  | schema
  | assembly
  | writing
  deriving DecidableEq, Repr

/-- The settings of an invocation: those that are loaded, with the log file of the command line. -/
def settingsOf (invocation : Invocation) (w : Workspace) : Except Failure Settings :=
  ((Settings.load (m := StateM Workspace) invocation.config w).1.map
    (·.override { logFile := invocation.logFile })).mapError .settings

/-- The schema that is asked for. -/
def schemaOf (request : GenerateRequest) (w : Workspace) : Except Failure Schema :=
  (Schema.load (m := StateM Workspace) request.schemaPath w).1.mapError .schema

/-- What the assembly of a schema comes to, and what its scripts did. -/
def assemblyOf (options : Options) (schema : Schema) (w : Workspace) :
    Except AssemblyError (List DocumentSet) × Script.Session :=
  Generation.assembleSeeded w.clock (Generation.seedOf options w) options.documents schema

section Run

variable (journal : Journal) (options : Options) (schema : Schema)

/-- The events of a run before it writes. -/
def eventsOf (w : Workspace) : List Event :=
  Generation.startedEvent options (Generation.seedOf options w) schema ::
    (assemblyOf options schema w).2.begun.reverse.flatMap Generation.typeEvents

/-- The workspace after an assembly, in which writing begins. -/
def readied (w : Workspace) : Workspace :=
  let w' := ((Generation.recordAll journal (eventsOf options schema w) : StateM Workspace Unit) w).2
  { w' with console := w'.console ++ (assemblyOf options schema w).2.printed }

end Run

/-- The first failure of a generating command, with its stage. -/
def course (filter : Option String) (invocation : Invocation) (request : GenerateRequest) (w : Workspace) :
    Except (Stage × Failure) Unit := do
  let settings ← (settingsOf invocation w).mapError (Stage.settings, ·)
  let w ← (Log.opened settings.logFile w).mapError fun fault => (Stage.logging, .logging fault)
  let schema ← (schemaOf request w).mapError (Stage.schema, ·)
  let journal : Journal := ⟨.ofRequest filter invocation.verbose, settings.logFile⟩
  let options := (settings.override request.overrides).options
  let w := ((journal.record (schemaEvent request.schemaPath schema) : StateM Workspace Unit) w).2
  let sets ← (assemblyOf options schema w).1.mapError fun e => (Stage.assembly, .generation (.assembly e))
  discard ((Generation.writeSets (m := StateM Workspace) journal options.outDir sets
    (readied journal options schema w)).1.mapError fun fault => (Stage.writing, .generation (.files fault)))

/-! ## The stages of a run -/

section Run

variable (journal : Journal) (options : Options) (schema : Schema)

/-- After its beginning is recorded, a run assembles the documents; what their scripts print is printed. -/
theorem assembleAll_readied (w : Workspace) :
    (Generation.assembleAll (m := StateM Workspace) journal w.clock (Generation.seedOf options w)
        options.documents schema)
        ((journal.record (Generation.startedEvent options (Generation.seedOf options w) schema) :
          StateM Workspace Unit) w).2 =
      ((assemblyOf options schema w).1, readied journal options schema w) := by
  rw [readied, eventsOf, assemblyOf, Generation.assembleAll]
  rcases Generation.assembleSeeded w.clock (Generation.seedOf options w) options.documents schema with
    ⟨result, session⟩
  dsimp only
  rw [lift_bind]
  rfl

/-- The report of a run. -/
def reportOf (entries : List Generation.TypeReport) (w w' : Workspace) : Generation.Report :=
  ⟨Generation.seedOf options w, entries, Generation.skippedTypes schema, UInt64.ofNat (w'.clock - w.clock).toNat⟩

/-- A run ends as its assembly or, after it, its writing. -/
theorem run_stages (w : Workspace) :
    Generation.run (m := StateM Workspace) journal options schema w =
      match (assemblyOf options schema w).1 with
      | .error e => (.error (.assembly e), readied journal options schema w)
      | .ok sets =>
        match Generation.writeSets (m := StateM Workspace) journal options.outDir sets
            (readied journal options schema w) with
        | (.error fault, w') => (.error (.files fault), w')
        | (.ok entries, w') =>
          (.ok (reportOf options schema entries w w'),
            ((journal.record (Generation.completedEvent (reportOf options schema entries w w')) :
              StateM Workspace Unit) w').2) := by
  rw [Generation.run, lift_bind]
  refine (Generation.seed_bind options w _).trans ?_
  dsimp only
  rw [lift_bind, bind_apply, adapt_apply]
  have assembled := assembleAll_readied journal options schema w
  rw [show (Host.now (m := StateM Workspace) w).1 = w.clock from rfl, assembled]
  cases (assemblyOf options schema w).1 with
  | error e => rfl
  | ok sets =>
    dsimp only [Except.mapError]
    rw [bind_apply, adapt_apply]
    rcases Generation.writeSets (m := StateM Workspace) journal options.outDir sets
      (readied journal options schema w) with ⟨fault | entries, w'⟩
    · rfl
    · rfl

end Run

/-! ## The command -/

/-- A generation ends as the loading of its schema or, after it, its run. -/
theorem generate_stages (journal : Journal) (settings : Settings) (request : GenerateRequest) (w : Workspace) :
    generate (m := StateM Workspace) journal settings request w =
      match schemaOf request w with
      | .error failure => (.error failure, w)
      | .ok schema =>
        match Generation.run (m := StateM Workspace) journal (settings.override request.overrides).options schema
            ((journal.record (schemaEvent request.schemaPath schema) : StateM Workspace Unit) w).2 with
        | (.error e, w') => (.error (.generation e), w')
        | (.ok report, w') => (.ok (), { w' with console := w'.console ++ generationLines report }) := by
  have same := leaves_loadSchema request.schemaPath w
  rw [generate, schemaOf]
  rw [bind_apply, adapt_apply, same]
  cases (Schema.load (m := StateM Workspace) request.schemaPath w).1 with
  | error e => rfl
  | ok schema =>
    dsimp only [Except.mapError]
    rw [lift_bind, bind_apply, adapt_apply]
    rcases Generation.run (m := StateM Workspace) journal (settings.override request.overrides).options schema
      ((journal.record (schemaEvent request.schemaPath schema) : StateM Workspace Unit) w).2 with ⟨e | report, w'⟩
    · rfl
    · rfl

/-- A command ends as its settings, its log file or, after them, its generation. -/
theorem carryOut_generate (dial : Credentials → ExceptT ExportError (StateM Workspace) (Sink (StateM Workspace)))
    (filter : Option String) {invocation : Invocation} {request : GenerateRequest}
    (asked : invocation.command = .generate request) (w : Workspace) :
    carryOut dial filter invocation w =
      match settingsOf invocation w with
      | .error failure => (.error failure, w)
      | .ok settings =>
        match Log.opened settings.logFile w with
        | .error fault => (.error (.logging fault), w)
        | .ok w' => generate (m := StateM Workspace) ⟨.ofRequest filter invocation.verbose, settings.logFile⟩
            settings request w' := by
  have same := leaves_loadSettings invocation.config w
  rw [carryOut, settingsOf, bind_apply, adapt_apply, same]
  cases (Settings.load (m := StateM Workspace) invocation.config w).1 with
  | error e => rfl
  | ok settings =>
    dsimp only [Except.mapError, Except.map]
    rw [bind_apply, adapt_apply, Log.start_apply]
    cases Log.opened (settings.override { logFile := invocation.logFile }).logFile w with
    | error fault => rfl
    | ok w' =>
      dsimp only [Except.mapError]
      rw [asked]

/-- What a command that fails leaves: the workspace as it was, or with events in the log file, or anything. -/
def Leftover (invocation : Invocation) (w w' : Workspace) : Stage → Prop
  | .settings | .logging => w' = w
  | .schema | .assembly =>
    ∃ settings, settingsOf invocation w = .ok settings ∧ Tree.Grown settings.logFile w.files w'.files
  | .writing => True

/-- The events up to an assembly are recorded. -/
theorem readied_grown (journal : Journal) (options : Options) (schema : Schema) (w : Workspace) :
    Tree.Grown journal.file w.files (readied journal options schema w).files :=
  (Log.recordAll_recorded journal (eventsOf options schema w) w).files

/-- A command takes its course, and leaves little behind where it fails before it writes. -/
theorem carryOut_course
    (dial : Credentials → ExceptT ExportError (StateM Workspace) (Sink (StateM Workspace)))
    (filter : Option String) {invocation : Invocation} {request : GenerateRequest}
    (asked : invocation.command = .generate request) (w : Workspace) :
    (carryOut dial filter invocation w).1 = (course filter invocation request w).mapError (·.2) ∧
      ∀ stage failure, course filter invocation request w = .error (stage, failure) →
        Leftover invocation w (carryOut dial filter invocation w).2 stage := by
  rw [carryOut_generate dial filter asked, course]
  cases loaded : settingsOf invocation w with
  | error failure =>
    refine ⟨rfl, fun stage failure h => ?_⟩
    cases h
    rfl
  | ok settings =>
    dsimp only [Except.mapError, bind, Except.bind]
    cases started : Log.opened settings.logFile w with
    | error fault =>
      refine ⟨rfl, fun stage failure h => ?_⟩
      cases h
      rfl
    | ok w₁ =>
      have first := (Log.opened_recorded started).files
      dsimp only
      rw [generate_stages]
      cases schemaOf request w₁ with
      | error failure =>
        refine ⟨rfl, fun stage failure h => ?_⟩
        cases h
        exact ⟨settings, loaded, first⟩
      | ok schema =>
        dsimp only
        rw [run_stages]
        let journal : Journal := ⟨.ofRequest filter invocation.verbose, settings.logFile⟩
        let options := (settings.override request.overrides).options
        let w₂ := ((journal.record (schemaEvent request.schemaPath schema) : StateM Workspace Unit) w₁).2
        have second := (Log.record_recorded journal (schemaEvent request.schemaPath schema) w₁).files
        have third := readied_grown journal options schema w₂
        cases (assemblyOf options schema w₂).1 with
        | error e =>
          refine ⟨rfl, fun stage failure h => ?_⟩
          cases h
          exact ⟨settings, loaded, first.trans (second.trans third)⟩
        | ok sets =>
          dsimp only
          rcases Generation.writeSets (m := StateM Workspace) journal options.outDir sets
            (readied journal options schema w₂) with ⟨fault | entries, w₃⟩
          · refine ⟨rfl, fun stage failure h => ?_⟩
            cases h
            trivial
          · refine ⟨rfl, fun stage failure h => ?_⟩
            cases h

/-- How the program ends after a command. -/
def conclude : Except Failure Unit × Workspace → Ending × Workspace
  | (.ok (), w) => (⟨0, none⟩, w)
  | (.error failure, w) => (⟨1, some (told failure.message)⟩, w)

/-- The program ends as the command that its arguments ask for. -/
theorem execute_eq (dial : Credentials → ExceptT ExportError (StateM Workspace) (Sink (StateM Workspace)))
    (filter : Option String) {args : List String} {invocation : Invocation} {w : Workspace}
    (read : Invocation.ofArguments args = .ok invocation) :
    execute dial filter args w = conclude (carryOut dial filter invocation w) := by
  rw [execute, read]
  show StateT.bind (carryOut dial filter invocation) _ w = _
  rcases h : carryOut dial filter invocation w with ⟨failure | ⟨⟩, w'⟩ <;> simp only [StateT.bind, h] <;> rfl

/-- The program ends with the first failure of its stages, and with success if there is none. -/
theorem execute_generate
    (dial : Credentials → ExceptT ExportError (StateM Workspace) (Sink (StateM Workspace)))
    (filter : Option String) {args : List String} {invocation : Invocation} {request : GenerateRequest}
    (read : Invocation.ofArguments args = .ok invocation) (asked : invocation.command = .generate request)
    (w : Workspace) :
    (execute dial filter args w).1 =
        (match course filter invocation request w with
        | .ok () => ⟨0, none⟩
        | .error (_, failure) => ⟨1, some (told failure.message)⟩) ∧
      ∀ stage failure, course filter invocation request w = .error (stage, failure) →
        Leftover invocation w (execute dial filter args w).2 stage := by
  obtain ⟨outcome, leaves⟩ := carryOut_course dial filter asked w
  rw [execute_eq dial filter read]
  generalize carryOut dial filter invocation w = run at outcome leaves ⊢
  obtain ⟨failure | ⟨⟩, w'⟩ := run <;> refine ⟨?_, leaves⟩
  · cases h : course filter invocation request w with
    | error e =>
      rw [h] at outcome
      cases outcome
      rfl
    | ok u =>
      rw [h] at outcome
      cases outcome
  · cases h : course filter invocation request w with
    | error e =>
      rw [h] at outcome
      cases outcome
    | ok u => rfl

/-- A command without its schema fails after its log file was made. -/
theorem execute_without_schema :
    (execute (m := StateM Workspace) (fun _ => throw .store) none
        ["generate", "--schema-path=s.graphql", "--log-file=run.log"] (.empty 0 0)).1 =
        ⟨1, some "error: schema file s.graphql not found"⟩ ∧
      Leftover ⟨none, some "run.log", false, .generate ⟨"s.graphql", none, none, none⟩⟩ (.empty 0 0)
        (execute (m := StateM Workspace) (fun _ => throw .store) none
          ["generate", "--schema-path=s.graphql", "--log-file=run.log"] (.empty 0 0)).2 .schema := by
  have ended := execute_generate (fun _ => throw .store) none
    (show Invocation.ofArguments ["generate", "--schema-path=s.graphql", "--log-file=run.log"] =
      .ok ⟨none, some "run.log", false, .generate ⟨"s.graphql", none, none, none⟩⟩ by decide) rfl (.empty 0 0)
  have failed : course none ⟨none, some "run.log", false, .generate ⟨"s.graphql", none, none, none⟩⟩
      ⟨"s.graphql", none, none, none⟩ (.empty 0 0) = .error (.schema, .schema (.missing "s.graphql")) := by rfl
  rw [failed] at ended
  exact ⟨ended.1, ended.2 _ _ rfl⟩

end Fixtures.CommandLine
