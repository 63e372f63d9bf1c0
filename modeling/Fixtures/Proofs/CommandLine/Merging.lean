import Fixtures.Proofs.CommandLine.Stages
import Fixtures.Proofs.Settings.Loading

/-!
# Merging the command line with a file of settings

The settings of a file are overridden in two steps: first by the log file of the command line, which is opened before
anything else happens, and later by the switches of the command. The two steps are one merge: `execute_merged` says
that the log file and every option of a generation are, field by field, the value of the switch if it is given, else
that of the file, else the default.
-/

namespace Fixtures

open Generation (Count Options)

namespace CommandLine

/-- The options of a generation and its log file, field by field: the value of the switch if it is given, else
that of the table if it has the name, else the default. -/
structure Merged (invocation : Invocation) (request : GenerateRequest) (members : Toml.Members)
    (options : Options) (logFile : Option String) : Prop where
  outDir : options.outDir = (request.outDir.or (members.string? "out_dir")).getD "datagen"
  documents : (options.documents.val : Int) =
    ((request.numDocuments.map fun n => (n.val : Int)).or (members.integer? "num_documents")).getD 1
  seed : options.seed.map (fun s => (s.toNat : Int)) =
    (request.seed.map fun s => (s.toNat : Int)).or (members.integer? "seed")
  logFile : logFile = invocation.logFile.or (members.string? "log_file")

/-- Both sources determine the options and the log file. -/
theorem Merged.unique {invocation : Invocation} {request : GenerateRequest} {members : Toml.Members}
    {options options' : Options} {logFile logFile' : Option String}
    (h : Merged invocation request members options logFile)
    (h' : Merged invocation request members options' logFile') : options = options' ∧ logFile = logFile' := by
  obtain ⟨outDir, ⟨documents, _, _⟩, seed⟩ := options
  obtain ⟨outDir', ⟨documents', _, _⟩, seed'⟩ := options'
  have dirs : outDir = outDir' := h.outDir.trans h'.outDir.symm
  have counts : documents = documents' := Int.ofNat.inj (h.documents.trans h'.documents.symm)
  have seeds : seed = seed' := by
    refine Option.map_injective (fun a b same => ?_) (h.seed.trans h'.seed.symm)
    exact UInt64.toNat.inj (Int.ofNat.inj same)
  subst dirs counts seeds
  exact ⟨rfl, h.logFile.trans h'.logFile.symm⟩

/-- The two steps in which settings are overridden merge both sources. -/
theorem merged_of_reads {invocation : Invocation} {request : GenerateRequest} {members : Toml.Members}
    {s : Settings} (reads : Settings.Reads members s) :
    Merged invocation request members
      ((s.override { logFile := invocation.logFile }).override request.overrides).options
      (s.override { logFile := invocation.logFile }).logFile where
  outDir := by
    show request.outDir.getD s.outDir = _
    rw [reads.outDir, Option.getD_or]
  documents := by
    show ((request.numDocuments.getD s.numDocuments).val : Int) = _
    rw [Option.getD_or, ← reads.numDocuments]
    cases request.numDocuments <;> rfl
  seed := by
    show (request.seed.or s.seed).map _ = _
    rw [Option.map_or, reads.seed]
  logFile := by
    show invocation.logFile.or s.logFile = _
    rw [reads.logFile]

/-- A generation with given options and a given log file, which is opened first. -/
def generateWith (filter : Option String) (invocation : Invocation) (request : GenerateRequest) (options : Options)
    (logFile : Option String) (w : Workspace) : Except Failure Unit × Workspace :=
  match Log.opened logFile w with
  | .error fault => (.error (.logging fault), w)
  | .ok w =>
    match schemaOf request w with
    | .error failure => (.error failure, w)
    | .ok schema =>
      let journal : Log.Journal := ⟨.ofRequest filter invocation.verbose, logFile⟩
      let w := ((journal.record (schemaEvent request.schemaPath schema) : StateM Workspace Unit) w).2
      match Generation.run (m := StateM Workspace) journal options schema w with
      | (.error e, w) => (.error (.generation e), w)
      | (.ok report, w) => (.ok (), { w with console := w.console ++ generationLines report })

section Execution

variable
  (dial : Export.Credentials → ExceptT Export.ExportError (StateM Workspace) (Export.Sink (StateM Workspace)))
  (filter : Option String) {args : List String} {invocation : Invocation} {request : GenerateRequest}
  {w : Workspace}

/-- A command whose settings are loaded generates with them. -/
theorem carryOut_eq (asked : invocation.command = .generate request) {s : Settings}
    (loaded : Settings.loaded invocation.config w = .ok s) :
    carryOut dial filter invocation w =
      generateWith filter invocation request
        ((s.override { logFile := invocation.logFile }).override request.overrides).options
        (s.override { logFile := invocation.logFile }).logFile w := by
  have settled : settingsOf invocation w = .ok (s.override { logFile := invocation.logFile }) := by
    rw [settingsOf, show (Settings.load (m := StateM Workspace) invocation.config w).1 = .ok s from loaded]
    rfl
  rw [carryOut_generate dial filter asked, settled, generateWith]
  dsimp only
  cases Log.opened (s.override { logFile := invocation.logFile }).logFile w with
  | error fault => rfl
  | ok w' => exact generate_stages _ _ _ _

/-- Settings are loaded exactly, and a generating command uses them merged with its switches: it opens the log
file and generates with the options that have, field by field, the value of the switch, else that of the file, else
the default. -/
theorem execute_merged (read : Invocation.ofArguments args = .ok invocation)
    (asked : invocation.command = .generate request) :
    (∀ config w, Settings.LoadsExactly config w) ∧
      ∀ w members, Settings.Finds invocation.config w members →
        (∀ m ∈ members, Settings.Admits m.1.name m.2) →
        ∃ options logFile, Merged invocation request members options logFile ∧
          execute dial filter args w = conclude (generateWith filter invocation request options logFile w) := by
  refine ⟨Settings.loadsExactly, fun w members found admitted => ?_⟩
  have exactly := Settings.loadsExactly invocation.config w
  obtain ⟨s, loaded⟩ := exactly.ok_iff.mpr ⟨members, found, admitted⟩
  refine ⟨_, _, merged_of_reads (exactly.values s members loaded found), ?_⟩
  rw [execute_eq dial filter read, carryOut_eq dial filter asked loaded]

end Execution

/-- A file that gives a seed and a directory. -/
def configText : String := "seed = 3\nout_dir = \"files\"\n"

/-- A workspace whose current directory holds that file. -/
def configured : Workspace where
  files := (Files.Tree.empty "workspace").set ["datagen.toml", "workspace"] (.file (.text configText))
  clock := 0
  seed := 0
  console := ""

/-- A seed and a log file on the command line, another seed and a directory in the file, and neither gives a number
of documents. -/
theorem execute_configured :
    let args := ["generate", "--schema-path=s.graphql", "--seed=7", "--log-file=run.log"]
    let request : GenerateRequest := ⟨"s.graphql", none, none, some 7⟩
    let invocation : Invocation := ⟨none, some "run.log", false, .generate request⟩
    Invocation.ofArguments args = .ok invocation ∧
      Settings.Finds none configured [(⟨"seed", ⟨27, 23⟩⟩, .integer 3 ⟨20, 19⟩),
        (⟨"out_dir", ⟨18, 11⟩⟩, .string "files" ⟨8, 1⟩)] ∧
      execute (m := StateM Workspace) (fun _ => throw .store) none args configured =
        conclude
          (generateWith none invocation request ⟨"files", .one, some 7⟩ (some "run.log") configured) := by
  intro args request invocation
  have read : Invocation.ofArguments args = .ok invocation := by decide
  have found : Settings.Finds none configured [(⟨"seed", ⟨27, 23⟩⟩, .integer 3 ⟨20, 19⟩),
      (⟨"out_dir", ⟨18, 11⟩⟩, .string "files" ⟨8, 1⟩)] :=
    @Settings.Finds.there none configured configText _ (some ⟨27, 1⟩) rfl rfl
  obtain ⟨options, logFile, merged, executed⟩ :=
    (execute_merged (fun _ => throw .store) none read rfl).2 configured _ found (by
      simp only [List.mem_cons, List.not_mem_nil, or_false, forall_eq_or_imp, forall_eq]
      exact ⟨.seed (by decide) _, .outDir _ _⟩)
  have expected : Merged invocation request [(⟨"seed", ⟨27, 23⟩⟩, .integer 3 ⟨20, 19⟩),
      (⟨"out_dir", ⟨18, 11⟩⟩, .string "files" ⟨8, 1⟩)] ⟨"files", .one, some 7⟩ (some "run.log") :=
    ⟨rfl, rfl, rfl, rfl⟩
  obtain ⟨rfl, rfl⟩ := merged.unique expected
  exact ⟨read, found, executed⟩

end CommandLine

end Fixtures
