import Fixtures.Proofs.CommandLine.Entries
import Fixtures.Proofs.Runs

/-!
# Arrangements of options

The options of a command line may stand in any order. Those that every command knows may also stand before the name
of the command. However they are arranged, they are accepted alike, and the invocation says what they say.

## Shape of the argument

What stands before the command and behind it is taken over on levels of their own, each of which is told its options
(`Told`). `Tells` is about the invocation that the two levels make together, and about the options as a whole; it
sees neither their order nor on which level they stand (`Tells.perm`), and leaves no choice for the invocation
(`Tells.unique`). That there is an invocation at all depends on the options as a whole too (`accepts_iff`).
-/

namespace Fixtures.CommandLine

open Text (IsNumeral)

/-! ## Options of a command line -/

/-- The switches that may stand before the command. -/
def Switch.globals : List Switch := [.config, .logFile, .verbose]

/-- Options of a command, each given once. -/
structure AreOptions (level : Level) (entries : List Entry) : Prop where
  known : ∀ e ∈ entries, e.switch ∈ level.switches
  formed : ∀ e ∈ entries, e.Formed
  once : Once entries

theorem AreOptions.perm {level : Level} {entries others : List Entry} (h : AreOptions level entries)
    (same : entries.Perm others) : AreOptions level others where
  known := fun e he => h.known e (same.mem_iff.mpr he)
  formed := fun e he => h.formed e (same.mem_iff.mpr he)
  once := h.once.perm same

section Parts

variable {level : Level} {before after : List Entry} (h : AreOptions level (before ++ after))
include h

theorem AreOptions.left : AreOptions level before where
  known := fun e he => h.known e (List.mem_append_left after he)
  formed := fun e he => h.formed e (List.mem_append_left after he)
  once := h.once.sublist ((List.sublist_append_left _ _).map _)

theorem AreOptions.right : AreOptions level after where
  known := fun e he => h.known e (List.mem_append_right before he)
  formed := fun e he => h.formed e (List.mem_append_right before he)
  once := h.once.sublist ((List.sublist_append_right _ _).map _)

end Parts

/-- Arguments in which options are arranged around the name of a command. -/
inductive Arranged (name : String) (entries : List Entry) : List String → Prop
  | mk {before after : List Entry} {left right : List String} (all : entries.Perm (before ++ after))
      (globals : ∀ e ∈ before, e.switch ∈ Switch.globals) (spelledLeft : List.Forall₂ Entry.Spelled before left)
      (spelledRight : List.Forall₂ Entry.Spelled after right) : Arranged name entries (left ++ name :: right)

/-! ## What an invocation says -/

/-- The level of a command. -/
def Command.level : Command → Level
  | .generate _ => .generate
  | .exportMongodb _ => .exportMongodb

/-- A command is told what options say about the switches of its own. -/
def Command.Tells (entries : List Entry) : Command → Prop
  | .generate r =>
    Holds entries .schemaPath (some r.schemaPath) ∧ Holds entries .numDocuments r.numDocuments ∧
      Holds entries .outDir r.outDir ∧ Holds entries .seed r.seed
  | .exportMongodb r => Holds entries .keypath (some r.keypath) ∧ Holds entries .outDir r.outDir

/-- An invocation of a command says what options say: it has the value of each of them, and nothing for the others. -/
structure Tells (level : Level) (entries : List Entry) (i : Invocation) : Prop where
  level : i.command.level = level
  config : Holds entries .config i.config
  logFile : Holds entries .logFile i.logFile
  verbose : i.verbose = true ↔ ⟨.verbose, none⟩ ∈ entries
  command : i.command.Tells entries

section Tells

variable {level : Level} {entries others : List Entry} {i j : Invocation}

/-- The order of options does not matter for what is said. -/
theorem Tells.perm (h : Tells level entries i) (same : entries.Perm others) : Tells level others i where
  level := h.level
  config := h.config.perm same
  logFile := h.logFile.perm same
  verbose := h.verbose.trans same.mem_iff
  command := by
    have own := h.command
    cases hc : i.command with
    | generate r =>
      rw [hc] at own
      obtain ⟨schemaPath, numDocuments, outDir, seed⟩ := own
      exact ⟨schemaPath.perm same, numDocuments.perm same, outDir.perm same, seed.perm same⟩
    | exportMongodb r =>
      rw [hc] at own
      exact ⟨own.1.perm same, own.2.perm same⟩

/-- Options say one invocation only. -/
theorem Tells.unique (once : Once entries) (hi : Tells level entries i) (hj : Tells level entries j) : i = j := by
  obtain ⟨config, logFile, verbose, command⟩ := i
  obtain ⟨config', logFile', verbose', command'⟩ := j
  obtain rfl := hi.config.unique once hj.config
  obtain rfl := hi.logFile.unique once hj.logFile
  obtain rfl : verbose = verbose' := Bool.eq_iff_iff.mpr (hi.verbose.trans hj.verbose.symm)
  -- Both commands are of the level at which the options were given.
  have same := hi.level.trans hj.level.symm
  have own := hi.command
  have own' := hj.command
  cases command with
  | generate r =>
    cases command' with
    | exportMongodb r' => cases same
    | generate r' =>
      obtain ⟨schemaPath, numDocuments, outDir, seed⟩ := r
      obtain ⟨schemaPath', numDocuments', outDir', seed'⟩ := r'
      cases own.1.unique once own'.1
      cases own.2.1.unique once own'.2.1
      cases own.2.2.1.unique once own'.2.2.1
      cases own.2.2.2.unique once own'.2.2.2
      rfl
  | exportMongodb r =>
    cases command' with
    | generate r' => cases same
    | exportMongodb r' =>
      obtain ⟨keypath, outDir⟩ := r
      obtain ⟨keypath', outDir'⟩ := r'
      cases own.1.unique once own'.1
      cases own.2.unique once own'.2
      rfl

end Tells

/-! ## Two levels -/

/-- A level holds a value of exactly the switches that are among its options. -/
theorem Told.isSome_iff {entries : List Entry} {g : Given} (h : Told entries g) (s : Switch) :
    (g.value? s).isSome ↔ ∃ value, ⟨s, value⟩ ∈ entries := by
  have told := h s
  cases held : g.value? s with
  | none =>
    rw [held] at told
    exact ⟨fun same => (by cases same), fun ⟨value, there⟩ => absurd there (told value)⟩
  | some a =>
    rw [held] at told
    obtain ⟨value, there, -⟩ := told
    exact ⟨fun _ => ⟨value, there⟩, fun _ => rfl⟩

/-- Whether the flag is given can be told from what the level holds. -/
theorem Told.verbose_iff {entries : List Entry} {g : Given} (h : Told entries g) :
    g.verbose = true ↔ ⟨.verbose, none⟩ ∈ entries := by
  have told := h .verbose
  cases flag : g.verbose with
  | false =>
    simp only [Given.value?, flag] at told
    exact ⟨fun same => (by cases same), fun there => absurd there (told none)⟩
  | true =>
    simp only [Given.value?, flag] at told
    obtain ⟨value, there, means⟩ := told
    cases value with
    | none => exact ⟨fun _ => there, fun _ => rfl⟩
    | some value => exact absurd means id

/-- A generation is asked for with the schema that is given. -/
theorem Given.command_generate_eq_ok {g : Given} {c : Command} : g.command .generate = .ok c ↔
    ∃ path, g.schemaPath = some path ∧ c = .generate ⟨path, g.numDocuments, g.outDir, g.seed⟩ := by
  rw [Given.command]
  cases g.schemaPath <;> simp [eq_comm]

/-- An export is asked for with the key file that is given. -/
theorem Given.command_exportMongodb_eq_ok {g : Given} {c : Command} : g.command .exportMongodb = .ok c ↔
    ∃ path, g.keypath = some path ∧ c = .exportMongodb ⟨path, g.outDir⟩ := by
  rw [Given.command]
  cases g.keypath <;> simp [eq_comm]

/-- The switch that a command requires. -/
def Level.required : Level → Switch
  | .program | .generate => .schemaPath
  | .exportMongodb => .keypath

section Levels

variable {level : Level} {name : String} (isCommand : (name, level) ∈ Level.commands)
include isCommand

theorem lookup_of_isCommand : Level.commands.lookup name = some level ∧ name ≠ "help" := by
  simp only [Level.commands, List.mem_cons, Prod.mk.injEq, List.not_mem_nil, or_false] at isCommand
  rcases isCommand with ⟨rfl, rfl⟩ | ⟨rfl, rfl⟩ <;> decide

/-- The switches of commands are known to them under their names. -/
theorem long?_of_isCommand {s : Switch} (known : s ∈ level.switches) : level.long? s.long = some s := by
  simp only [Level.commands, List.mem_cons, Prod.mk.injEq, List.not_mem_nil, or_false] at isCommand
  rcases isCommand with ⟨rfl, rfl⟩ | ⟨rfl, rfl⟩ <;> revert s <;> decide

/-- A command is complete if the switch that it requires is there. -/
theorem command_isOk (g : Given) : (∃ c, g.command level = .ok c) ↔ (g.value? level.required).isSome := by
  simp only [Level.commands, List.mem_cons, Prod.mk.injEq, List.not_mem_nil, or_false] at isCommand
  rcases isCommand with ⟨-, rfl⟩ | ⟨-, rfl⟩
  · show _ ↔ g.schemaPath.isSome = true
    simp only [Given.command_generate_eq_ok, exists_comm, exists_and_left, exists_eq, and_true,
      Option.isSome_iff_exists]
  · show _ ↔ g.keypath.isSome = true
    simp only [Given.command_exportMongodb_eq_ok, exists_comm, exists_and_left, exists_eq, and_true,
      Option.isSome_iff_exists]

variable {before after : List Entry} (globals : ∀ e ∈ before, e.switch ∈ Switch.globals)
include globals

omit isCommand in
/-- Nothing is said before the command about a switch of its own. -/
theorem holds_before {s : Switch} (own : s ∉ Switch.globals) : Holds before s none :=
  fun value there => own (globals ⟨s, value⟩ there)

/-- What two levels are told is what their invocation says. -/
theorem tells_ofLevels {program command : Given} {c : Command} (first : Told before program)
    (second : Told after command) (complete : command.command level = .ok c) :
    Tells level (before ++ after) (.ofLevels program command c) := by
  have own {s : Switch} (h : s ∉ Switch.globals) {x : Option s.Value} (told : Holds after s x) :
      Holds (before ++ after) s x := by
    have both := (holds_before globals h).append told
    rwa [Option.or_none] at both
  have flag : (Invocation.ofLevels program command c).verbose = true ↔ ⟨.verbose, none⟩ ∈ before ++ after := by
    rw [Invocation.ofLevels, Bool.or_eq_true, second.verbose_iff, first.verbose_iff, List.mem_append, or_comm]
  have config := (first .config).append (second .config)
  have logFile := (first .logFile).append (second .logFile)
  simp only [Level.commands, List.mem_cons, Prod.mk.injEq, List.not_mem_nil, or_false] at isCommand
  rcases isCommand with ⟨-, rfl⟩ | ⟨-, rfl⟩
  · obtain ⟨path, there, rfl⟩ := Given.command_generate_eq_ok.mp complete
    have schemaPath := second .schemaPath
    simp only [Given.value?, there] at schemaPath
    exact ⟨rfl, config, logFile, flag, own (by decide) schemaPath, own (by decide) (second .numDocuments),
      own (by decide) (second .outDir), own (by decide) (second .seed)⟩
  · obtain ⟨path, there, rfl⟩ := Given.command_exportMongodb_eq_ok.mp complete
    have keypath := second .keypath
    simp only [Given.value?, there] at keypath
    exact ⟨rfl, config, logFile, flag, own (by decide) keypath, own (by decide) (second .outDir)⟩

/-! ## Arguments -/

variable {left right : List String} (spelledLeft : List.Forall₂ Entry.Spelled before left)
  (spelledRight : List.Forall₂ Entry.Spelled after right) (options : AreOptions level (before ++ after))
include spelledLeft spelledRight options

/-- Arguments are accepted level by level. -/
theorem ofArguments_eq_ok {i : Invocation} :
    Invocation.ofArguments (left ++ name :: right) = .ok i ↔
      ∃ program command c, acceptAll {} before = .ok program ∧ acceptAll {} after = .ok command ∧
        command.command level = .ok c ∧ i = .ofLevels program command c := by
  obtain ⟨lookup, notHelp⟩ := lookup_of_isCommand isCommand
  have knownLeft : ∀ e ∈ before, Level.program.long? e.switch.long = some e.switch := by
    have all : ∀ s ∈ Switch.globals, Level.program.long? s.long = some s := by decide
    exact fun e he => all e.switch (globals e he)
  have knownRight : ∀ e ∈ after, level.long? e.switch.long = some e.switch :=
    fun e he => long?_of_isCommand isCommand (options.right.known e he)
  have commandRead : readCommand level {} right = acceptAll {} after :=
    readCommand_spelled spelledRight options.right.formed {} knownRight
  have programRead := readProgram_spelled spelledLeft options.left.formed {} knownLeft (name :: right)
  rw [Invocation.ofArguments, programRead]
  cases acceptAll {} before with
  | error refusal => simp [Except.bind]
  | ok program =>
    simp only [Except.bind]
    rw [readProgram_command level lookup notHelp rfl, commandRead]
    simp only [Runs.except_bind_eq_ok, Progress.settle, Except.ok.injEq]
    constructor
    · rintro ⟨given, accepted, c, complete, _, rfl, rfl⟩
      exact ⟨program, given, c, rfl, accepted, complete, rfl⟩
    · rintro ⟨_, given, c, rfl, accepted, complete, rfl⟩
      exact ⟨given, accepted, c, complete, _, rfl, rfl⟩

/-- An invocation says what its options say. -/
theorem tells_of_ofArguments {i : Invocation} (parsed : Invocation.ofArguments (left ++ name :: right) = .ok i) :
    Tells level (before ++ after) i := by
  obtain ⟨program, command, c, first, second, complete, rfl⟩ :=
    (ofArguments_eq_ok isCommand globals spelledLeft spelledRight options).mp parsed
  have toldLeft : Told before program := told_acceptAll told_nil options.left.formed options.left.once first
  have toldRight : Told after command := told_acceptAll told_nil options.right.formed options.right.once second
  exact tells_ofLevels isCommand globals toldLeft toldRight complete

/-- Whether arguments are accepted can be told from the options: their values must be readable, and the one that the
command requires must be among them. -/
theorem accepts_iff : (∃ i, Invocation.ofArguments (left ++ name :: right) = .ok i) ↔
    (∀ e ∈ before ++ after, e.Readable) ∧ ∃ value, ⟨level.required, value⟩ ∈ before ++ after := by
  have requiredOwn : level.required ∉ Switch.globals := by cases level <;> decide
  constructor
  · rintro ⟨i, parsed⟩
    obtain ⟨program, command, c, first, second, complete, -⟩ :=
      (ofArguments_eq_ok isCommand globals spelledLeft spelledRight options).mp parsed
    have toldLeft := told_acceptAll told_nil options.left.formed options.left.once first
    have toldRight := told_acceptAll told_nil options.right.formed options.right.once second
    refine ⟨fun e he => ?_, ?_⟩
    · rcases List.mem_append.mp he with he | he
      · exact toldLeft.readable options.left.once he
      · exact toldRight.readable options.right.once he
    · obtain ⟨value, there⟩ := (toldRight.isSome_iff _).mp ((command_isOk isCommand command).mp ⟨c, complete⟩)
      exact ⟨value, List.mem_append_right before there⟩
  · rintro ⟨readable, value, there⟩
    obtain ⟨program, first⟩ := acceptAll_ok told_nil options.left.formed options.left.once
      fun e he => readable e (List.mem_append_left after he)
    obtain ⟨command, second⟩ := acceptAll_ok told_nil options.right.formed options.right.once
      fun e he => readable e (List.mem_append_right before he)
    have toldRight := told_acceptAll told_nil options.right.formed options.right.once second
    -- the required switch is no global one, so it stands behind the command
    have behind : ⟨level.required, value⟩ ∈ after :=
      (List.mem_append.mp there).resolve_left (holds_before globals requiredOwn value)
    obtain ⟨c, complete⟩ := (command_isOk isCommand command).mpr ((toldRight.isSome_iff _).mpr ⟨value, behind⟩)
    exact ⟨_, (ofArguments_eq_ok isCommand globals spelledLeft spelledRight options).mpr
      ⟨program, command, c, first, second, complete, rfl⟩⟩

end Levels

/-- However the options of a command are arranged, they are accepted in every arrangement or in none, and always as the
same invocation, which says what they say. -/
theorem ofArguments_arranged {name : String} {level : Level} (isCommand : (name, level) ∈ Level.commands)
    {entries : List Entry} (options : AreOptions level entries) {args args' : List String}
    (arranged : Arranged name entries args) (arranged' : Arranged name entries args') {i : Invocation}
    (parsed : Invocation.ofArguments args = .ok i) :
    Invocation.ofArguments args' = .ok i ∧ Tells level entries i := by
  obtain @⟨before, after, left, right, all, globals, spelledLeft, spelledRight⟩ := arranged
  obtain @⟨before', after', left', right', all', globals', spelledLeft', spelledRight'⟩ := arranged'
  have options₁ := options.perm all
  have options₂ := options.perm all'
  have tells := (tells_of_ofArguments isCommand globals spelledLeft spelledRight options₁ parsed).perm all.symm
  -- whether arguments are accepted depends on their options only, and these are the same
  have accepts := (accepts_iff isCommand globals spelledLeft spelledRight options₁).mp ⟨i, parsed⟩
  have same := all.symm.trans all'
  obtain ⟨j, parsed'⟩ := (accepts_iff isCommand globals' spelledLeft' spelledRight' options₂).mpr
    ⟨fun e he => accepts.1 e (same.mem_iff.mpr he), accepts.2.imp fun value there => same.mem_iff.mp there⟩
  have tells' := (tells_of_ofArguments isCommand globals' spelledLeft' spelledRight' options₂ parsed').perm all'.symm
  obtain rfl := tells.unique options.once tells'
  exact ⟨parsed', tells⟩

/-- Options whose values hold marks, and the name of the command. -/
def markedOptions : List Entry :=
  [⟨.schemaPath, some "a=b --c"⟩, ⟨.config, some "generate"⟩, ⟨.verbose, none⟩, ⟨.seed, some "+7"⟩]

/-- The flag and the file of settings before the command, or all options behind it. -/
theorem ofArguments_markedOptions :
    AreOptions .generate markedOptions ∧
      Arranged "generate" markedOptions
        ["--config=generate", "-v", "generate", "--seed=+7", "--schema-path=a=b --c"] ∧
      Arranged "generate" markedOptions
        ["generate", "--schema-path=a=b --c", "--verbose", "--seed=+7", "--config=generate"] ∧
      Invocation.ofArguments ["--config=generate", "-v", "generate", "--seed=+7", "--schema-path=a=b --c"] =
        .ok ⟨some "generate", none, true, .generate ⟨"a=b --c", none, none, some 7⟩⟩ ∧
      Invocation.ofArguments ["generate", "--schema-path=a=b --c", "--verbose", "--seed=+7", "--config=generate"] =
        .ok ⟨some "generate", none, true, .generate ⟨"a=b --c", none, none, some 7⟩⟩ := by
  have options : AreOptions .generate markedOptions := ⟨by decide, by decide, by decide⟩
  have apart : Arranged "generate" markedOptions
      ["--config=generate", "-v", "generate", "--seed=+7", "--schema-path=a=b --c"] := by
    refine @Arranged.mk _ _ [⟨.config, some "generate"⟩, ⟨.verbose, none⟩]
      [⟨.seed, some "+7"⟩, ⟨.schemaPath, some "a=b --c"⟩] ["--config=generate", "-v"] _ (by decide) (by decide) ?_ ?_
    · exact .cons rfl (.cons (.inr ⟨'v', rfl, rfl⟩) .nil)
    · exact .cons rfl (.cons rfl .nil)
  have behind : Arranged "generate" markedOptions
      ["generate", "--schema-path=a=b --c", "--verbose", "--seed=+7", "--config=generate"] := by
    refine @Arranged.mk _ _ [] [⟨.schemaPath, some "a=b --c"⟩, ⟨.verbose, none⟩, ⟨.seed, some "+7"⟩,
      ⟨.config, some "generate"⟩] [] _ (by decide) (by decide) .nil ?_
    exact .cons rfl (.cons (.inl rfl) (.cons rfl (.cons rfl .nil)))
  have parsed : Invocation.ofArguments ["--config=generate", "-v", "generate", "--seed=+7", "--schema-path=a=b --c"] =
      .ok ⟨some "generate", none, true, .generate ⟨"a=b --c", none, none, some 7⟩⟩ := by decide
  exact ⟨options, apart, behind, parsed, (ofArguments_arranged (by decide) options apart behind parsed).1⟩

end Fixtures.CommandLine
