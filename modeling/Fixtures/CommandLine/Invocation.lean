import Fixtures.CommandLine.Switch
import Fixtures.Generation.Report
import Fixtures.Text.Split

/-!
# Invocations

An invocation is what the arguments of the program say. It is read level by level from the left. A
switch without an attached value waits for the next argument; a switch is taken over, and its value
judged, only when the next switch comes or the level ends. What a command says about a switch of the
program wins over what stands before the command.
-/

namespace Fixtures.CommandLine

open Generation (Count)

/-! ## What a level says -/

/-- The switches given at one level, with their values. -/
structure Given where
  config : Option String := none
  logFile : Option String := none
  verbose : Bool := false
  schemaPath : Option String := none
  numDocuments : Option Count := none
  outDir : Option String := none
  seed : Option UInt64 := none
  keypath : Option String := none
  deriving DecidableEq

namespace Given

/-- Reads a path, which must not be empty. -/
def readPath (switch : Switch) (value : String) : Except Refusal String :=
  if value.isEmpty then .error (.missingValue switch) else .ok value

/-- Reads a 64-bit word. -/
def readWord (switch : Switch) (value : String) : Except Refusal Nat :=
  match Text.readWord value.toList with
  | .ok n => .ok n
  | .error fault => .error (.badNumber value switch fault)

/-- Reads a count, which must not be zero. -/
def readCount (switch : Switch) (value : String) : Except Refusal Count := do
  match Count.ofNat? (← readWord switch value) with
  | some count => .ok count
  | none => .error (.badNumber value switch .zero)

/-- Reads a seed. -/
def readSeed (switch : Switch) (value : String) : Except Refusal UInt64 :=
  UInt64.ofNat <$> readWord switch value

/-- The value of a switch: one must be there, and the switch must not have one yet. -/
def fill {α : Type} (switch : Switch) (read : Switch → String → Except Refusal α)
    (before : Option α) (value : Option String) : Except Refusal (Option α) :=
  match value, before with
  | none, _ => .error (.missingValue switch)
  | some _, some _ => .error (.repeated switch)
  | some value, none => some <$> read switch value

/-- Takes a switch over. -/
def accept (g : Given) (switch : Switch) (value : Option String) : Except Refusal Given :=
  match switch with
  | .help => .error .helpAsked
  | .version => .error .versionAsked
  | .verbose => if g.verbose then .error (.repeated .verbose) else .ok { g with verbose := true }
  | .config => do .ok { g with config := ← fill switch readPath g.config value }
  | .logFile => do .ok { g with logFile := ← fill switch readPath g.logFile value }
  | .schemaPath => do .ok { g with schemaPath := ← fill switch readPath g.schemaPath value }
  | .numDocuments => do .ok { g with numDocuments := ← fill switch readCount g.numDocuments value }
  | .outDir => do .ok { g with outDir := ← fill switch readPath g.outDir value }
  | .seed => do .ok { g with seed := ← fill switch readSeed g.seed value }
  | .keypath => do .ok { g with keypath := ← fill switch readPath g.keypath value }

end Given

/-! ## One argument -/

/-- How far a level has been read: the switches taken over, and the one that comes next with the value
found for it. -/
structure Progress where
  given : Given := {}
  next : Option (Switch × Option String) := none

namespace Progress

/-- Takes the next switch over. -/
def settle (p : Progress) : Except Refusal Given :=
  match p.next with
  | some (switch, value) => p.given.accept switch value
  | none => .ok p.given

/-- Takes the next switch over, and then one that needs no further argument. -/
def add (p : Progress) (switch : Switch) (value : Option String) : Except Refusal Progress := do
  .ok { given := ← (← p.settle).accept switch value }

/-- Takes the next switch over and lets another one wait for its value. -/
def await (p : Progress) (switch : Switch) : Except Refusal Progress := do
  .ok { given := ← p.settle, next := some (switch, none) }

/-- The switch that waits for a value. -/
def waiting? (p : Progress) : Option Switch :=
  match p.next with
  | some (switch, none) => some switch
  | _ => none

/-- Reads what follows two dashes: a name, and a value after an equals sign. -/
def readLong (level : Level) (p : Progress) (text : List Char) : Except Refusal Progress :=
  let (name, value) :=
    match Text.cutFirst '=' text with
    | some (name, value) => (String.ofList name, some (String.ofList value))
    | none => (String.ofList text, none)
  match level.long? name, value with
  | none, _ => .error (.unexpectedArgument ("--" ++ name))
  | some switch, none => if switch.takesValue then p.await switch else p.add switch none
  | some switch, some value =>
    if switch.takesValue then p.add switch (some value)
    else .error (.unexpectedValue value switch)

/-- The value attached to a letter, which an equals sign may set off. -/
def attached : List Char → String
  | '=' :: value => String.ofList value
  | value => String.ofList value

/-- Reads the letters that follow one dash. The first letter that takes a value takes the rest. -/
def readLetters (level : Level) (p : Progress) : List Char → Except Refusal Progress
  | [] => .ok p
  | c :: rest =>
    match level.letter? c with
    | none => .error (.unexpectedArgument (String.ofList ['-', c]))
    | some switch =>
      if switch.takesValue then
        if rest.isEmpty then p.await switch else p.add switch (some (attached rest))
      else
        match p.add switch none with
        | .ok p => readLetters level p rest
        | .error refusal => .error refusal

/-- Reads one argument; an argument that is neither a switch nor awaited is no part of a level. -/
def read (level : Level) (p : Progress) (arg : String) : Except Refusal (Option Progress) :=
  match arg.toList, p.waiting? with
  | '-' :: '-' :: text, _ => some <$> p.readLong level text
  | '-' :: c :: text, _ => some <$> p.readLetters level (c :: text)
  | _, some switch => .ok (some { p with next := some (switch, some arg) })
  | _, none => .ok none

end Progress

/-! ## Levels -/

/-- Reads the arguments of a command. After two dashes alone nothing may follow. -/
def readCommand (level : Level) (p : Progress) : List String → Except Refusal Given
  | [] => p.settle
  | "--" :: rest =>
    match rest with
    | [] => p.settle
    | arg :: _ => .error (.unexpectedArgument arg)
  | arg :: rest =>
    match p.read level arg with
    | .ok (some p) => readCommand level p rest
    | .ok none => .error (.unexpectedArgument arg)
    | .error refusal => .error refusal

/-- What the generating command is told. -/
structure GenerateRequest where
  schemaPath : String
  numDocuments : Option Count
  outDir : Option String
  seed : Option UInt64
  deriving DecidableEq

/-- What the exporting command is told. -/
structure ExportRequest where
  keypath : String
  outDir : Option String
  deriving DecidableEq

/-- A command with what it is told. -/
inductive Command where
  | generate (request : GenerateRequest)
  | exportMongodb (request : ExportRequest)
  deriving DecidableEq

/-- What the arguments of the program say. -/
structure Invocation where
  config : Option String
  logFile : Option String
  verbose : Bool
  command : Command
  deriving DecidableEq

/-- The command of a level, if the switch that it requires is given. -/
def Given.command (g : Given) : Level → Except Refusal Command
  | .program => .error .missingCommand
  | .generate =>
    match g.schemaPath with
    | some path => .ok (.generate ⟨path, g.numDocuments, g.outDir, g.seed⟩)
    | none => .error (.missingSwitch .schemaPath)
  | .exportMongodb =>
    match g.keypath with
    | some path => .ok (.exportMongodb ⟨path, g.outDir⟩)
    | none => .error (.missingSwitch .keypath)

/-- An invocation from what was given before a command and after it. -/
def Invocation.ofLevels (program command : Given) (c : Command) : Invocation :=
  ⟨command.config.or program.config, command.logFile.or program.logFile,
    command.verbose || program.verbose, c⟩

/-- The end of the arguments without a command. -/
def endWithoutCommand (p : Progress) : Refusal :=
  match p.settle with
  | .error refusal => refusal
  | .ok given => if given = {} then .noArguments else .missingCommand

/-- Whether a word is the name of a command, the one for help included. -/
def isCommandName (word : String) : Bool :=
  word = "help" || (Level.commands.lookup word).isSome

/-- What help is asked about: nothing, or one command. -/
def readHelp : List String → Refusal
  | [] => .helpAsked
  | word :: rest =>
    if isCommandName word then
      match rest with
      | [] => .helpAsked
      | other :: _ => .unknownCommand other
    else .unknownCommand word

/-- Reads the arguments of the program up to its command, and the command with what follows. The
command is judged as a whole before the last switch of the program. -/
def readProgram (p : Progress) : List String → Except Refusal Invocation
  | [] => .error (endWithoutCommand p)
  | arg :: rest =>
    if p.waiting?.isNone && arg = "help" then .error (readHelp rest)
    else
      match if p.waiting?.isNone then Level.commands.lookup arg else none with
      | some level => do
        let given ← readCommand level {} rest
        let command ← given.command level
        .ok (.ofLevels (← p.settle) given command)
      | none =>
        if arg = "--" then
          match rest with
          | [] => .error (endWithoutCommand p)
          | word :: _ =>
            if isCommandName word then .error (.unexpectedArgument word)
            else .error (.unknownCommand word)
        else
          match p.read .program arg with
          | .ok (some p) => readProgram p rest
          | .ok none => .error (.unknownCommand arg)
          | .error refusal => .error refusal

/-- The invocation that arguments say. -/
def Invocation.ofArguments (args : List String) : Except Refusal Invocation :=
  readProgram {} args

end Fixtures.CommandLine
