import Fixtures.Text.Word

/-!
# Switches

The command line of the program has two commands. Each level of it, the program's own and one for each
command, knows a number of switches. A switch has a long name, perhaps a letter, and perhaps takes a value.
-/

namespace Fixtures.CommandLine

/-- A named option of the command line. -/
inductive Switch where
  | config
  | logFile
  | verbose
  | help
  | version
  | schemaPath
  | numDocuments
  | outDir
  | seed
  | keypath
  deriving DecidableEq, Repr

namespace Switch

/-- The name that follows two dashes. -/
def long : Switch → String
  | config => "config"
  | logFile => "log-file"
  | verbose => "verbose"
  | help => "help"
  | version => "version"
  | schemaPath => "schema-path"
  | numDocuments => "num-documents"
  | outDir => "out-dir"
  | seed => "seed"
  | keypath => "keypath"

/-- The letter that follows one dash. -/
def letter? : Switch → Option Char
  | verbose => some 'v'
  | help => some 'h'
  | version => some 'V'
  | schemaPath => some 's'
  | numDocuments => some 'n'
  | keypath => some 'k'
  | config | logFile | outDir | seed => none

/-- What the value is called in messages, for the switches that take one. -/
def value? : Switch → Option String
  | config | logFile | schemaPath | keypath => some "PATH"
  | outDir => some "DIR"
  | numDocuments => some "COUNT"
  | seed => some "SEED"
  | verbose | help | version => none

/-- Whether a value belongs to the switch. -/
def takesValue (s : Switch) : Bool := s.value?.isSome

/-- A switch as messages show it. -/
def shown (s : Switch) : String :=
  match s.value? with
  | some value => "--" ++ s.long ++ " <" ++ value ++ ">"
  | none => "--" ++ s.long

end Switch

/-- A level of the command line. -/
inductive Level where
  | program
  | generate
  | exportMongodb
  deriving DecidableEq, Repr

namespace Level

/-- The switches that a level knows; those of the program are known to its commands too, but for the
version. -/
def switches : Level → List Switch
  | program => [.config, .logFile, .verbose, .help, .version]
  | generate =>
    [.schemaPath, .numDocuments, .outDir, .seed, .config, .logFile, .verbose, .help]
  | exportMongodb => [.keypath, .outDir, .config, .logFile, .verbose, .help]

/-- The switch of a long name. -/
def long? (level : Level) (name : String) : Option Switch :=
  level.switches.find? (·.long = name)

/-- The switch of a letter. -/
def letter? (level : Level) (c : Char) : Option Switch :=
  level.switches.find? (·.letter? = some c)

/-- The levels below the program, by the names of their commands. -/
def commands : List (String × Level) :=
  [("generate", generate), ("export-mongodb", exportMongodb)]

end Level

/-- Why arguments were refused, or what they ask for instead of a run. -/
inductive Refusal where
  | unexpectedArgument (shown : String)
  | unexpectedValue (value : String) (switch : Switch)
  | missingValue (switch : Switch)
  | repeated (switch : Switch)
  | badNumber (value : String) (switch : Switch) (fault : Text.WordFault)
  | missingSwitch (switch : Switch)
  | unknownCommand (name : String)
  | missingCommand
  | noArguments
  | helpAsked
  | versionAsked
  deriving DecidableEq, Repr

namespace Refusal

/-- The first line of the message; a request for help or the version, and an empty command line, have
none. -/
def message? : Refusal → Option String
  | unexpectedArgument shown => some ("unexpected argument '" ++ shown ++ "' found")
  | unexpectedValue value switch =>
    some ("unexpected value '" ++ value ++ "' for '" ++ switch.shown ++
      "' found; no more were expected")
  | missingValue switch =>
    some ("a value is required for '" ++ switch.shown ++ "' but none was supplied")
  | repeated switch =>
    some ("the argument '" ++ switch.shown ++ "' cannot be used multiple times")
  | badNumber value switch fault =>
    some ("invalid value '" ++ value ++ "' for '" ++ switch.shown ++ "': " ++ fault.message)
  | missingSwitch _ => some "the following required arguments were not provided:"
  | unknownCommand name => some ("unrecognized subcommand '" ++ name ++ "'")
  | missingCommand => some "'datagen' requires a subcommand but one was not provided"
  | noArguments | helpAsked | versionAsked => none

end Refusal

end Fixtures.CommandLine
