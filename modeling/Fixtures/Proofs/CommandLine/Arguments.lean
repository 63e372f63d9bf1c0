import Fixtures.CommandLine.Invocation
import Fixtures.Proofs.Text.Cutting

/-!
# Arguments read one after another

A switch that takes a value may have it attached behind an equals sign, or in the next argument. In either
form the switch before it is taken over first. The lemmas have the rest of the arguments as a parameter, so that
they can be put together along a command line.
-/

namespace Fixtures.CommandLine

/-- The argument of a switch alone. -/
def Switch.argument (s : Switch) : String := "--" ++ s.long

/-- The argument of a switch with its value attached. -/
def Switch.attachedTo (s : Switch) (value : String) : String := "--" ++ s.long ++ "=" ++ value

/-- No name of a switch holds the mark that sets off a value. -/
theorem Switch.not_mem_long (s : Switch) : '=' ∉ s.long.toList := by
  cases s <;> decide

theorem Switch.long_ne_empty (s : Switch) : s.long ≠ "" := by
  cases s <;> decide

theorem Switch.argument_ne (s : Switch) : s.argument ≠ "--" := by
  intro h
  have letters : '-' :: '-' :: s.long.toList = ['-', '-'] := by
    simpa [argument] using congrArg String.toList h
  exact s.long_ne_empty (by simpa using letters)

theorem Switch.attachedTo_ne (s : Switch) (value : String) : s.attachedTo value ≠ "--" := by
  intro h
  have letters : '-' :: '-' :: (s.long.toList ++ '=' :: value.toList) = ['-', '-'] := by
    simpa [attachedTo] using congrArg String.toList h
  simp at letters

/-- An argument other than two dashes alone is read, if the level can use it. -/
theorem readCommand_cons {level : Level} {arg : String} (notEnd : arg ≠ "--") (p : Progress)
    (rest : List String) :
    readCommand level p (arg :: rest) =
      match p.read level arg with
      | .ok (some p) => readCommand level p rest
      | .ok none => .error (.unexpectedArgument arg)
      | .error refusal => .error refusal := by
  rw [readCommand] <;> first | rfl | exact notEnd

/-- An argument before the command that is no name of one is read like those behind it. -/
theorem readProgram_cons {p : Progress} (waitless : p.waiting? = none) {arg : String} (notHelp : arg ≠ "help")
    (notEnd : arg ≠ "--") (notCommand : Level.commands.lookup arg = none) (rest : List String) :
    readProgram p (arg :: rest) =
      match p.read .program arg with
      | .ok (some p) => readProgram p rest
      | .ok none => .error (.unknownCommand arg)
      | .error refusal => .error refusal := by
  rw [readProgram.eq_def]
  rcases read : p.read .program arg with refusal | _ | next <;>
    simp only [waitless, Option.isNone_none, notHelp, decide_false, Bool.and_false, Bool.false_eq_true, if_false,
      if_true, notCommand, notEnd, read]

section Switch

variable {level : Level} {switch : Switch} (known : level.long? switch.long = some switch)
  (valued : switch.takesValue = true) (p : Progress)
include known valued

theorem Progress.read_argument :
    p.read level switch.argument = p.settle.map fun given => some ⟨given, some (switch, none)⟩ := by
  have letters : switch.argument.toList = '-' :: '-' :: switch.long.toList := by simp [Switch.argument]
  have whole : Text.cutFirst '=' switch.long.toList = none := Text.cutFirst_eq_none.mpr switch.not_mem_long
  simp only [Progress.read, letters, Progress.readLong, whole, String.ofList_toList, known, valued, if_true,
    Progress.await]
  cases p.settle <;> rfl

theorem Progress.read_attachedTo (value : String) :
    p.read level (switch.attachedTo value) =
      (p.settle.bind fun given => given.accept switch (some value)).map fun given => some ⟨given, none⟩ := by
  have letters : (switch.attachedTo value).toList = '-' :: '-' :: (switch.long.toList ++ '=' :: value.toList) := by
    simp [Switch.attachedTo]
  have parts := Text.cutFirst_append switch.not_mem_long value.toList
  simp only [Progress.read, letters, Progress.readLong, parts, String.ofList_toList, known, valued, if_true,
    Progress.add]
  cases p.settle with
  | error refusal => rfl
  | ok given =>
    show (given.accept switch (some value) >>= _) >>= _ = (given.accept switch (some value)).map _
    cases given.accept switch (some value) <;> rfl

/-- A switch waits for the argument that follows it. -/
theorem readCommand_argument {value : String} (plain : value.toList.head? ≠ some '-') (rest : List String) :
    readCommand level p (switch.argument :: value :: rest) =
      p.settle.bind fun given => readCommand level ⟨given, some (switch, some value)⟩ rest := by
  have first : ∀ c text, value.toList = c :: text → c ≠ '-' := by
    rintro c text h rfl
    exact plain (by rw [h]; rfl)
  have notEnd : value ≠ "--" := by
    rintro rfl
    exact first '-' ['-'] rfl rfl
  have awaited (given : Given) : Progress.read level ⟨given, some (switch, none)⟩ value =
      .ok (some ⟨given, some (switch, some value)⟩) := by
    unfold Progress.read
    split
    · exact absurd rfl (first _ _ ‹_›)
    · exact absurd rfl (first _ _ ‹_›)
    · next h _ _ => cases h; rfl
    · next h _ _ => cases h
  rw [readCommand_cons switch.argument_ne, Progress.read_argument known valued p]
  cases p.settle with
  | error refusal => rfl
  | ok given =>
    simp only [Except.map, Except.bind]
    rw [readCommand_cons notEnd, awaited]

/-- A switch with its value is taken over at once. -/
theorem readCommand_attachedTo (value : String) (rest : List String) :
    readCommand level p (switch.attachedTo value :: rest) =
      (p.settle.bind fun given => given.accept switch (some value)).bind fun given =>
        readCommand level ⟨given, none⟩ rest := by
  rw [readCommand_cons (switch.attachedTo_ne value), Progress.read_attachedTo known valued p]
  cases p.settle.bind fun given => given.accept switch (some value) <;> rfl

end Switch

/-- Once no switch waits for a value, the name of a command leaves the rest to the command. -/
theorem readProgram_command (level : Level) {name : String} (known : Level.commands.lookup name = some level)
    (notHelp : name ≠ "help") {p : Progress} (waitless : p.waiting? = none) (rest : List String) :
    readProgram p (name :: rest) =
      readCommand level {} rest >>= fun given =>
        given.command level >>= fun command =>
          p.settle >>= fun before => .ok (.ofLevels before given command) := by
  simp only [readProgram, waitless, Option.isNone_none, notHelp, known, decide_false, Bool.and_false,
    Bool.false_eq_true, if_false, if_true]

/-- A command without switches before it is read as a whole. -/
theorem ofArguments_command (level : Level) {name : String} (known : Level.commands.lookup name = some level)
    (notHelp : name ≠ "help") {rest : List String} {given : Given} {command : Command}
    (read : readCommand level {} rest = .ok given) (complete : given.command level = .ok command) :
    Invocation.ofArguments (name :: rest) = .ok (.ofLevels {} given command) := by
  rw [Invocation.ofArguments, readProgram_command level known notHelp rfl, read]
  show (given.command level >>= _) = _
  rw [complete]
  rfl

end Fixtures.CommandLine
