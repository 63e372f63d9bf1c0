import Fixtures.CommandLine.Program
import Fixtures.Host.Workspace
import Fixtures.Proofs.CommandLine.Arguments
import Fixtures.Proofs.Files.Reading
import Fixtures.Proofs.Toml.Numbers
import Mathlib.Algebra.Ring.Nat

/-!
# Settings of two sources

The seed and the number of documents of a generation may be given in a file of settings or by switches of the
command line. Switches take every word of 64 bits. A file takes the integers of 64 bits with a sign only, so
the upper half of the words, though such a seed may be drawn and is then shown, cannot stand in a file.

## Main results

* `Settings.ofText_given` is about the file: it gives the settings, or is refused for a number that is too large.
* `ofArguments_withSwitches` is about the switches: they give every setting.
* `optionsFor_withSwitches` and `optionsFor_withFile` are about the options that the two lead to.
-/

namespace Fixtures

open Generation (Count Options)
open CommandLine (Switch Level Given Progress Invocation)

/-! ## A setting and its two forms -/

/-- A setting that is a number. -/
inductive Numeric where
  | seed (s : UInt64)
  | documents (n : Count)

namespace Numeric

/-- The number that is set. -/
def number : Numeric → Nat
  | seed s => s.toNat
  | documents n => n.val

/-- The key of the setting in a file. -/
def key : Numeric → String
  | seed _ => "seed"
  | documents _ => "num_documents"

/-- The switch of the setting. -/
def switch : Numeric → Switch
  | seed _ => .seed
  | documents _ => .numDocuments

/-- What the setting replaces. -/
def overrides : Numeric → Overrides
  | seed s => { seed := some s }
  | documents n => { numDocuments := some n }

/-- The setting in a file. -/
def line (s : Numeric) : String × Nat := (s.key, s.number)

/-- The setting on the command line. -/
def arguments (s : Numeric) : List String := [s.switch.argument, Text.natText s.number]

/-- The text of a file that gives some settings, one on each line. -/
def fileText (given : List Numeric) : String := String.ofList (Toml.numberLines (given.map line))

/-- The default settings with those that are given. -/
def resulting (given : List Numeric) : Settings :=
  given.foldl (fun settings s => settings.override s.overrides) {}

end Numeric

/-! ## The file -/

theorem Settings.decodeWord_integer (s : UInt64) (place : Toml.Span) :
    decodeWord (.integer s.toNat place) = .ok s := by
  have nonneg : (0 : Int) ≤ s.toNat := Int.natCast_nonneg _
  simp only [decodeWord, Toml.unsigned, Nat.cast_zero, if_pos nonneg, Int.toNat_natCast]
  exact congrArg Except.ok UInt64.ofNat_toNat

theorem Settings.decodeCount_integer (n : Count) (place : Toml.Span) :
    decodeCount (.integer n.val place) = .ok n := by
  have positive : ((1 : Nat) : Int) ≤ n.val := Int.ofNat_le.mpr n.pos
  have whole : Count.ofNat? n.val = some n := by rw [Count.ofNat?, dif_pos ⟨n.pos, n.fits⟩]
  simp only [decodeCount, Toml.unsigned, if_pos positive, Int.toNat_natCast, bind, Except.bind, whole]

/-- The fields of settings, as they are decoded. -/
def Settings.fields :
    Data.Fields Toml.Decoder [String, Count, Option UInt64, Option String] :=
  .cons "out_dir" (Toml.text "path string") (some Options.defaultOutDir)
    (.cons "num_documents" decodeCount (some .one)
      (.cons "seed" (Toml.present decodeWord) (some none)
        (.cons "log_file" (Toml.present (Toml.text "path string")) (some none) .nil)))

/-- The settings of a record. -/
def Settings.ofRecord : Data.Record [String, Count, Option UInt64, Option String] → Settings
  | (outDir, numDocuments, seed, logFile, ()) => ⟨outDir, numDocuments, seed, logFile⟩

/-- The settings of what was decoded so far. -/
def Settings.ofSlots : Data.Slots [String, Count, Option UInt64, Option String] → Settings
  | (outDir, numDocuments, seed, logFile, ()) =>
    ⟨outDir.getD Options.defaultOutDir, numDocuments.getD .one, seed.getD none, logFile.getD none⟩

/-- A number of a file is decoded into its slot. -/
theorem Settings.fieldItem_integer (s : Numeric) (place : Toml.Span)
    (slots : Data.Slots [String, Count, Option UInt64, Option String]) :
    ∃ slots', Toml.fieldItem (.integer s.number place) s.key fields slots = .ok slots' ∧
      ofSlots slots' = (ofSlots slots).override s.overrides := by
  obtain ⟨outDir, numDocuments, seed, logFile, ⟨⟩⟩ := slots
  cases s with
  | seed s =>
    refine ⟨(outDir, numDocuments, some (some s), logFile, ()), ?_, rfl⟩
    have word : Toml.present decodeWord (.integer s.toNat place) = .ok (some s) := by
      rw [Toml.present, decodeWord_integer]
      rfl
    simp [Toml.fieldItem, fields, Numeric.key, Numeric.number, word, Except.map]
  | documents n =>
    refine ⟨(outDir, some n, seed, logFile, ()), ?_, rfl⟩
    simp [Toml.fieldItem, fields, Numeric.key, Numeric.number, decodeCount_integer, Except.map]

/-- The numbers of a file are decoded one after another. -/
theorem Settings.members_given {given : List Numeric} {members : Toml.Members}
    (holds : List.Forall₂ Toml.Holds (given.map Numeric.line) members)
    (slots : Data.Slots [String, Count, Option UInt64, Option String]) :
    ∃ slots', Toml.members fields true slots members = .ok slots' ∧
      ofSlots slots' = given.foldl (fun settings s => settings.override s.overrides) (ofSlots slots) := by
  induction given generalizing members slots with
  | nil =>
    cases holds
    exact ⟨slots, rfl, rfl⟩
  | cons s given ih =>
    obtain ⟨⟨⟨name, keyPlace⟩, item⟩, members, ⟨rfl, place, rfl⟩, rest, rfl⟩ := List.forall₂_cons_left_iff.mp holds
    obtain ⟨slots', decoded, set⟩ := fieldItem_integer s place slots
    obtain ⟨last, done, resulting⟩ := ih rest slots'
    have known : fields.names.contains s.key = true := by
      cases s
      · exact (by decide : fields.names.contains "seed" = true)
      · exact (by decide : fields.names.contains "num_documents" = true)
    refine ⟨last, ?_, by rw [resulting, set, List.foldl_cons]⟩
    simp only [Toml.members, Numeric.line, known, decoded, done, Bool.not_true, Bool.and_false,
      Bool.false_eq_true, if_false]

/-- What was decoded is completed by the defaults. -/
theorem Settings.finish_eq (slots : Data.Slots [String, Count, Option UInt64, Option String]) :
    ∃ values, fields.finish slots = .ok values ∧ ofRecord values = ofSlots slots := by
  obtain ⟨outDir, numDocuments, seed, logFile, ⟨⟩⟩ := slots
  refine ⟨(outDir.getD Options.defaultOutDir, numDocuments.getD .one, seed.getD none, logFile.getD none, ()),
    ?_, rfl⟩
  cases outDir <;> cases numDocuments <;> cases seed <;> cases logFile <;> rfl

/-- A table of settings is decoded to them. -/
theorem Settings.decode_given {given : List Numeric} {members : Toml.Members}
    (holds : List.Forall₂ Toml.Holds (given.map Numeric.line) members) (span : Option Toml.Span) :
    decode (.table .header members span) = .ok (Numeric.resulting given) := by
  obtain ⟨slots, decoded, set⟩ := members_given holds fields.empty
  obtain ⟨values, finished, settings⟩ := finish_eq slots
  have record : decode = Toml.record fields true ofRecord := rfl
  rw [record, Toml.record]
  refine Runs.except_bind_eq_ok.mpr ⟨slots, decoded, ?_⟩
  simp only [finished]
  exact congrArg Except.ok (settings.trans set)

/-- The keys of the settings are written without quotes. -/
theorem Numeric.isBareKey_key (s : Numeric) : Toml.IsBareKey s.key.toList := by
  cases s
  · exact (⟨by decide, List.all_eq_true.mp rfl⟩ : Toml.IsBareKey "seed".toList)
  · exact (⟨by decide, List.all_eq_true.mp rfl⟩ : Toml.IsBareKey "num_documents".toList)

/-- A text of settings is read if their numbers are integers of 64 bits with a sign, and else refused. -/
theorem Settings.ofText_given {given : List Numeric} (once : (given.map Numeric.key).Nodup) (path : String) :
    if ∀ s ∈ given, s.number < 2 ^ 63 then
      ofText path (Numeric.fileText given) = .ok (Numeric.resulting given)
    else ∃ message, ofText path (Numeric.fileText given) = .error (.invalid path message) := by
  have plain : ∀ line ∈ given.map Numeric.line, Toml.IsBareKey line.1.toList := by
    intro line hline
    obtain ⟨s, -, rfl⟩ := List.mem_map.mp hline
    exact s.isBareKey_key
  have distinct : ((given.map Numeric.line).map (·.1)).Nodup := by
    rw [List.map_map]
    exact once
  have bound : (∀ line ∈ given.map Numeric.line, (line.2 : Int) ≤ Text.greatestInt) ↔
      ∀ s ∈ given, s.number < 2 ^ 63 := by
    simp only [List.forall_mem_map, Numeric.line, Text.greatestInt]
    exact forall₂_congr fun s _ => by omega
  have parsed := Toml.parse_numberLines plain distinct
  simp only [bound] at parsed
  rw [ofText, Toml.decodeAll, Numeric.fileText]
  split at parsed
  · obtain ⟨members, span, holds, parsed⟩ := parsed
    rw [if_pos ‹_›, parsed]
    show ((decode (.table .header members span)).mapError _).mapError _ = _
    rw [decode_given holds]
    rfl
  · obtain ⟨fault, parsed⟩ := parsed
    rw [if_neg ‹_›, parsed]
    exact ⟨_, rfl⟩

/-! ## The command line -/

namespace CommandLine

open Numeric (resulting)

/-- What was given with a further setting. -/
def Given.take (g : Given) : Numeric → Given
  | .seed s => { g with seed := some s }
  | .documents n => { g with numDocuments := some n }

/-- Whether a setting was given before. -/
def Given.lacks (g : Given) : Numeric → Prop
  | .seed _ => g.seed = none
  | .documents _ => g.numDocuments = none

theorem Given.readWord_natText (switch : Switch) {n : Nat} (fits : n < UInt64.size) :
    readWord switch (Text.natText n) = .ok n := by
  rw [readWord, Text.natText, String.toList_ofList, Text.readWord_natDigits fits]

/-- A number is taken over at its value. -/
theorem Given.accept_numeric {g : Given} {s : Numeric} (new : g.lacks s) :
    g.accept s.switch (some (Text.natText s.number)) = .ok (g.take s) := by
  cases s with
  | seed s =>
    have seedless : g.seed = none := new
    have read : readSeed .seed (Text.natText s.toNat) = .ok s := by
      rw [readSeed, readWord_natText _ s.toNat_lt]
      exact congrArg Except.ok UInt64.ofNat_toNat
    simp only [accept, Numeric.switch, Numeric.number, seedless, fill, read]
    rfl
  | documents n =>
    have countless : g.numDocuments = none := new
    have whole : Count.ofNat? n.val = some n := by rw [Count.ofNat?, dif_pos ⟨n.pos, n.fits⟩]
    have read : readCount .numDocuments (Text.natText n.val) = .ok n := by
      simp only [readCount, readWord_natText _ n.fits, bind, Except.bind, whole]
    simp only [accept, Numeric.switch, Numeric.number, countless, fill, read]
    rfl

/-- A setting is not given by one of another kind. -/
theorem Given.lacks_take {g : Given} {s t : Numeric} (new : g.lacks t) (other : t.key ≠ s.key) :
    (g.take s).lacks t := by
  cases s <;> cases t <;> first | exact new | exact absurd rfl other

/-- Settings that are given once are all taken over. -/
theorem readCommand_numeric {given : List Numeric} (once : (given.map Numeric.key).Nodup) {p : Progress}
    {g : Given} (settled : p.settle = .ok g) (new : ∀ s ∈ given, g.lacks s) :
    readCommand .generate p (given.flatMap Numeric.arguments) = .ok (given.foldl Given.take g) := by
  induction given generalizing p g with
  | nil =>
    rw [List.flatMap_nil, readCommand, settled]
    rfl
  | cons s given ih =>
    rw [List.map_cons, List.nodup_cons] at once
    have known : Level.generate.long? s.switch.long = some s.switch := by
      cases s
      · exact (by decide : Level.generate.long? Switch.seed.long = some .seed)
      · exact (by decide : Level.generate.long? Switch.numDocuments.long = some .numDocuments)
    have valued : s.switch.takesValue = true := by cases s <;> rfl
    have plain : (Text.natText s.number).toList.head? ≠ some '-' := by
      rw [Text.natText, String.toList_ofList]
      intro first
      exact absurd (Text.isDigit_of_mem_natDigits (List.mem_of_mem_head? first)) (by decide)
    have next : Progress.settle ⟨g, some (s.switch, some (Text.natText s.number))⟩ = .ok (g.take s) :=
      Given.accept_numeric (new s List.mem_cons_self)
    have others : ∀ t ∈ given, (g.take s).lacks t := fun t ht =>
      Given.lacks_take (new t (List.mem_cons_of_mem _ ht)) fun same =>
        once.1 (same ▸ List.mem_map.mpr ⟨t, ht, rfl⟩)
    rw [List.flatMap_cons, Numeric.arguments, List.cons_append, List.cons_append, List.nil_append,
      readCommand_argument known valued p plain, settled]
    exact ih once.2 next others

/-- What was given replaces what the settings that were taken over do. -/
theorem override_take (base : Settings) (schema : String) (given : List Numeric) (g : Given) :
    base.override (GenerateRequest.overrides
        ⟨schema, (given.foldl Given.take g).numDocuments, none, (given.foldl Given.take g).seed⟩) =
      given.foldl (fun settings s => settings.override s.overrides)
        (base.override (GenerateRequest.overrides ⟨schema, g.numDocuments, none, g.seed⟩)) := by
  induction given generalizing g with
  | nil => rfl
  | cons s given ih =>
    rw [List.foldl_cons, List.foldl_cons, ih]
    cases s <;> rfl

/-! ## The options of a command line -/

/-- The options with which the generating command would generate, if the arguments ask for it. -/
def optionsFor (args : List String) (w : Workspace) : Option (Except SettingsError Options) :=
  match Invocation.ofArguments args with
  | .ok ⟨config, logFile, _, .generate request⟩ =>
    some ((Settings.load (m := StateM Workspace) config w).1.map fun settings =>
      ((settings.override { logFile }).override request.overrides).options)
  | _ => none

/-- The arguments that generate with the settings of a file: the named one, or that of the current
directory. -/
def withFile (schema : String) (config : Option String) : List String :=
  "generate" :: Switch.schemaPath.attachedTo schema :: (config.map Switch.config.attachedTo).toList

/-- The arguments that generate with settings of their own. -/
def withSwitches (schema : String) (given : List Numeric) : List String :=
  "generate" :: Switch.schemaPath.attachedTo schema :: given.flatMap Numeric.arguments

/-- Nothing but numbers is taken over with them. -/
theorem foldl_take (given : List Numeric) (g : Given) :
    given.foldl Given.take g =
      { g with
        seed := (given.foldl Given.take g).seed
        numDocuments := (given.foldl Given.take g).numDocuments } := by
  induction given generalizing g with
  | nil => rfl
  | cons s given ih =>
    rw [List.foldl_cons, ih]
    cases s <;> rfl

/-- What the switches of some settings give beside a schema. -/
def taken (schema : String) (given : List Numeric) : Given := given.foldl Given.take { schemaPath := some schema }

section Arguments

variable {schema : String} (named : schema ≠ "")
include named

theorem settle_schemaPath (rest : List String) :
    readCommand .generate {} (Switch.schemaPath.attachedTo schema :: rest) =
      readCommand .generate ⟨{ schemaPath := some schema }, none⟩ rest := by
  have known : Level.generate.long? Switch.schemaPath.long = some .schemaPath := by decide
  have filled : Given.accept {} .schemaPath (some schema) = .ok { schemaPath := some schema } := by
    have nonempty : schema.isEmpty = false := by simpa using named
    simp only [Given.accept, Given.fill, Given.readPath, nonempty]
    rfl
  rw [readCommand_attachedTo known rfl]
  show ((Given.accept {} .schemaPath (some schema)).bind _) = _
  rw [filled]
  rfl

theorem ofArguments_withSwitches {given : List Numeric} (once : (given.map Numeric.key).Nodup) :
    Invocation.ofArguments (withSwitches schema given) =
      .ok ⟨none, none, false, .generate
        ⟨schema, (taken schema given).numDocuments, none, (taken schema given).seed⟩⟩ := by
  have only : taken schema given =
      { schemaPath := some schema, seed := (taken schema given).seed,
        numDocuments := (taken schema given).numDocuments } := foldl_take given _
  have read : readCommand .generate {} (Switch.schemaPath.attachedTo schema :: given.flatMap Numeric.arguments) =
      .ok (taken schema given) := by
    rw [settle_schemaPath named]
    refine readCommand_numeric once rfl fun s _ => ?_
    cases s <;> rfl
  have complete : (taken schema given).command .generate = .ok (.generate
      ⟨schema, (taken schema given).numDocuments, none, (taken schema given).seed⟩) := by
    rw [only]
    rfl
  rw [withSwitches, ofArguments_command .generate (by decide) (by decide) read complete, only]
  rfl

theorem ofArguments_withFile {config : Option String} (nonempty : ∀ path ∈ config, path ≠ "") :
    Invocation.ofArguments (withFile schema config) =
      .ok ⟨config, none, false, .generate ⟨schema, none, none, none⟩⟩ := by
  have known : Level.generate.long? Switch.config.long = some .config := by decide
  have read : readCommand .generate {}
      (Switch.schemaPath.attachedTo schema :: (config.map Switch.config.attachedTo).toList) =
      .ok { schemaPath := some schema, config } := by
    rw [settle_schemaPath named]
    cases config with
    | none => rfl
    | some path =>
      have there : path.isEmpty = false := by simpa using nonempty path rfl
      have filled : Given.accept { schemaPath := some schema } .config (some path) =
          .ok { schemaPath := some schema, config := some path } := by
        simp only [Given.accept, Given.fill, Given.readPath, there]
        rfl
      rw [Option.map_some, Option.toList_some, readCommand_attachedTo known rfl]
      show ((Given.accept { schemaPath := some schema } .config (some path)).bind _) = _
      rw [filled]
      rfl
  rw [withFile, ofArguments_command .generate (by decide) (by decide) read rfl]
  cases config <;> rfl

end Arguments

end CommandLine

/-! ## Reading the file of a workspace -/

/-- A text that is there is read as settings. -/
theorem Settings.read_there {w : Workspace} {path text : String} (there : w.files.read path = .ok (.text text)) :
    (read (m := StateM Workspace) path w).1 = ofText path text := by
  rw [read, Runs.bind_apply, Runs.adapt_apply, Files.readText_there there]
  rfl

/-- A file that is there is read, whether it is named or not. -/
theorem Settings.load_there {w : Workspace} {config : Option String} {text : String}
    (there : w.files.read (config.getD defaultFile) = .ok (.text text)) :
    (load (m := StateM Workspace) config w).1 = ofText (config.getD defaultFile) text := by
  have found := Files.isSome_find_of_read there
  cases config with
  | none =>
    rw [Option.getD_none] at there found ⊢
    simp only [load, Runs.lift_bind, Files.isPresent_apply, found, if_true]
    exact read_there there
  | some path =>
    rw [Option.getD_some] at there found ⊢
    simp only [load, Runs.lift_bind, Files.isPresent_apply, found, if_true]
    exact read_there there

/-- Without a file in the current directory the defaults hold. -/
theorem Settings.load_absent {w : Workspace} (absent : (w.files.find defaultFile).toOption = none) :
    (load (m := StateM Workspace) none w).1 = .ok {} := by
  simp only [load, Runs.lift_bind, Files.isPresent_apply, absent]
  rfl

/-! ## Both sources -/

namespace CommandLine

/-- Switches give every setting to the options. -/
theorem optionsFor_withSwitches {schema : String} (named : schema ≠ "") {given : List Numeric}
    (once : (given.map Numeric.key).Nodup) {w : Workspace}
    (absent : (w.files.find Settings.defaultFile).toOption = none) :
    optionsFor (withSwitches schema given) w = some (.ok (Numeric.resulting given).options) := by
  simp only [optionsFor, ofArguments_withSwitches named once, Settings.load_absent absent, Except.map]
  exact congrArg (fun settings : Settings => some (Except.ok settings.options))
    (override_take {} schema given { schemaPath := some schema })

/-- A file gives every setting to the options, unless a number of it is too large. -/
theorem optionsFor_withFile {schema : String} (named : schema ≠ "") {given : List Numeric}
    (once : (given.map Numeric.key).Nodup) {config : Option String} (nonempty : ∀ path ∈ config, path ≠ "")
    {w : Workspace}
    (there : w.files.read (config.getD Settings.defaultFile) = .ok (.text (Numeric.fileText given))) :
    if ∀ s ∈ given, s.number < 2 ^ 63 then
      optionsFor (withFile schema config) w = some (.ok (Numeric.resulting given).options)
    else ∃ message, optionsFor (withFile schema config) w =
      some (.error (.invalid (config.getD Settings.defaultFile) message)) := by
  have read := Settings.ofText_given once (config.getD Settings.defaultFile)
  simp only [optionsFor, ofArguments_withFile named nonempty, Settings.load_there there]
  split at read
  · rw [if_pos ‹_›, read]
    rfl
  · rw [if_neg ‹_›]
    obtain ⟨message, read⟩ := read
    exact ⟨message, by rw [read]; rfl⟩

/-- A workspace whose current directory holds a file of some settings. -/
def settled (given : List Numeric) : Workspace where
  files := (Files.Tree.empty "workspace").set ["datagen.toml", "workspace"] (.file (.text (Numeric.fileText given)))
  clock := 0
  seed := 0
  console := ""

/-- Settings given by switches always become the options of the generation. The same settings in a file do so
exactly if their numbers are below 2^63; otherwise the file is refused as a whole. -/
theorem optionsFor_of_sources {schema : String} (named : schema ≠ "") {given : List Numeric}
    (once : (given.map Numeric.key).Nodup) {config : Option String} (nonempty : ∀ path ∈ config, path ≠ "")
    {w bare : Workspace}
    (there : w.files.read (config.getD Settings.defaultFile) = .ok (.text (Numeric.fileText given)))
    (absent : (bare.files.find Settings.defaultFile).toOption = none) :
    optionsFor (withSwitches schema given) bare = some (.ok (Numeric.resulting given).options) ∧
      if ∀ s ∈ given, s.number < 2 ^ 63 then
        optionsFor (withFile schema config) w = optionsFor (withSwitches schema given) bare
      else ∃ message, optionsFor (withFile schema config) w =
        some (.error (.invalid (config.getD Settings.defaultFile) message)) := by
  have switched := optionsFor_withSwitches named once absent
  refine ⟨switched, ?_⟩
  rw [switched]
  exact optionsFor_withFile named once nonempty there

theorem optionsFor_greatest_seed :
    optionsFor (withFile "s.graphql" none) (settled [.seed 9223372036854775807, .documents .one]) =
        optionsFor (withSwitches "s.graphql" [.seed 9223372036854775807, .documents .one]) (.empty 0 0) ∧
      optionsFor (withSwitches "s.graphql" [.seed 9223372036854775807, .documents .one]) (.empty 0 0) =
        some (.ok ⟨"datagen", .one, some 9223372036854775807⟩) := by
  have once : (([.seed 9223372036854775807, .documents .one] : List Numeric).map Numeric.key).Nodup := by decide
  have small : ∀ s ∈ ([.seed 9223372036854775807, .documents .one] : List Numeric), s.number < 2 ^ 63 := by decide
  have both := @optionsFor_of_sources "s.graphql" (by decide) _ once none (by simp) (settled _) (.empty 0 0) rfl rfl
  rw [if_pos small] at both
  exact both.symm

/-- A seed of 2^63 may be given by a switch, but not in a file. -/
theorem optionsFor_seed_in_upper_half :
    optionsFor (withSwitches "s.graphql" [.seed 9223372036854775808, .documents .one]) (.empty 0 0) =
        some (.ok ⟨"datagen", .one, some 9223372036854775808⟩) ∧
      optionsFor (withFile "s.graphql" none) (settled [.seed 9223372036854775808, .documents .one]) ≠
        optionsFor (withSwitches "s.graphql" [.seed 9223372036854775808, .documents .one]) (.empty 0 0) := by
  have once : (([.seed 9223372036854775808, .documents .one] : List Numeric).map Numeric.key).Nodup := by decide
  have large : ¬ ∀ s ∈ ([.seed 9223372036854775808, .documents .one] : List Numeric), s.number < 2 ^ 63 := by decide
  have switched := @optionsFor_withSwitches "s.graphql" (by decide) _ once (.empty 0 0) rfl
  have filed := @optionsFor_withFile "s.graphql" (by decide) _ once none (by simp)
    (settled [.seed 9223372036854775808, .documents .one]) rfl
  rw [if_neg large] at filed
  obtain ⟨message, refused⟩ := filed
  refine ⟨switched, ?_⟩
  rw [switched, refused]
  intro same
  cases same

end CommandLine

end Fixtures
