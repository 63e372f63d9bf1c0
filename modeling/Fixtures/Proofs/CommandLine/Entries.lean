import Fixtures.Proofs.CommandLine.Arguments
import Fixtures.Proofs.Text.Numerals
import Mathlib.Data.List.Nodup

/-!
# Options of a command line

An option of a command line is a switch with the value that it is given. A level that is told some options, each
once, holds what every value means, and nothing for the switches that are not among them (`Told`). This says what
the level holds whatever the order of the options is.

## Shape of the argument

* `Given.value?` and `Given.set` see all fields of a level alike, so that there is one lemma for taking over an
  option (`Given.accept_eq_ok`), and not one for each switch.
* `told_acceptAll` carries `Told` along the options that are taken over, and `acceptAll_ok` says that all of them are
  if their values can be read.
* `Told.unique`: what a level is told determines what it holds.
-/

namespace Fixtures.CommandLine

open Generation (Count)
open Text (IsNumeral)

/-! ## Values -/

/-- What the value of a switch is read as. -/
def Switch.Value : Switch → Type
  | .numDocuments => Count
  | .seed => UInt64
  | .verbose | .help | .version => Unit
  | .config | .logFile | .schemaPath | .outDir | .keypath => String

/-- What the value of a switch stands for: a path for itself, a number for its value. A flag has no value, and help
and the version are no options. -/
def Switch.Means : (s : Switch) → Option String → s.Value → Prop
  | .numDocuments, some value, n => IsNumeral value.toList n.val
  | .seed, some value, n => IsNumeral value.toList n.toNat
  | .config, some value, path | .logFile, some value, path | .schemaPath, some value, path
  | .outDir, some value, path | .keypath, some value, path => path = value
  | .verbose, none, _ => True
  | _, _, _ => False

/-- A value stands for one thing only. -/
theorem Switch.Means.unique {s : Switch} {value : Option String} {a b : s.Value} (ha : s.Means value a)
    (hb : s.Means value b) : a = b := by
  cases value with
  | none => cases s <;> first | exact absurd ha id | rfl
  | some value =>
    cases s with
    | numDocuments =>
      have same : Count.val a = Count.val b := IsNumeral.unique ha hb
      cases a
      cases b
      cases same
      rfl
    | seed => exact UInt64.toNat_inj.mp (IsNumeral.unique ha hb)
    | verbose | help | version => exact absurd ha id
    | config | logFile | schemaPath | outDir | keypath => exact Eq.trans ha (Eq.symm hb)

namespace Given

/-- What a level holds for a switch. -/
def value? (g : Given) : (s : Switch) → Option s.Value
  | .config => g.config
  | .logFile => g.logFile
  | .verbose => if g.verbose then some () else none
  | .help | .version => none
  | .schemaPath => g.schemaPath
  | .numDocuments => g.numDocuments
  | .outDir => g.outDir
  | .seed => g.seed
  | .keypath => g.keypath

/-- A level with a value for a switch. -/
def set (g : Given) : (s : Switch) → s.Value → Given
  | .config, path => { g with config := some path }
  | .logFile, path => { g with logFile := some path }
  | .verbose, _ => { g with verbose := true }
  | .help, _ | .version, _ => g
  | .schemaPath, path => { g with schemaPath := some path }
  | .numDocuments, n => { g with numDocuments := some n }
  | .outDir, path => { g with outDir := some path }
  | .seed, n => { g with seed := some n }
  | .keypath, path => { g with keypath := some path }

theorem value?_set_self (g : Given) {s : Switch} (a : s.Value) (noHelp : s ≠ .help) (noVersion : s ≠ .version) :
    (g.set s a).value? s = some a := by
  cases s <;> first | rfl | exact absurd rfl noHelp | exact absurd rfl noVersion

theorem value?_set_ne (g : Given) {s t : Switch} (other : t ≠ s) (a : s.Value) :
    (g.set s a).value? t = g.value? t := by
  cases s <;> cases t <;> first | rfl | exact absurd rfl other

/-- A level is what it holds. -/
theorem ext_value? {g g' : Given} (h : ∀ s, g.value? s = g'.value? s) : g = g' := by
  obtain ⟨config, logFile, verbose, schemaPath, numDocuments, outDir, seed, keypath⟩ := g
  obtain ⟨config', logFile', verbose', schemaPath', numDocuments', outDir', seed', keypath'⟩ := g'
  have flags : verbose = verbose' := by
    have same := h .verbose
    cases verbose <;> cases verbose' <;> first | rfl | cases same
  cases h .config
  cases h .logFile
  cases h .schemaPath
  cases h .numDocuments
  cases h .outDir
  cases h .seed
  cases h .keypath
  rw [flags]

end Given

/-! ## Options -/

/-- A switch as it is given, with its value if it takes one. -/
structure Entry where
  switch : Switch
  value : Option String
  deriving DecidableEq

namespace Entry

/-- Whether a switch is given as it may be: a switch that takes a value has one that is not empty. -/
structure Formed (e : Entry) : Prop where
  noHelp : e.switch ≠ .help
  noVersion : e.switch ≠ .version
  valued : e.value.isSome = e.switch.takesValue
  nonempty : e.value ≠ some ""

instance (e : Entry) : Decidable e.Formed :=
  decidable_of_iff (e.switch ≠ .help ∧ e.switch ≠ .version ∧ e.value.isSome = e.switch.takesValue ∧ e.value ≠ some "")
    ⟨fun ⟨help, version, valued, nonempty⟩ => ⟨help, version, valued, nonempty⟩,
      fun h => ⟨h.noHelp, h.noVersion, h.valued, h.nonempty⟩⟩

/-- Whether the value of an option can be read. -/
def Readable (e : Entry) : Prop := ∃ a, e.switch.Means e.value a

/-- Takes an option over. -/
def accept (g : Given) (e : Entry) : Except Refusal Given := g.accept e.switch e.value

/-- The only flag among the options is the one for more events in the log. -/
theorem Formed.eq_verbose {e : Entry} (formed : e.Formed) (flag : e.value = none) : e = ⟨.verbose, none⟩ := by
  obtain ⟨switch, value⟩ := e
  obtain ⟨noHelp, noVersion, valued, -⟩ := formed
  obtain rfl : value = none := flag
  cases switch with
  | verbose => rfl
  | help => exact absurd rfl noHelp
  | version => exact absurd rfl noVersion
  | config | logFile | schemaPath | numDocuments | outDir | seed | keypath => exact absurd valued (by decide)

end Entry

namespace Given

variable {g g' : Given} {value : String}

/-- A path that is not empty is read as it is. -/
theorem readPath_of_nonempty (switch : Switch) (nonempty : value ≠ "") : readPath switch value = .ok value := by
  have there : value.isEmpty = false := by simpa using nonempty
  rw [readPath, there, if_neg Bool.false_ne_true]

theorem readWord_eq_ok {switch : Switch} {n : Nat} :
    readWord switch value = .ok n ↔ IsNumeral value.toList n ∧ n < UInt64.size := by
  rw [readWord, ← Text.readWord_eq_ok]
  cases Text.readWord value.toList with
  | ok m => simp
  | error fault => simp

theorem readSeed_eq_ok {switch : Switch} {seed : UInt64} :
    readSeed switch value = .ok seed ↔ IsNumeral value.toList seed.toNat := by
  constructor
  · intro read
    rw [readSeed] at read
    cases word : readWord switch value with
    | error refusal =>
      rw [word] at read
      cases read
    | ok n =>
      rw [word] at read
      cases read
      obtain ⟨numeral, fits⟩ := readWord_eq_ok.mp word
      rwa [UInt64.toNat_ofNat_of_lt' fits]
  · intro numeral
    rw [readSeed, readWord_eq_ok.mpr ⟨numeral, seed.toNat_lt⟩]
    exact congrArg Except.ok UInt64.ofNat_toNat

theorem readCount_eq_ok {switch : Switch} {count : Count} :
    readCount switch value = .ok count ↔ IsNumeral value.toList count.val := by
  constructor
  · intro read
    rw [readCount] at read
    cases word : readWord switch value with
    | error refusal =>
      rw [word] at read
      cases read
    | ok n =>
      obtain ⟨numeral, fits⟩ := readWord_eq_ok.mp word
      simp only [word, bind, Except.bind, Count.ofNat?] at read
      split at read
      · next whole =>
        split at whole
        · cases whole
          cases read
          exact numeral
        · cases whole
      · cases read
  · intro numeral
    have whole : Count.ofNat? count.val = some count := by rw [Count.ofNat?, dif_pos ⟨count.pos, count.fits⟩]
    simp only [readCount, readWord_eq_ok.mpr ⟨numeral, count.fits⟩, bind, Except.bind, whole]

/-- A value is put where there is none yet, if it can be read. -/
theorem fill_eq_ok {α : Type} {switch : Switch} {read : Switch → String → Except Refusal α} {before : Option α}
    (fresh : before = none) (put : Option α → Given) :
    (fill switch read before (some value) >>= fun a => .ok (put a)) = .ok g' ↔
      ∃ a, read switch value = .ok a ∧ g' = put (some a) := by
  subst fresh
  simp only [fill]
  cases read switch value with
  | error refusal =>
    refine ⟨fun h => (by cases h), ?_⟩
    rintro ⟨_, h, _⟩
    cases h
  | ok a =>
    constructor
    · intro h
      cases h
      exact ⟨a, rfl, rfl⟩
    · rintro ⟨_, h, rfl⟩
      cases h
      rfl

/-- A path is put where there is none yet, if it is not empty. -/
theorem fillPath_eq_ok {switch : Switch} (nonempty : value ≠ "") {before : Option String} (fresh : before = none)
    (put : Option String → Given) :
    (fill switch readPath before (some value) >>= fun a => .ok (put a)) = .ok g' ↔
      ∃ path, path = value ∧ g' = put (some path) := by
  rw [fill_eq_ok fresh]
  simp only [readPath_of_nonempty switch nonempty, Except.ok.injEq, eq_comm]

/-- An option is taken over if its value can be read, and with what it means. -/
theorem accept_eq_ok {e : Entry} (formed : e.Formed) (fresh : g.value? e.switch = none) :
    e.accept g = .ok g' ↔ ∃ a, e.switch.Means e.value a ∧ g' = g.set e.switch a := by
  obtain ⟨switch, value⟩ := e
  cases value with
  | none =>
    cases formed.eq_verbose rfl
    have unset : g.verbose = false := by simpa [value?] using fresh
    simp only [Entry.accept, accept, unset, Bool.false_eq_true, if_false]
    constructor
    · intro h
      cases h
      exact ⟨(), trivial, rfl⟩
    · rintro ⟨_, -, rfl⟩
      rfl
  | some value =>
    obtain ⟨noHelp, noVersion, valued, nonempty⟩ := formed
    have there : value ≠ "" := fun same => nonempty (congrArg some same)
    cases switch with
    | verbose => exact Bool.noConfusion valued
    | help => exact absurd rfl noHelp
    | version => exact absurd rfl noVersion
    | config => exact fillPath_eq_ok there fresh fun a => { g with config := a }
    | logFile => exact fillPath_eq_ok there fresh fun a => { g with logFile := a }
    | schemaPath => exact fillPath_eq_ok there fresh fun a => { g with schemaPath := a }
    | outDir => exact fillPath_eq_ok there fresh fun a => { g with outDir := a }
    | keypath => exact fillPath_eq_ok there fresh fun a => { g with keypath := a }
    | numDocuments =>
      refine (fill_eq_ok fresh fun a => { g with numDocuments := a }).trans ?_
      exact exists_congr fun _ => and_congr_left' readCount_eq_ok
    | seed =>
      refine (fill_eq_ok fresh fun a => { g with seed := a }).trans ?_
      exact exists_congr fun _ => and_congr_left' readSeed_eq_ok

end Given

/-! ## Options taken over one after another -/

/-- Takes options over. -/
def acceptAll (g : Given) (entries : List Entry) : Except Refusal Given := entries.foldlM Entry.accept g

/-- What options say about a switch: what its value means if it is among them, and else nothing. -/
def Holds (entries : List Entry) (s : Switch) : Option s.Value → Prop
  | some a => ∃ value, ⟨s, value⟩ ∈ entries ∧ s.Means value a
  | none => ∀ value, ⟨s, value⟩ ∉ entries

/-- A level holds what the options say, and nothing else. -/
def Told (entries : List Entry) (g : Given) : Prop := ∀ s, Holds entries s (g.value? s)

/-- Whether no switch is given twice. -/
def Once (entries : List Entry) : Prop := (entries.map (·.switch)).Nodup

instance (entries : List Entry) : Decidable (Once entries) :=
  inferInstanceAs (Decidable (entries.map (·.switch)).Nodup)

section Holds

variable {entries others : List Entry} {s : Switch} {x y : Option s.Value}

/-- Options that are given once are known by their switch. -/
theorem Once.value_eq (once : Once entries) {v w : Option String} (hv : ⟨s, v⟩ ∈ entries) (hw : ⟨s, w⟩ ∈ entries) :
    v = w := by
  cases List.inj_on_of_nodup_map once hv hw rfl
  rfl

theorem Once.perm (once : Once entries) (same : entries.Perm others) : Once others :=
  (List.Perm.map Entry.switch same).nodup_iff.mp once

theorem Holds.perm (h : Holds entries s x) (same : entries.Perm others) : Holds others s x := by
  cases x with
  | none => exact fun value there => h value (same.mem_iff.mpr there)
  | some a =>
    obtain ⟨value, there, means⟩ := h
    exact ⟨value, same.mem_iff.mp there, means⟩

/-- Options that are given once say one thing about a switch. -/
theorem Holds.unique (once : Once entries) (hx : Holds entries s x) (hy : Holds entries s y) : x = y := by
  cases x with
  | none =>
    cases y with
    | none => rfl
    | some b =>
      obtain ⟨value, there, -⟩ := hy
      exact absurd there (hx value)
  | some a =>
    obtain ⟨value, there, means⟩ := hx
    cases y with
    | none => exact absurd there (hy value)
    | some b =>
      obtain ⟨value', there', means'⟩ := hy
      rw [once.value_eq there there'] at means
      rw [means.unique means']

/-- What is said later is said beside what is said first, and before it. -/
theorem Holds.append (first : Holds entries s x) (later : Holds others s y) : Holds (entries ++ others) s (y.or x) := by
  cases y with
  | some b =>
    obtain ⟨value, there, means⟩ := later
    exact ⟨value, List.mem_append_right entries there, means⟩
  | none =>
    cases x with
    | some a =>
      obtain ⟨value, there, means⟩ := first
      exact ⟨value, List.mem_append_left others there, means⟩
    | none => exact fun value there => (List.mem_append.mp there).elim (first value) (later value)

end Holds

section Told

variable {prior entries : List Entry} {g g' : Given}

theorem told_nil : Told [] {} := by
  intro s
  cases s <;> exact fun value there => absurd there List.not_mem_nil

/-- What a level is told determines what it holds. -/
theorem Told.unique (once : Once entries) (h : Told entries g) (h' : Told entries g') : g = g' :=
  Given.ext_value? fun s => (h s).unique once (h' s)

/-- An option that was not given before is still to be filled. -/
theorem Told.fresh (h : Told prior g) {e : Entry} (once : Once (prior ++ [e])) : g.value? e.switch = none := by
  have told := h e.switch
  cases held : g.value? e.switch with
  | none => rfl
  | some a =>
    rw [held] at told
    obtain ⟨value, there, -⟩ := told
    rw [Once, List.map_append, List.nodup_append] at once
    exact absurd rfl (once.2.2 _ (List.mem_map_of_mem there) _ List.mem_cons_self)

/-- One more option is one more thing told. -/
theorem Told.set (h : Told prior g) {e : Entry} (formed : e.Formed) (once : Once (prior ++ [e]))
    {a : e.switch.Value} (means : e.switch.Means e.value a) : Told (prior ++ [e]) (g.set e.switch a) := by
  intro t
  by_cases same : t = e.switch
  · subst same
    rw [Given.value?_set_self g a formed.noHelp formed.noVersion]
    exact ⟨e.value, List.mem_append_right prior List.mem_cons_self, means⟩
  · rw [Given.value?_set_ne g same]
    have other : Holds [e] t none := by
      intro value there
      obtain rfl := List.mem_singleton.mp there
      exact same rfl
    exact (h t).append other

/-- Options that are taken over are what the level is told. -/
theorem told_acceptAll (h : Told prior g) (formed : ∀ e ∈ entries, e.Formed) (once : Once (prior ++ entries))
    (accepted : acceptAll g entries = .ok g') : Told (prior ++ entries) g' := by
  induction entries generalizing prior g with
  | nil =>
    cases accepted
    rwa [List.append_nil]
  | cons e entries ih =>
    rw [List.append_cons] at once ⊢
    have first : Once (prior ++ [e]) := once.sublist ((List.sublist_append_left _ _).map _)
    rw [acceptAll, List.foldlM_cons] at accepted
    cases step : e.accept g with
    | error refusal =>
      rw [step] at accepted
      cases accepted
    | ok next =>
      rw [step] at accepted
      -- no option before this one has filled its field
      obtain ⟨a, means, rfl⟩ := (Given.accept_eq_ok (formed e List.mem_cons_self) (h.fresh first)).mp step
      exact ih (h.set (formed e List.mem_cons_self) first means)
        (fun e' he' => formed e' (List.mem_cons_of_mem e he')) once accepted

/-- Options whose values can be read are taken over. -/
theorem acceptAll_ok (h : Told prior g) (formed : ∀ e ∈ entries, e.Formed) (once : Once (prior ++ entries))
    (readable : ∀ e ∈ entries, e.Readable) : ∃ g', acceptAll g entries = .ok g' := by
  induction entries generalizing prior g with
  | nil => exact ⟨g, rfl⟩
  | cons e entries ih =>
    rw [List.append_cons] at once
    have first : Once (prior ++ [e]) := once.sublist ((List.sublist_append_left _ _).map _)
    obtain ⟨a, means⟩ := readable e List.mem_cons_self
    have step : e.accept g = .ok (g.set e.switch a) :=
      (Given.accept_eq_ok (formed e List.mem_cons_self) (h.fresh first)).mpr ⟨a, means, rfl⟩
    obtain ⟨g', rest⟩ := ih (h.set (formed e List.mem_cons_self) first means)
      (fun e' he' => formed e' (List.mem_cons_of_mem e he')) once
      fun e' he' => readable e' (List.mem_cons_of_mem e he')
    refine ⟨g', ?_⟩
    rw [acceptAll, List.foldlM_cons, step]
    exact rest

/-- What a level is told can be read. -/
theorem Told.readable (h : Told entries g) (once : Once entries) {e : Entry} (there : e ∈ entries) : e.Readable := by
  have told := h e.switch
  cases held : g.value? e.switch with
  | none =>
    rw [held] at told
    exact absurd there (told e.value)
  | some a =>
    rw [held] at told
    obtain ⟨value, there', means⟩ := told
    exact ⟨a, once.value_eq there' there ▸ means⟩

end Told

/-! ## Options as arguments -/

/-- How an option is written: a value stands behind an equals sign, and a flag may be written with its letter. -/
def Entry.Spelled (e : Entry) (arg : String) : Prop :=
  match e.value with
  | some value => arg = e.switch.attachedTo value
  | none => arg = e.switch.argument ∨ ∃ c, e.switch.letter? = some c ∧ arg = String.ofList ['-', c]

section Spelled

variable {e : Entry} {arg : String} {level : Level} (g : Given)

/-- An option begins with a dash and more behind it. -/
theorem Entry.Spelled.toList (spelled : e.Spelled arg) : ∃ c text, arg.toList = '-' :: c :: text ∧
    (c = '-' → text ≠ []) := by
  obtain ⟨switch, _ | value⟩ := e
  · rcases spelled with rfl | ⟨c, letter, rfl⟩
    · refine ⟨'-', switch.long.toList, by simp [Switch.argument], fun _ => ?_⟩
      simpa using switch.long_ne_empty
    · refine ⟨c, [], by simp, fun dash => ?_⟩
      subst dash
      cases switch <;> cases letter
  · obtain rfl : arg = switch.attachedTo value := spelled
    exact ⟨'-', switch.long.toList ++ '=' :: value.toList, by simp [Switch.attachedTo], fun _ => by simp⟩

theorem Entry.Spelled.ne_end (spelled : e.Spelled arg) : arg ≠ "--" := by
  rintro rfl
  obtain ⟨c, text, letters, more⟩ := spelled.toList
  cases letters
  exact more rfl rfl

/-- No option is written like the name of a command. -/
theorem Entry.Spelled.ne_of_head {word : String} (spelled : e.Spelled arg) (plain : word.toList.head? ≠ some '-') :
    arg ≠ word := by
  rintro rfl
  obtain ⟨c, text, letters, -⟩ := spelled.toList
  exact plain (by rw [letters]; rfl)

theorem Entry.Spelled.lookup_eq_none (spelled : e.Spelled arg) : Level.commands.lookup arg = none := by
  have generate : (arg == "generate") = false := beq_false_of_ne (spelled.ne_of_head (by decide))
  have exportMongodb : (arg == "export-mongodb") = false := beq_false_of_ne (spelled.ne_of_head (by decide))
  rw [Level.commands, List.lookup_cons, generate, List.lookup_cons, exportMongodb, List.lookup_nil]

/-- A switch is taken over at once when no other one is next. -/
theorem Progress.add_settled (switch : Switch) (value : Option String) :
    Progress.add ⟨g, none⟩ switch value = (g.accept switch value).map fun g => ⟨g, none⟩ := by
  simp only [Progress.add, Progress.settle]
  show g.accept switch value >>= _ = _
  cases g.accept switch value <;> rfl

/-- The flag is read in both spellings. -/
theorem Progress.read_verbose (spelled : Entry.Spelled ⟨.verbose, none⟩ arg) :
    Progress.read level ⟨g, none⟩ arg = (g.accept .verbose none).map fun g => some ⟨g, none⟩ := by
  have long : level.long? "verbose" = some .verbose := by cases level <;> decide
  have short : level.letter? 'v' = some .verbose := by cases level <;> decide
  have flag : Switch.verbose.takesValue = false := rfl
  rcases spelled with rfl | ⟨c, letter, rfl⟩
  · have letters : Switch.verbose.argument.toList = '-' :: '-' :: "verbose".toList := rfl
    have whole : Text.cutFirst '=' "verbose".toList = none := rfl
    simp only [Progress.read, letters, Progress.readLong, whole, String.ofList_toList, long, flag, Bool.false_eq_true,
      if_false, Progress.add_settled]
    cases g.accept .verbose none <;> rfl
  · cases letter
    show some <$> Progress.readLetters level ⟨g, none⟩ ['v'] = _
    simp only [Progress.readLetters, short, flag, Bool.false_eq_true, if_false, Progress.add_settled]
    cases g.accept .verbose none <;> rfl

/-- An option that a level knows is taken over at once. -/
theorem Entry.Spelled.read (spelled : e.Spelled arg) (formed : e.Formed)
    (known : level.long? e.switch.long = some e.switch) :
    Progress.read level ⟨g, none⟩ arg = (e.accept g).map fun g => some ⟨g, none⟩ := by
  obtain ⟨switch, _ | value⟩ := e
  · cases formed.eq_verbose rfl
    exact Progress.read_verbose g spelled
  · obtain rfl : arg = switch.attachedTo value := spelled
    rw [Progress.read_attachedTo known formed.valued.symm]
    rfl

end Spelled

section Arguments

variable {entries : List Entry} {args : List String} (spelled : List.Forall₂ Entry.Spelled entries args)
  (formed : ∀ e ∈ entries, e.Formed) (g : Given)
include spelled formed

/-- A command that knows the options takes them over one after another. -/
theorem readCommand_spelled {level : Level} (known : ∀ e ∈ entries, level.long? e.switch.long = some e.switch) :
    readCommand level ⟨g, none⟩ args = acceptAll g entries := by
  induction spelled generalizing g with
  | nil => rfl
  | @cons e arg entries args first _ ih =>
    rw [readCommand_cons first.ne_end, first.read g (formed e List.mem_cons_self) (known e List.mem_cons_self),
      acceptAll, List.foldlM_cons]
    cases e.accept g with
    | error refusal => rfl
    | ok given =>
      exact ih (fun e' he' => formed e' (List.mem_cons_of_mem e he')) given
        fun e' he' => known e' (List.mem_cons_of_mem e he')

/-- The program takes over the options before its command. -/
theorem readProgram_spelled (known : ∀ e ∈ entries, Level.program.long? e.switch.long = some e.switch)
    (rest : List String) :
    readProgram ⟨g, none⟩ (args ++ rest) =
      (acceptAll g entries).bind fun given => readProgram ⟨given, none⟩ rest := by
  induction spelled generalizing g with
  | nil => rfl
  | @cons e arg entries args first _ ih =>
    have notHelp : arg ≠ "help" := first.ne_of_head (by decide)
    rw [List.cons_append, readProgram_cons rfl notHelp first.ne_end first.lookup_eq_none,
      first.read g (formed e List.mem_cons_self) (known e List.mem_cons_self), acceptAll, List.foldlM_cons]
    cases e.accept g with
    | error refusal => rfl
    | ok given =>
      exact ih (fun e' he' => formed e' (List.mem_cons_of_mem e he')) given
        fun e' he' => known e' (List.mem_cons_of_mem e he')

end Arguments

end Fixtures.CommandLine
