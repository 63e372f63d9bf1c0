import Fixtures.Proofs.Settings.Sources
import Fixtures.Proofs.Toml.Tables

/-!
# Loading settings exactly

A table of settings may have four names, and under each of them one kind of item: strings for the directory and the
log file, a positive integer for the number of documents and one that is not negative for the seed. Such a table is
decoded to just its values, and everything else is refused: `loadsExactly`.

## Shape of the proof

* `Admits` is what may stand under a name. `fieldItem_admits` and `admits_of_fieldItem` are the two directions for
  one member, `members_of_admits` and `admits_of_members` those for a table, by induction on its members.
* `Filled` says what the slots hold after some members. As the names of a table are distinct, which name comes first
  does not matter, and for a whole table it becomes `Reads`.
* An integer of a table fits into 64 bits with a sign (`Toml.Document.parse_sound`), so a count and a seed are the
  integers that are written.
-/

namespace Fixtures

open Generation (Count Options)

namespace Toml.Members

/-- The string under a name. -/
def string? (members : Members) (name : String) : Option String :=
  match members.find? name with
  | some (.string s _) => some s
  | _ => none

/-- The integer under a name. -/
def integer? (members : Members) (name : String) : Option Int :=
  match members.find? name with
  | some (.integer n _) => some n
  | _ => none

variable {key : Key} {item : Item} {rest : Members} {name : String}

theorem find?_cons_self (key : Key) (item : Item) (rest : Members) :
    find? ((key, item) :: rest) key.name = some item := by
  simp [find?]

theorem find?_cons_ne (other : key.name ≠ name) : find? ((key, item) :: rest) name = find? rest name := by
  rw [find?, find?, List.find?_cons_of_neg (by simpa using other)]

theorem string?_cons_ne (other : key.name ≠ name) : string? ((key, item) :: rest) name = rest.string? name := by
  rw [string?, string?, find?_cons_ne other]

theorem integer?_cons_ne (other : key.name ≠ name) :
    integer? ((key, item) :: rest) name = rest.integer? name := by
  rw [integer?, integer?, find?_cons_ne other]

/-- A value under a name is that of the first member or, where the others do not have its name, that of another
one. -/
theorem string?_cons (fresh : rest.find? key.name = none) :
    string? ((key, item) :: rest) name = (rest.string? name).or (string? [(key, item)] name) := by
  by_cases same : key.name = name
  · subst same
    rw [string?, string?, string?, find?_cons_self, find?_cons_self, fresh]
    rfl
  · rw [string?_cons_ne same, string?_cons_ne same]
    exact (Option.or_none).symm

theorem integer?_cons (fresh : rest.find? key.name = none) :
    integer? ((key, item) :: rest) name = (rest.integer? name).or (integer? [(key, item)] name) := by
  by_cases same : key.name = name
  · subst same
    rw [integer?, integer?, integer?, find?_cons_self, find?_cons_self, fresh]
    rfl
  · rw [integer?_cons_ne same, integer?_cons_ne same]
    exact (Option.or_none).symm

/-- The first name of a sound table does not come again. -/
theorem Sound.fresh (h : Sound ((key, item) :: rest)) : rest.find? key.name = none := by
  have distinct := (List.nodup_cons.mp h.distinct).1
  exact find?_eq_none_of_fresh fun m hm same => distinct (List.mem_map.mpr ⟨m, hm, same⟩)

theorem Sound.tail {m : Key × Item} (h : Sound (m :: rest)) : rest.Sound :=
  ⟨(List.nodup_cons.mp h.distinct).2, fun other hother => h.fits other (List.mem_cons_of_mem _ hother)⟩

end Toml.Members

namespace Settings

/-! ## Tables of settings -/

/-- What may stand under the names of settings. -/
inductive Admits : String → Toml.Item → Prop
  | outDir (s : String) (span : Toml.Span) : Admits "out_dir" (.string s span)
  | logFile (s : String) (span : Toml.Span) : Admits "log_file" (.string s span)
  | numDocuments {n : Int} (positive : 1 ≤ n) (span : Toml.Span) : Admits "num_documents" (.integer n span)
  | seed {n : Int} (nonneg : 0 ≤ n) (span : Toml.Span) : Admits "seed" (.integer n span)

/-- Settings hold the values of a table, and the defaults for the names that are not in it. -/
structure Reads (members : Toml.Members) (s : Settings) : Prop where
  outDir : s.outDir = (members.string? "out_dir").getD "datagen"
  numDocuments : (s.numDocuments.val : Int) = (members.integer? "num_documents").getD 1
  seed : s.seed.map (fun seed => (seed.toNat : Int)) = members.integer? "seed"
  logFile : s.logFile = members.string? "log_file"

/-- What was decoded of settings. -/
abbrev Decoded := Data.Slots [String, Count, Option UInt64, Option String]

/-- Slots hold the values of a table, and what they held before for the names that are not in it. -/
structure Filled (members : Toml.Members) (before after : Decoded) : Prop where
  outDir : after.1 = (members.string? "out_dir").or before.1
  numDocuments : after.2.1.map (fun n => (n.val : Int)) =
    (members.integer? "num_documents").or (before.2.1.map fun n => (n.val : Int))
  seed : after.2.2.1.map (Option.map fun s => (s.toNat : Int)) =
    ((members.integer? "seed").map some).or (before.2.2.1.map (Option.map fun s => (s.toNat : Int)))
  logFile : after.2.2.2.1 = ((members.string? "log_file").map some).or before.2.2.2.1

theorem decodeCount_int {n : Int} (positive : 1 ≤ n) (fits : Toml.IsWord n) (span : Toml.Span) :
    ∃ count : Count, decodeCount (.integer n span) = .ok count ∧ (count.val : Int) = n := by
  obtain ⟨m, rfl⟩ := Int.eq_ofNat_of_zero_le (by omega : 0 ≤ n)
  have bound : m < UInt64.size := by
    have := fits.2
    unfold Text.greatestInt at this
    show m < 18446744073709551616
    omega
  exact ⟨⟨m, by omega, bound⟩, decodeCount_integer ⟨m, by omega, bound⟩ span, rfl⟩

theorem decodeWord_int {n : Int} (nonneg : 0 ≤ n) (fits : Toml.IsWord n) (span : Toml.Span) :
    ∃ word : UInt64, decodeWord (.integer n span) = .ok word ∧ (word.toNat : Int) = n := by
  obtain ⟨m, rfl⟩ := Int.eq_ofNat_of_zero_le nonneg
  have bound : m < UInt64.size := by
    have := fits.2
    unfold Text.greatestInt at this
    show m < 18446744073709551616
    omega
  have same : (UInt64.ofNat m).toNat = m := UInt64.toNat_ofNat_of_lt' bound
  have decoded := decodeWord_integer (UInt64.ofNat m) span
  rw [same] at decoded
  exact ⟨UInt64.ofNat m, decoded, by rw [same]⟩

/-- An item that settings may have goes into its slot. -/
theorem fieldItem_admits {key : Toml.Key} {item : Toml.Item} (admitted : Admits key.name item) (fits : item.Fits)
    (before : Decoded) :
    ∃ after, Toml.fieldItem item key.name fields before = .ok after ∧ Filled [(key, item)] before after := by
  obtain ⟨name, keySpan⟩ := key
  obtain ⟨outDir, numDocuments, seed, logFile, ⟨⟩⟩ := before
  dsimp only at admitted ⊢
  cases admitted with
  | outDir s span => exact ⟨(some s, numDocuments, seed, logFile, ()), rfl, rfl, rfl, rfl, rfl⟩
  | logFile s span => exact ⟨(outDir, numDocuments, seed, some (some s), ()), rfl, rfl, rfl, rfl, rfl⟩
  | numDocuments positive span =>
    obtain ⟨count, decoded, same⟩ := decodeCount_int positive fits span
    refine ⟨(outDir, some count, seed, logFile, ()), ?_, rfl, ?_, rfl, rfl⟩
    · simp [Toml.fieldItem, fields, decoded, Except.map]
    · exact congrArg some same
  | seed nonneg span =>
    obtain ⟨word, decoded, same⟩ := decodeWord_int nonneg fits span
    refine ⟨(outDir, numDocuments, some (some word), logFile, ()), ?_, rfl, rfl, ?_, rfl⟩
    · simp [Toml.fieldItem, fields, Toml.present, decoded, Except.map]
    · exact congrArg (fun n => some (some n)) same

theorem text_eq_ok {expected s : String} {item : Toml.Item} (h : Toml.text expected item = .ok s) :
    ∃ span, item = .string s span := by
  unfold Toml.text at h
  split at h
  · cases h
    exact ⟨_, rfl⟩
  · cases h

theorem unsigned_eq_ok {expected : String} {least n : Nat} {item : Toml.Item}
    (h : Toml.unsigned expected least item = .ok n) :
    ∃ m span, item = .integer m span ∧ (least : Int) ≤ m := by
  unfold Toml.unsigned at h
  split at h
  · split at h
    · exact ⟨_, _, rfl, ‹_›⟩
    · cases h
  · cases h

/-- An item that goes into a slot is one that settings may have. -/
theorem admits_of_fieldItem {name : String} {item : Toml.Item} (known : fields.names.contains name = true)
    {before after : Decoded} (h : Toml.fieldItem item name fields before = .ok after) : Admits name item := by
  obtain ⟨outDir, numDocuments, seed, logFile, ⟨⟩⟩ := before
  have names : name = "out_dir" ∨ name = "num_documents" ∨ name = "seed" ∨ name = "log_file" := by
    simpa [fields, Data.Fields.names] using known
  rcases names with rfl | rfl | rfl | rfl
  · cases decoded : Toml.text "path string" item with
    | error m => simp [Toml.fieldItem, fields, decoded, Except.map] at h
    | ok s =>
      obtain ⟨span, rfl⟩ := text_eq_ok decoded
      exact .outDir s span
  · cases decoded : Toml.unsigned Count.expected 1 item with
    | error m => simp [Toml.fieldItem, fields, decodeCount, decoded, Except.map, bind, Except.bind] at h
    | ok n =>
      obtain ⟨m, span, rfl, positive⟩ := unsigned_eq_ok decoded
      exact .numDocuments positive span
  · cases decoded : Toml.unsigned Options.expectedWord 0 item with
    | error m => simp [Toml.fieldItem, fields, Toml.present, decodeWord, decoded, Except.map] at h
    | ok n =>
      obtain ⟨m, span, rfl, nonneg⟩ := unsigned_eq_ok decoded
      exact .seed nonneg span
  · cases decoded : Toml.text "path string" item with
    | error m => simp [Toml.fieldItem, fields, Toml.present, decoded, Except.map] at h
    | ok s =>
      obtain ⟨span, rfl⟩ := text_eq_ok decoded
      exact .logFile s span

/-- One member after another. -/
theorem Filled.trans {key : Toml.Key} {item : Toml.Item} {rest : Toml.Members} {before middle after : Decoded}
    (fresh : rest.find? key.name = none) (first : Filled [(key, item)] before middle)
    (others : Filled rest middle after) : Filled ((key, item) :: rest) before after where
  outDir := by rw [others.outDir, first.outDir, Toml.Members.string?_cons fresh, Option.or_assoc]
  numDocuments := by
    rw [others.numDocuments, first.numDocuments, Toml.Members.integer?_cons fresh, Option.or_assoc]
  seed := by rw [others.seed, first.seed, Toml.Members.integer?_cons fresh, Option.map_or, Option.or_assoc]
  logFile := by rw [others.logFile, first.logFile, Toml.Members.string?_cons fresh, Option.map_or, Option.or_assoc]

theorem known_of_admits {name : String} {item : Toml.Item} (admitted : Admits name item) :
    fields.names.contains name = true := by cases admitted <;> decide

/-- A sound table of items that settings may have is decoded into their values. -/
theorem members_of_admits {members : Toml.Members} (sound : members.Sound)
    (admitted : ∀ m ∈ members, Admits m.1.name m.2) (before : Decoded) :
    ∃ after, Toml.members fields true before members = .ok after ∧ Filled members before after := by
  induction members generalizing before with
  | nil => exact ⟨before, rfl, rfl, rfl, rfl, rfl⟩
  | cons m rest ih =>
    obtain ⟨key, item⟩ := m
    have here := admitted (key, item) List.mem_cons_self
    obtain ⟨middle, decoded, first⟩ := fieldItem_admits here (sound.fits _ List.mem_cons_self) before
    obtain ⟨after, others, filled⟩ := ih sound.tail (fun m hm => admitted m (List.mem_cons_of_mem _ hm)) middle
    refine ⟨after, ?_, first.trans sound.fresh filled⟩
    simp only [Toml.members, known_of_admits here, decoded, others, Bool.not_true, Bool.and_false,
      Bool.false_eq_true, if_false]

/-- A table that is decoded has only items that settings may have. -/
theorem admits_of_members {members : Toml.Members} {before after : Decoded}
    (decoded : Toml.members fields true before members = .ok after) : ∀ m ∈ members, Admits m.1.name m.2 := by
  induction members generalizing before with
  | nil => exact fun m hm => absurd hm List.not_mem_nil
  | cons m rest ih =>
    obtain ⟨key, item⟩ := m
    rw [Toml.members] at decoded
    split at decoded
    · cases decoded
    next known =>
    have known : fields.names.contains key.name = true := by simpa using known
    split at decoded
    · next taken =>
      intro other hother
      rcases List.mem_cons.mp hother with rfl | hother
      · exact admits_of_fieldItem known taken
      · exact ih decoded other hother
    · cases decoded

/-- What was decoded of a whole table are its settings. -/
theorem Filled.reads {members : Toml.Members} {after : Decoded} (h : Filled members fields.empty after) :
    Reads members (ofSlots after) where
  outDir := by
    show after.1.getD _ = _
    rw [h.outDir]
    exact congrArg (Option.getD · _) Option.or_none
  numDocuments := by
    show ((after.2.1.getD Count.one).val : Int) = _
    have filled : after.2.1.map (fun n => (n.val : Int)) = members.integer? "num_documents" :=
      h.numDocuments.trans Option.or_none
    rw [← filled]
    cases after.2.1 <;> rfl
  seed := by
    show (after.2.2.1.getD none).map _ = _
    have filled : after.2.2.1.map (Option.map fun s => (s.toNat : Int)) = (members.integer? "seed").map some :=
      h.seed.trans Option.or_none
    generalize after.2.2.1 = slot at filled ⊢
    cases slot <;> cases h : members.integer? "seed" <;> simp_all
  logFile := by
    show after.2.2.2.1.getD none = _
    have filled : after.2.2.2.1 = (members.string? "log_file").map some := h.logFile.trans Option.or_none
    rw [filled]
    cases members.string? "log_file" <;> rfl

/-- Settings are what was decoded of their table. -/
theorem decode_table (members : Toml.Members) (span : Option Toml.Span) :
    decode (.table .header members span) = (Toml.members fields true fields.empty members).map ofSlots := by
  have record : decode = Toml.record fields true ofRecord := rfl
  rw [record, Toml.record]
  cases Toml.members fields true fields.empty members with
  | error fault => rfl
  | ok slots =>
    obtain ⟨values, finished, same⟩ := finish_eq slots
    simp only [bind, Except.bind, finished, same, Except.map]

/-- A sound table is decoded exactly if settings may have all its items, and then to its values. -/
theorem decode_exact {members : Toml.Members} (sound : members.Sound) (span : Option Toml.Span) :
    ((∃ s, decode (.table .header members span) = .ok s) ↔ ∀ m ∈ members, Admits m.1.name m.2) ∧
      ∀ s, decode (.table .header members span) = .ok s → Reads members s := by
  rw [decode_table]
  have admitted (s : Settings)
      (decoded : (Toml.members fields true fields.empty members).map ofSlots = .ok s) :
      ∃ after, Toml.members fields true fields.empty members = .ok after ∧ ofSlots after = s := by
    cases h : Toml.members fields true fields.empty members with
    | error fault =>
      rw [h] at decoded
      cases decoded
    | ok after =>
      rw [h] at decoded
      exact ⟨after, rfl, Except.ok.inj decoded⟩
  refine ⟨⟨?_, ?_⟩, ?_⟩
  · rintro ⟨s, decoded⟩
    obtain ⟨after, taken, -⟩ := admitted s decoded
    exact admits_of_members taken
  · intro all
    obtain ⟨after, taken, -⟩ := members_of_admits sound all fields.empty
    exact ⟨ofSlots after, by rw [taken]; rfl⟩
  · intro s decoded
    obtain ⟨after, taken, rfl⟩ := admitted s decoded
    obtain ⟨after', taken', filled⟩ := members_of_admits sound (admits_of_members taken) fields.empty
    cases taken.symm.trans taken'
    exact filled.reads

/-! ## Files of settings -/

/-- What the loading of settings comes to. -/
abbrev loaded (config : Option String) (w : Workspace) : Except SettingsError Settings :=
  (load (m := StateM Workspace) config w).1

/-- The table of settings that is found: that of the named file, or that of the file in the current directory. The
latter may be missing, and then the table is empty. -/
inductive Finds (config : Option String) (w : Workspace) : Toml.Members → Prop
  | there {text : String} {members : Toml.Members} {span : Option Toml.Span}
    (read : w.files.read (config.getD defaultFile) = .ok (.text text))
    (parsed : Toml.Document.parse text = .ok (.table .header members span)) : Finds config w members
  | absent (unnamed : config = none) (missing : (w.files.find defaultFile).toOption = none) : Finds config w []

/-- Settings are loaded exactly: from a table of distinct names whose items settings may all have, and to the
values of that table. A text that is no such table is invalid, and bytes that are no text are a fault of the file. -/
structure LoadsExactly (config : Option String) (w : Workspace) : Prop where
  distinct : ∀ members, Finds config w members → (members.map (·.1.name)).Nodup
  ok_iff : (∃ s, loaded config w = .ok s) ↔
    ∃ members, Finds config w members ∧ ∀ m ∈ members, Admits m.1.name m.2
  values : ∀ s members, loaded config w = .ok s → Finds config w members → Reads members s
  invalid : ∀ text e, w.files.read (config.getD defaultFile) = .ok (.text text) →
    loaded config w = .error e → ∃ message, e = .invalid (config.getD defaultFile) message
  notText : ∀ bytes, w.files.read (config.getD defaultFile) = .ok (.bytes bytes) →
    loaded config w = .error (.files .notText)

/-- The table of a text is sound. -/
theorem sound_of_parse {text : String} {members : Toml.Members} {span : Option Toml.Span}
    (parsed : Toml.Document.parse text = .ok (.table .header members span)) : members.Sound := by
  obtain ⟨_, _, same, sound⟩ := Toml.Document.parse_sound parsed
  cases same
  exact sound

/-- The settings of a text are those of its table. -/
theorem ofText_eq_ok {path text : String} {s : Settings} :
    ofText path text = .ok s ↔ ∃ members span,
      Toml.Document.parse text = .ok (.table .header members span) ∧
        decode (.table .header members span) = .ok s := by
  rw [ofText, Toml.decodeAll]
  cases parsed : Toml.Document.parse text with
  | error fault =>
    constructor
    · rintro ⟨⟩
    · rintro ⟨_, _, ⟨⟩, _⟩
  | ok table =>
    obtain ⟨members, span, rfl, -⟩ := Toml.Document.parse_sound parsed
    show ((decode (.table .header members span)).mapError _).mapError _ = .ok s ↔ _
    rw [Runs.except_mapError_eq_ok, Runs.except_mapError_eq_ok]
    constructor
    · exact fun decoded => ⟨members, span, rfl, decoded⟩
    · rintro ⟨_, _, same, decoded⟩
      cases same
      exact decoded

/-- A text that gives no settings is invalid. -/
theorem ofText_eq_error {path text : String} {e : SettingsError} (h : ofText path text = .error e) :
    ∃ message, e = .invalid path message := by
  rw [ofText] at h
  cases decoded : Toml.decodeAll decode text with
  | error message =>
    rw [decoded] at h
    cases h
    exact ⟨message, rfl⟩
  | ok s =>
    rw [decoded] at h
    cases h

/-- Loading reads the file that is there; only the file of the current directory may be missing. -/
theorem loaded_eq (config : Option String) (w : Workspace) :
    loaded config w =
      if (w.files.find (config.getD defaultFile)).toOption.isSome then
        match w.files.read (config.getD defaultFile) with
        | .ok (.text text) => ofText (config.getD defaultFile) text
        | .ok (.bytes _) => .error (.files .notText)
        | .error fault => .error (.files fault)
      else
        match config with
        | some path => .error (.missing path)
        | none => .ok {} := by
  have read (path : String) : (read (m := StateM Workspace) path w).1 =
      match w.files.read path with
      | .ok (.text text) => ofText path text
      | .ok (.bytes _) => .error (.files .notText)
      | .error fault => .error (.files fault) := by
    have content : (Files.FileSystem.read path : ExceptT Files.Fault (StateM Workspace) Files.Content) w =
      (w.files.read path, w) := rfl
    rw [Settings.read, Runs.bind_apply, Runs.adapt_apply, Files.readText, Runs.bind_apply, content]
    rcases w.files.read path with fault | text | bytes <;> rfl
  -- A named file and the one of the current directory differ only where nothing is found.
  cases config with
  | none =>
    simp only [loaded, load, Runs.lift_bind, Files.isPresent_apply, Option.getD_none]
    split
    · exact read defaultFile
    · rfl
  | some path =>
    simp only [loaded, load, Runs.lift_bind, Files.isPresent_apply, Option.getD_some]
    split
    · exact read path
    · rfl

/-- An empty table has the default settings. -/
theorem reads_default : Reads [] {} := ⟨rfl, rfl, rfl, rfl⟩

/-- A text that is there is loaded. -/
theorem loaded_text {config : Option String} {w : Workspace} {text : String}
    (read : w.files.read (config.getD defaultFile) = .ok (.text text)) :
    loaded config w = ofText (config.getD defaultFile) text := load_there read

/-- Settings are loaded exactly, whatever is named and whatever the files hold. -/
theorem loadsExactly (config : Option String) (w : Workspace) : LoadsExactly config w where
  distinct := by
    intro members found
    cases found with
    | there read parsed => exact (sound_of_parse parsed).distinct
    | absent => exact List.nodup_nil
  ok_iff := by
    constructor
    · rintro ⟨s, h⟩
      -- A file that is there was read and admitted; one that is missing was not named.
      rw [loaded_eq] at h
      split at h
      · split at h
        · next read =>
          obtain ⟨members, span, parsed, decoded⟩ := ofText_eq_ok.mp h
          have admitted := (decode_exact (sound_of_parse parsed) span).1.mp ⟨s, decoded⟩
          exact ⟨members, .there read parsed, admitted⟩
        · cases h
        · cases h
      · split at h
        · cases h
        · next missing =>
          exact ⟨[], .absent rfl (by simpa using missing), fun m hm => absurd hm List.not_mem_nil⟩
    · rintro ⟨members, found, admitted⟩
      cases found with
      | @there text _ span read parsed =>
        obtain ⟨s, decoded⟩ := (decode_exact (sound_of_parse parsed) span).1.mpr admitted
        exact ⟨s, (loaded_text read).trans (ofText_eq_ok.mpr ⟨members, span, parsed, decoded⟩)⟩
      | absent unnamed missing =>
        subst unnamed
        exact ⟨{}, load_absent missing⟩
  values := by
    intro s members h found
    cases found with
    | @there text _ span read parsed =>
      obtain ⟨members', span', parsed', decoded⟩ := ofText_eq_ok.mp ((loaded_text read).symm.trans h)
      cases parsed.symm.trans parsed'
      exact (decode_exact (sound_of_parse parsed) span).2 s decoded
    | absent unnamed missing =>
      subst unnamed
      cases h.symm.trans (load_absent missing)
      exact reads_default
  invalid := fun text e read h => ofText_eq_error ((loaded_text read).symm.trans h)
  notText := by
    intro bytes read
    rw [loaded_eq, if_pos (Files.isSome_find_of_read read), read]

end Settings

end Fixtures
