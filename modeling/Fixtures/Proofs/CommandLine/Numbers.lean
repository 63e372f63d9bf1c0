import Fixtures.Proofs.CommandLine.Entries

/-!
# Numbers on the command line

The number of documents and the seed are values of switches. Taken are the numerals of words, with any zeros and
perhaps a plus sign in front; the number of documents must not be zero. Every other value is refused as no number.

`Given.readCount_eq_ok` and `Given.readSeed_eq_ok` say which values are read, and at which number. What is left here is
the way of a value from the arguments to the request of the command (`ofArguments_count`, `ofArguments_seed`).
-/

namespace Fixtures.CommandLine

open Generation (Count)
open Text (IsNumeral)

/-! ## Values that are refused -/

namespace Given

variable {switch : Switch} {value : String} {refusal : Refusal}

/-- A value that is not read is refused as no number. -/
theorem eq_badNumber_of_readWord (h : readWord switch value = .error refusal) :
    ∃ fault, refusal = .badNumber value switch fault := by
  rw [readWord] at h
  cases read : Text.readWord value.toList with
  | ok n =>
    rw [read] at h
    cases h
  | error fault =>
    rw [read] at h
    cases h
    exact ⟨fault, rfl⟩

theorem eq_badNumber_of_readSeed (h : readSeed switch value = .error refusal) :
    ∃ fault, refusal = .badNumber value switch fault := by
  rw [readSeed] at h
  cases read : readWord switch value with
  | ok n =>
    rw [read] at h
    cases h
  | error refusal' =>
    rw [read] at h
    cases h
    exact eq_badNumber_of_readWord read

theorem eq_badNumber_of_readCount (h : readCount switch value = .error refusal) :
    ∃ fault, refusal = .badNumber value switch fault := by
  rw [readCount] at h
  cases read : readWord switch value with
  | error refusal' =>
    rw [read] at h
    cases h
    exact eq_badNumber_of_readWord read
  | ok n =>
    simp only [read, bind, Except.bind] at h
    split at h
    · cases h
    · cases h
      exact ⟨.zero, rfl⟩

end Given

/-! ## Command lines with one number -/

/-- The generating command with a schema and one more switch. -/
def withNumber (schema : String) (switch : Switch) (value : String) : List String :=
  ["generate", Switch.schemaPath.attachedTo schema, switch.attachedTo value]

/-- A generation from a schema, with nothing else said but these two numbers. -/
def generating (schema : String) (numDocuments : Option Count) (seed : Option UInt64) : Invocation :=
  ⟨none, none, false, .generate ⟨schema, numDocuments, none, seed⟩⟩

section Arguments

variable {schema : String} (named : schema ≠ "")
include named

/-- The two switches are taken over one after the other. -/
theorem readCommand_withNumber {switch : Switch} (known : Level.generate.long? switch.long = some switch)
    (valued : switch.takesValue = true) (value : String) :
    readCommand .generate {} [Switch.schemaPath.attachedTo schema, switch.attachedTo value] =
      Given.accept { schemaPath := some schema } switch (some value) := by
  have path : Level.generate.long? Switch.schemaPath.long = some .schemaPath := by decide
  have filled : Given.accept {} .schemaPath (some schema) = .ok { schemaPath := some schema } := by
    simp only [Given.accept, Given.fill, Given.readPath_of_nonempty .schemaPath named]
    rfl
  rw [readCommand_attachedTo path rfl]
  show ((Given.accept {} .schemaPath (some schema)).bind _) = _
  rw [filled]
  show readCommand .generate ⟨{ schemaPath := some schema }, none⟩ [switch.attachedTo value] = _
  rw [readCommand_attachedTo known valued]
  show ((Given.accept { schemaPath := some schema } switch (some value)).bind _) = _
  cases Given.accept { schemaPath := some schema } switch (some value) <;> rfl

/-- The number of documents reaches the request as it is read. -/
theorem ofArguments_count (value : String) :
    Invocation.ofArguments (withNumber schema .numDocuments value) =
      (Given.readCount .numDocuments value).map fun count => generating schema (some count) none := by
  rw [withNumber, Invocation.ofArguments, readProgram_command .generate (by decide) (by decide) rfl,
    readCommand_withNumber named (by decide) rfl]
  simp only [Given.accept, Given.fill]
  cases Given.readCount .numDocuments value <;> rfl

/-- The seed reaches the request as it is read. -/
theorem ofArguments_seed (value : String) :
    Invocation.ofArguments (withNumber schema .seed value) =
      (Given.readSeed .seed value).map fun seed => generating schema none (some seed) := by
  rw [withNumber, Invocation.ofArguments, readProgram_command .generate (by decide) (by decide) rfl,
    readCommand_withNumber named (by decide) rfl]
  simp only [Given.accept, Given.fill]
  cases Given.readSeed .seed value <;> rfl

end Arguments

/-! ## Which numbers are taken -/

/-- A switch takes exactly the numerals of words from a least one on, and refuses every other value as no number;
`tells` is the invocation that comes of a number. -/
structure TakesWords (schema : String) (switch : Switch) (least : Nat) (tells : Nat → Invocation) : Prop where
  parses_iff : ∀ value, (∃ i, Invocation.ofArguments (withNumber schema switch value) = .ok i) ↔
    ∃ n, IsNumeral value.toList n ∧ least ≤ n ∧ n < UInt64.size
  taken : ∀ value n, IsNumeral value.toList n → least ≤ n → n < UInt64.size →
    Invocation.ofArguments (withNumber schema switch value) = .ok (tells n)
  refused : ∀ value, (¬ ∃ n, IsNumeral value.toList n ∧ least ≤ n ∧ n < UInt64.size) →
    ∃ fault, Invocation.ofArguments (withNumber schema switch value) = .error (.badNumber value switch fault)

/-- A switch whose values are read as some numbers, namely all words from a least one on, takes exactly these. -/
theorem TakesWords.of_read {α : Type} {schema : String} {switch : Switch} {least : Nat} {tells : Nat → Invocation}
    {read : String → Except Refusal α} {number : α → Nat} {invocation : α → Invocation}
    (line : ∀ value, Invocation.ofArguments (withNumber schema switch value) = (read value).map invocation)
    (read_eq_ok : ∀ value a, read value = .ok a ↔ IsNumeral value.toList (number a))
    (eq_badNumber : ∀ value refusal, read value = .error refusal → ∃ fault, refusal = .badNumber value switch fault)
    (within : ∀ a, least ≤ number a ∧ number a < UInt64.size)
    (all : ∀ n, least ≤ n → n < UInt64.size → ∃ a, number a = n ∧ invocation a = tells n) :
    TakesWords schema switch least tells := by
  have taken (value : String) (n : Nat) (numeral : IsNumeral value.toList n) (atLeast : least ≤ n)
      (fits : n < UInt64.size) : Invocation.ofArguments (withNumber schema switch value) = .ok (tells n) := by
    obtain ⟨a, rfl, told⟩ := all n atLeast fits
    rw [line, (read_eq_ok value a).mpr numeral, ← told]
    rfl
  refine ⟨fun value => ⟨?_, ?_⟩, taken, fun value other => ?_⟩
  · rintro ⟨i, parsed⟩
    rw [line] at parsed
    cases hread : read value with
    | error refusal =>
      rw [hread] at parsed
      cases parsed
    | ok a => exact ⟨number a, (read_eq_ok value a).mp hread, within a⟩
  · rintro ⟨n, numeral, atLeast, fits⟩
    exact ⟨tells n, taken value n numeral atLeast fits⟩
  · cases hread : read value with
    | ok a => exact absurd ⟨number a, (read_eq_ok value a).mp hread, within a⟩ other
    | error refusal =>
      obtain ⟨fault, rfl⟩ := eq_badNumber value refusal hread
      exact ⟨fault, by rw [line, hread]; rfl⟩

/-- The number of documents is taken from all numerals of words but those of zero, and the seed from all numerals of
words. In particular, a seed is read back from its decimal numeral. -/
theorem numbers_taken {schema : String} (named : schema ≠ "") :
    TakesWords schema .numDocuments 1 (fun n => generating schema (Count.ofNat? n) none) ∧
    TakesWords schema .seed 0 (fun n => generating schema none (some (UInt64.ofNat n))) ∧
    ∀ seed : UInt64, Invocation.ofArguments (withNumber schema .seed (Text.natText seed.toNat)) =
      .ok (generating schema none (some seed)) := by
  have seeds : TakesWords schema .seed 0 (fun n => generating schema none (some (UInt64.ofNat n))) := by
    refine .of_read (ofArguments_seed named) (fun _ _ => Given.readSeed_eq_ok)
      (fun _ _ => Given.eq_badNumber_of_readSeed) (fun seed => ⟨Nat.zero_le _, seed.toNat_lt⟩) fun n _ fits => ?_
    exact ⟨UInt64.ofNat n, UInt64.toNat_ofNat_of_lt' fits, rfl⟩
  refine ⟨?_, seeds, fun seed => ?_⟩
  · refine .of_read (ofArguments_count named) (fun _ _ => Given.readCount_eq_ok)
      (fun _ _ => Given.eq_badNumber_of_readCount) (fun count => ⟨count.pos, count.fits⟩) fun n positive fits => ?_
    exact ⟨⟨n, positive, fits⟩, rfl, by rw [Count.ofNat?, dif_pos ⟨positive, fits⟩]⟩
  · have numeral : IsNumeral (Text.natText seed.toNat).toList seed.toNat := by
      rw [Text.natText, String.toList_ofList]
      exact .inl (Text.isDigits_natDigits seed.toNat)
    have taken := seeds.taken _ _ numeral (Nat.zero_le _) seed.toNat_lt
    rwa [UInt64.ofNat_toNat] at taken

/-- Seven documents are taken from a numeral with a sign and zeros, the greatest word is a seed, and the next number
is none. -/
theorem numbers_taken_limits :
    "s" ≠ "" ∧
      Invocation.ofArguments (withNumber "s" .numDocuments "+007") =
        .ok (generating "s" (some ⟨7, by decide, by decide⟩) none) ∧
      Invocation.ofArguments (withNumber "s" .seed "18446744073709551615") =
        .ok (generating "s" none (some 18446744073709551615)) ∧
      ∃ fault, Invocation.ofArguments (withNumber "s" .seed "18446744073709551616") =
        .error (.badNumber "18446744073709551616" .seed fault) := by
  have named : "s" ≠ "" := by decide
  obtain ⟨counts, seeds, readBack⟩ := numbers_taken named
  have seven : IsNumeral "+007".toList 7 := .inr ⟨['0', '0', '7'], rfl, by decide, List.all_eq_true.mp rfl, by decide⟩
  have beyond : IsNumeral "18446744073709551616".toList (UInt64.size) :=
    .inl ⟨by decide, List.all_eq_true.mp rfl, by decide⟩
  refine ⟨named, counts.taken "+007" 7 seven (by decide) (by decide), readBack 18446744073709551615, ?_⟩
  refine seeds.refused "18446744073709551616" ?_
  rintro ⟨n, numeral, -, fits⟩
  rw [numeral.unique beyond] at fits
  exact absurd fits (Nat.lt_irrefl _)

end Fixtures.CommandLine
