import Fixtures.Export.Credentials
import Fixtures.Proofs.Files.Reading
import Fixtures.Proofs.Json.Secrets
import Fixtures.Proofs.Toml.Secrets
import Fixtures.Proofs.Toml.Showing

/-!
# Passwords in the failures of key files

What is told about a key file that cannot be read may show its password. Of a file of settings the line of the fault
is shown, and this may be the line of the password. Of JSON a text that is a string is shown as a whole. Otherwise the
failure is the same with every password of one length.
-/

namespace Fixtures.Export.Credentials

open Text (keyText Veiled)

/-! ## Texts of key files -/

/-- Two texts of which both are read, or both are refused with related messages. -/
def RefusedAlike (R : String → String → Prop) (x y : Except String Credentials) : Prop :=
  (∃ c c', x = .ok c ∧ y = .ok c') ∨ ∃ m m', x = .error m ∧ y = .error m' ∧ R m m'

variable {path t u : String}

theorem parse_json_alike (h : Veiled t.toList u.toList) (other : (Json.skipSpace t.toList).head? ≠ some '"') :
    RefusedAlike (· = ·) (parse false t) (parse false u) := by
  have steady : Json.SteadyFields
      (.cons "uri" (Json.text "a string") none (.cons "database" (Json.text "a string") none .nil)) :=
    ⟨by decide, Json.steady_text _, by decide, Json.steady_text _, trivial⟩
  have record := Json.record_alike "Credentials" steady (fun r => Credentials.mk r.1 r.2.1)
    Json.depthLimit h other
  have both (x : String) : parse false x = (Json.readAll (decode Json.depthLimit) x.toList).mapError (·.describe) := rfl
  rw [both, both]
  obtain ⟨c, c', ht, hu⟩ | ⟨e, ht, hu⟩ := Json.readAll_alike h record
  · exact .inl ⟨c, c', congrArg (Except.mapError _) ht, congrArg (Except.mapError _) hu⟩
  · exact .inr ⟨_, _, congrArg (Except.mapError _) ht, congrArg (Except.mapError _) hu, rfl⟩

theorem parse_table_alike (h : Veiled t.toList u.toList) (keys : Toml.KeysUnmarked t.toList) :
    RefusedAlike (fun m m' => ∃ f : Toml.Fault, m = f.render t ∧ m' = f.render u) (parse true t) (parse true u) := by
  have steady : Toml.SteadyFields
      (.cons "uri" (Toml.text "a string") none (.cons "database" (Toml.text "a string") none .nil)) :=
    ⟨Toml.steady_text _, Toml.steady_text _, trivial⟩
  refine (Toml.decodeAll_alike steady false (fun r => Credentials.mk r.1 r.2.1) h keys).imp_right ?_
  rintro ⟨f, ht, hu⟩
  exact ⟨_, _, ht, hu, f, rfl, rfl⟩

/-- Of texts that are read or refused alike, two failures are the same or hold related messages. -/
theorem RefusedAlike.ofText {R : String → String → Prop}
    (h : RefusedAlike R (parse (Files.Path.extension? path = some "toml") t)
      (parse (Files.Path.extension? path = some "toml") u))
    {e e' : ExportError} (failed : ofText path t = .error e) (failed' : ofText path u = .error e') :
    e = e' ∨ ∃ m m', e = .invalidCredentials path m ∧ e' = .invalidCredentials path m' ∧ R m m' := by
  unfold Credentials.ofText at failed failed'
  obtain ⟨c, c', ht, hu⟩ | ⟨m, m', ht, hu, related⟩ := h
  · rw [ht] at failed
    rw [hu] at failed'
    dsimp only at failed failed'
    split at failed
    · split at failed'
      · cases failed
        cases failed'
        exact .inl rfl
      · cases failed'
    · cases failed
  · rw [ht] at failed
    rw [hu] at failed'
    cases failed
    cases failed'
    exact .inr ⟨m, m', rfl, rfl, related⟩

/-! ## Key files -/

/-- Loading a file that is there is reading its text. -/
theorem load_there {w : Workspace} {text : String} (there : w.files.read path = .ok (.text text)) :
    (load (m := StateM Workspace) path w).1 = ofText path text := by
  simp only [load, Runs.lift_bind, Files.isPresent_apply, Files.isSome_find_of_read there, if_true]
  rw [Runs.bind_apply, Runs.adapt_apply, Files.readText_there there]
  rfl

/-- A workspace whose current directory holds a key file. -/
def holding (name text : String) : Workspace where
  files := (Files.Tree.empty "workspace").set [name, "workspace"] (.file (.text text))
  clock := 0
  seed := 0
  console := ""

/-- If two key files that differ in passwords of one length both fail to load, the failures are the same, but for
two cases. A file of settings is shown with the line of a fault, so the failures differ exactly if this is the line of
the password; this is said of files without a password in a key, for keys are named in faults too. And a JSON text
that is a string is shown as a whole. -/
theorem failures_of_two_passwords {before after p q : String} (hp : ∀ c ∈ p.toList, c.isLower)
    (hq : ∀ c ∈ q.toList, c.isLower) (same : p.length = q.length) {w w' : Workspace}
    (there : w.files.read path = .ok (.text (keyText before p after)))
    (there' : w'.files.read path = .ok (.text (keyText before q after))) {e e' : ExportError}
    (failed : (load (m := StateM Workspace) path w).1 = .error e)
    (failed' : (load (m := StateM Workspace) path w').1 = .error e') :
    if Files.Path.extension? path = some "toml" then
      Toml.KeysUnmarked (keyText before p after).toList →
        e = e' ∨ ∃ f : Toml.Fault, e = .invalidCredentials path (f.render (keyText before p after)) ∧
          e' = .invalidCredentials path (f.render (keyText before q after)) ∧
          (e = e' ↔ ((f.position (keyText before p after)).line = before.toList.count '\n' → p = q))
    else (Json.skipSpace (keyText before p after).toList).head? ≠ some '"' → e = e' := by
  have veiled := Text.keyText_veiled hp hq same before after
  rw [load_there there] at failed
  rw [load_there there'] at failed'
  -- The extension of the path decides between the two formats.
  split
  · next settings =>
    intro keys
    have parsed := parse_table_alike veiled keys
    rw [← decide_eq_true settings] at parsed
    refine (parsed.ofText failed failed').imp_right ?_
    rintro ⟨m, m', rfl, rfl, f, rfl, rfl⟩
    refine ⟨f, rfl, rfl, ?_⟩
    rw [← f.render_eq_iff hp hq same before after, ExportError.invalidCredentials.injEq]
    exact and_iff_right rfl
  · next json =>
    intro other
    have parsed := parse_json_alike veiled other
    rw [← decide_eq_false json] at parsed
    obtain rfl | ⟨m, m', rfl, rfl, rfl⟩ := parsed.ofText failed failed'
    · rfl
    · rfl

/-- A JSON key file without a database. -/
def objectFile (password : String) : String := keyText "\x7b\"uri\": \"mongodb" password "\"\x7d"

/-- A key file of settings without a database. -/
def settingsFile (password : String) : String := keyText "uri = \"mongodb" password "\"\n"

/-- What is told about a key file of settings without a database. -/
def settingsFailure (password : String) : ExportError :=
  .invalidCredentials "key.toml" ("TOML parse error at line 1, column 1\n  |\n1 | uri = \"mongodb://u:" ++ password ++
    "@h\"\n  | ^^^^^^^^^^^^^^^^^^^^^^^^^^^\nmissing field \x60database\x60\n")

theorem load_settingsFile {password : String} (short : password = "alpha" ∨ password = "bravo") :
    (load (m := StateM Workspace) "key.toml" (holding "key.toml" (settingsFile password))).1 =
      .error (settingsFailure password) := by
  rw [load_there rfl]
  rcases short with rfl | rfl
  · decide +kernel
  · decide +kernel

/-- Without a database, JSON is refused alike with both passwords, and a file of settings is shown with the line of
the password. -/
theorem failures_without_database :
    (∃ e, (load (m := StateM Workspace) "key.json" (holding "key.json" (objectFile "alpha"))).1 = .error e ∧
      (load (m := StateM Workspace) "key.json" (holding "key.json" (objectFile "bravo"))).1 = .error e) ∧
    ∃ f : Toml.Fault,
      (load (m := StateM Workspace) "key.toml" (holding "key.toml" (settingsFile "alpha"))).1 =
        .error (.invalidCredentials "key.toml" (f.render (settingsFile "alpha"))) ∧
      (load (m := StateM Workspace) "key.toml" (holding "key.toml" (settingsFile "bravo"))).1 =
        .error (.invalidCredentials "key.toml" (f.render (settingsFile "bravo"))) ∧
      (f.position (settingsFile "alpha")).line = 0 := by
  have lower : (∀ c ∈ "alpha".toList, c.isLower) ∧ ∀ c ∈ "bravo".toList, c.isLower :=
    ⟨List.all_eq_true.mp rfl, List.all_eq_true.mp rfl⟩
  constructor
  · have alpha : ofText "key.json" (objectFile "alpha") =
        .error (.invalidCredentials "key.json" "missing field \x60database\x60 at line 1 column 30") := by decide +kernel
    have bravo : ofText "key.json" (objectFile "bravo") =
        .error (.invalidCredentials "key.json" "missing field \x60database\x60 at line 1 column 30") := by decide +kernel
    rw [← load_there (w := holding "key.json" _) rfl] at alpha bravo
    have alike := failures_of_two_passwords lower.1 lower.2 rfl rfl rfl alpha bravo
    rw [if_neg (by decide)] at alike
    exact ⟨_, alpha, alike (by decide) ▸ bravo⟩
  · have alpha := load_settingsFile (.inl rfl)
    have bravo := load_settingsFile (.inr rfl)
    have alike := failures_of_two_passwords lower.1 lower.2 rfl rfl rfl alpha bravo
    rw [if_pos (by decide)] at alike
    obtain same | ⟨f, shown, shown', same⟩ := alike (by decide +kernel)
    · exact absurd same (by decide)
    · refine ⟨f, alpha.trans (congrArg Except.error shown), bravo.trans (congrArg Except.error shown'), ?_⟩
      by_contra elsewhere
      exact absurd (same.2 fun line => absurd line elsewhere) (by decide)

/-- Two key files that differ in the password fail with different messages. -/
theorem messages_of_two_passwords :
    ∃ e e' : ExportError,
      (load (m := StateM Workspace) "key.toml" (holding "key.toml" (settingsFile "alpha"))).1 = .error e ∧
      (load (m := StateM Workspace) "key.toml" (holding "key.toml" (settingsFile "bravo"))).1 = .error e' ∧
      e.message ≠ e'.message :=
  ⟨_, _, load_settingsFile (.inl rfl), load_settingsFile (.inr rfl), by decide⟩

end Fixtures.Export.Credentials
