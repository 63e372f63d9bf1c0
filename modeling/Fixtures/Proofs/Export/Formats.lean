import Fixtures.Proofs.Export.KeyFiles
import Fixtures.Proofs.Toml.Lines

/-!
# Key files of two formats

The same credentials as a text of settings and as JSON. Both are loaded to the same two strings, however their
characters are escaped and whatever stands beside them, or both are refused because the database has no name.

## Main result

* `load_table_and_object`: the two key files are loaded alike.
-/

namespace Fixtures.Export.Credentials

variable {c : Credentials} {w w' : Workspace} {path path' text text' : String}

/-! ## Texts that hold credentials -/

/-- The object of credentials. -/
def toJson (c : Credentials) : Json := .object [("uri", .string c.uri), ("database", .string c.database)]

/-- A settings text that holds credentials as strings between double quotation marks: on lines of their own, in any
order and among the lines of other keys. -/
def IsTableText (c : Credentials) (text : String) : Prop :=
  ∃ settings, Toml.Lines settings (Toml.Document.body text) ∧ (settings.map (·.1)).Nodup ∧
    ("uri", some c.uri) ∈ settings ∧ ("database", some c.database) ∈ settings

/-! ## Reading -/

theorem parse_object (written : Json.IsTextOf c.toJson text) : parse false text = .ok c := by
  have decodes : Json.Decodes 1 decode c c.toJson :=
    Json.decodes_record _ _ (.cons (Json.decodes_text _ c.uri) (.cons (Json.decodes_text _ c.database) .nil)) (by decide)
  simp only [parse, Bool.false_eq_true, if_false, Json.decodeAll_of_decodes decodes (by decide) written]
  rfl

/-- The fields of credentials in a table. -/
def tableFields : Data.Fields Toml.Decoder [String, String] :=
  .cons "uri" (Toml.text "a string") none (.cons "database" (Toml.text "a string") none .nil)

/-- Credentials are decoded from a table that holds them. -/
theorem decodeTable_of_stores {settings : List (String × Option String)} {members : Toml.Members}
    (stored : List.Forall₂ (Toml.Stores Toml.IsValue) settings members) (distinct : (settings.map (·.1)).Nodup)
    (uri : ("uri", some c.uri) ∈ settings) (database : ("database", some c.database) ∈ settings)
    (form : Toml.Form) (span : Option Toml.Span) : decodeTable (.table form members span) = .ok c := by
  have meant {name s : String} (there : (name, some s) ∈ settings) (m : Toml.Key × Toml.Item) (hm : m ∈ members)
      (named : m.1.name = name) : Toml.text "a string" m.2 = .ok s := by
    obtain ⟨⟨other, v⟩, said, same, value⟩ := Toml.exists_of_mem_stores stored hm
    -- the keys are different, so this is the entry of that name
    obtain ⟨-, rfl⟩ := Prod.mk.inj (List.inj_on_of_nodup_map distinct said there (same.symm.trans named))
    obtain ⟨place, item⟩ := value s rfl
    rw [item]
    rfl
  have filled : ∀ m ∈ members, Toml.Fills tableFields (c.uri, c.database, ()) m :=
    fun m hm => ⟨meant uri m hm, meant database m hm, trivial⟩
  have all : ∀ name ∈ tableFields.names, name ∈ members.map (·.1.name) := by
    intro name hname
    rw [Toml.names_of_stores stored]
    rcases List.mem_cons.1 hname with rfl | hname
    · exact List.mem_map_of_mem uri
    · obtain rfl := List.mem_singleton.1 hname
      exact List.mem_map_of_mem database
  exact Toml.record_of_fills (by decide) filled all (fun r => Credentials.mk r.1 r.2.1) form span

theorem parse_table (written : IsTableText c text) : parse true text = .ok c := by
  obtain ⟨settings, lines, distinct, uri, database⟩ := written
  obtain ⟨members, span, stored, read⟩ := Toml.parse_of_lines lines distinct
  simp only [parse, if_true, Toml.decodeAll, read, Except.bind, decodeTable_of_stores stored distinct uri database]
  rfl

/-- What is read of the text of a key file is refused only if its database has no name. -/
theorem ofText_of_parse (read : parse (Files.Path.extension? path = some "toml") text = .ok c) :
    ofText path text =
      if c.isNameless then .error (.invalidCredentials path "database must not be empty") else .ok c := by
  rw [ofText, read]

/-- A name has a character that is no white space. -/
theorem isNameless_eq_false (named : ∃ ch ∈ c.database.toList, Text.isBlank ch = false) : c.isNameless = false := by
  obtain ⟨ch, there, visible⟩ := named
  exact List.all_eq_false.mpr ⟨ch, there, by simp [visible]⟩

/-! ## Loading -/

/-- A settings file and a JSON file that hold the same two strings are loaded alike: to these strings if the database
has a character that is no white space, and otherwise to the same failure, each under its own path. -/
theorem load_table_and_object (table : Files.Path.extension? path = some "toml")
    (other : Files.Path.extension? path' ≠ some "toml") (written : IsTableText c text)
    (written' : Json.IsTextOf c.toJson text') (there : w.files.read path = .ok (.text text))
    (there' : w'.files.read path' = .ok (.text text')) :
    ((∃ ch ∈ c.database.toList, Text.isBlank ch = false) →
      (load (m := StateM Workspace) path w).1 = .ok c ∧ (load (m := StateM Workspace) path' w').1 = .ok c) ∧
    ((∀ ch ∈ c.database.toList, Text.isBlank ch = true) →
      (load (m := StateM Workspace) path w).1 = .error (.invalidCredentials path "database must not be empty") ∧
        (load (m := StateM Workspace) path' w').1 =
          .error (.invalidCredentials path' "database must not be empty")) := by
  have read : parse (Files.Path.extension? path = some "toml") text = .ok c := by
    rw [decide_eq_true table]
    exact parse_table written
  have read' : parse (Files.Path.extension? path' = some "toml") text' = .ok c := by
    rw [decide_eq_false other]
    exact parse_object written'
  rw [load_there there, load_there there', ofText_of_parse read, ofText_of_parse read']
  constructor
  · intro named
    rw [isNameless_eq_false named]
    exact ⟨rfl, rfl⟩
  · intro blank
    have nameless : c.isNameless = true := List.all_eq_true.mpr blank
    rw [nameless]
    exact ⟨rfl, rfl⟩

/-! ## Two key files -/

/-- A settings file with two strings as they are spelled: a comment stands behind the first, an empty line and a key
between quotation marks before the second, and one more key that no field knows behind it. -/
def settingsText (uri database : String) : String :=
  "database = \"" ++ database ++ "\" # its name\n\n\"uri\" = \"" ++ uri ++ "\"\ntls = true\n"

/-- A JSON file with two strings as they are spelled, and with a key between them that no field knows. -/
def objectText (uri database : String) : String :=
  "\x7b\"database\":\"" ++ database ++ "\",\"tls\":[1e999],\"uri\":\"" ++ uri ++ "\"\x7d"

section Texts

variable {uri database : String}

/-- The characters of a text around two strings. -/
theorem toList_around {a b d s t : String} {first second third : List Char} (ha : a.toList = first)
    (hb : b.toList = second) (hd : d.toList = third) :
    (a ++ s ++ b ++ t ++ d).toList = first ++ (s.toList ++ (second ++ (t.toList ++ third))) := by
  simp only [String.toList_append, List.append_assoc, ha, hb, hd]

open Toml in
theorem isTableText_settingsText (hu : ∀ rest, Spells (uri.toList ++ '"' :: rest) c.uri.toList rest)
    (hd : ∀ rest, Spells (database.toList ++ '"' :: rest) c.database.toList rest) :
    IsTableText c (settingsText uri database) := by
  have front : "database = \"".toList = "database".toList ++ [' ', '=', ' ', '"'] := rfl
  have middle : "\" # its name\n\n\"uri\" = \"".toList = '"' :: ' ' :: '#' :: (" its name".toList ++
      '\n' :: '\n' :: '"' :: ("uri".toList.flatMap writtenChar ++ ['"', ' ', '=', ' ', '"'])) := rfl
  have back : "\"\ntls = true\n".toList =
      '"' :: '\n' :: ("tls".toList ++ ' ' :: '=' :: ' ' :: ("true".toList ++ ['\n'])) := rfl
  have gap (text : List Char) : Blanks (' ' :: text) text := .cons (by decide) .nil
  have comment (text : List Char) : Trail (' ' :: '#' :: (" its name".toList ++ '\n' :: text)) text :=
    .comment (gap _) (.mk (List.all_eq_true.mp rfl) (.line .feed))
  have last : Lines [("tls", none)] ("tls".toList ++ ' ' :: '=' :: ' ' :: ("true".toList ++ ['\n'])) :=
    .entry .nil (.bare ⟨by decide, List.all_eq_true.mp rfl⟩) (gap _) (gap _)
      (.other (x := .boolean true ⟨5, 1⟩) rfl) (.plain .nil (.line .feed)) (.nil .nil)
  have second := Lines.entry .nil (.quoted (spells_written "uri".toList _)) (gap _) (gap _) (.string (hu _))
    (.plain .nil (.line .feed)) last
  have whole : (settingsText uri database).toList = _ := toList_around front middle back
  have lines : Lines [("database", some c.database), ("uri", some c.uri), ("tls", none)]
      (settingsText uri database).toList := by
    rw [whole]
    simp only [List.append_assoc, List.cons_append, List.nil_append]
    exact .entry .nil (.bare ⟨by decide, List.all_eq_true.mp rfl⟩) (gap _) (gap _) (.string (hd _)) (comment _)
      (.blank .nil .feed second)
  have unmarked : Document.body (settingsText uri database) = (settingsText uri database).toList := by
    rw [Document.body, whole]
    rfl
  exact ⟨_, unmarked ▸ lines, by simp, by simp, by simp⟩

open Json in
theorem isTextOf_objectText (hu : ∀ rest, Spells (uri.toList ++ '"' :: rest) c.uri.toList rest)
    (hd : ∀ rest, Spells (database.toList ++ '"' :: rest) c.database.toList rest) :
    IsTextOf c.toJson (objectText uri database) := by
  have front : "\x7b\"database\":\"".toList = '\x7b' :: (quote "database" ++ [':', '"']) := rfl
  have middle : "\",\"tls\":[1e999],\"uri\":\"".toList = '"' :: ',' :: '"' :: ("tls".toList.flatMap escape ++
      '"' :: ':' :: '[' :: '1' :: 'e' :: '9' :: '9' :: '9' :: ']' :: ',' :: (quote "uri" ++ [':', '"'])) := rfl
  have back : "\"\x7d".toList = ['"', '\x7d'] := rfl
  have next (text : List Char) : Leads false (',' :: text) text := .comma .nil .nil
  have huge (text : List Char) : Number ('1' :: 'e' :: '9' :: '9' :: '9' :: text) text :=
    .mk (.digits (by decide) (by decide) .nil) .none
      (.digits (.inl rfl) .none (by decide) (.cons (by decide) (.cons (by decide) .nil)))
  have whole : (objectText uri database).toList = _ := toList_around front middle back
  refine ⟨_, [], .nil, ?_, .nil⟩
  rw [whole]
  simp only [List.append_assoc, List.cons_append, List.nil_append]
  refine .object (.swap _ _ _) (.named (.first .nil) .nil (.string (hd _)) ?_)
  refine .unknown (show "tls" ∉ ["uri", "database"] by decide) (next _) (spells_quote _ _) .nil .nil
    (.array (.item (.first .nil) (.number (huge _)) (.itemsEnd .nil))) ?_
  exact .named (next _) .nil (.string (hu _)) (.membersEnd .nil)

end Texts

/-- All credentials can be held by files of both formats. -/
theorem exists_texts (c : Credentials) : (∃ text, IsTableText c text) ∧ ∃ text, Json.IsTextOf c.toJson text := by
  have table (s : String) (rest : List Char) :
      Toml.Spells ((String.ofList (s.toList.flatMap Toml.writtenChar)).toList ++ '"' :: rest) s.toList rest := by
    rw [String.toList_ofList]
    exact Toml.spells_written s.toList rest
  have object (s : String) (rest : List Char) :
      Json.Spells ((String.ofList (s.toList.flatMap Json.escape)).toList ++ '"' :: rest) s.toList rest := by
    rw [String.toList_ofList]
    exact Json.spells_quote s.toList rest
  exact ⟨⟨_, isTableText_settingsText (table c.uri) (table c.database)⟩,
    ⟨_, isTextOf_objectText (object c.uri) (object c.database)⟩⟩

section Spellings

variable (rest : List Char)

/-- A settings file spells a character with one code. -/
theorem table_spells_smile : Toml.Spells (" \\U0001F600 ".toList ++ '"' :: rest) " 😀 ".toList rest := by
  have tokens : " \\U0001F600 ".toList = [' ', '\\', 'U', '0', '0', '0', '1', 'F', '6', '0', '0', ' '] := rfl
  have smile : " 😀 ".toList = [' ', '😀', ' '] := rfl
  have value : Text.readHex? ['0', '0', '0', '1', 'F', '6', '0', '0'] = some '😀'.toNat := by decide
  have coded : Toml.Spells ('\\' :: 'U' :: (['0', '0', '0', '1', 'F', '6', '0', '0'] ++ ' ' :: '"' :: rest))
      ['😀', ' '] rest := .code (by decide) rfl value (.plain (by decide) .close)
  rw [tokens, smile]
  exact .plain (by decide) coded

/-- JSON spells it with a pair of codes. -/
theorem object_spells_smile : Json.Spells (" \\uD83D\\ude00 ".toList ++ '"' :: rest) " 😀 ".toList rest := by
  have tokens : " \\uD83D\\ude00 ".toList =
      [' ', '\\', 'u', 'D', '8', '3', 'D', '\\', 'u', 'd', 'e', '0', '0', ' '] := rfl
  have smile : " 😀 ".toList = [' ', '😀', ' '] := rfl
  have high : Text.readHex? ['D', '8', '3', 'D'] = some 0xD83D := by decide
  have low : Text.readHex? ['d', 'e', '0', '0'] = some 0xDE00 := by decide
  have blank : Json.IsPlain ' ' := ⟨by decide, by decide, by decide⟩
  have last : Json.Spells (' ' :: '"' :: rest) [' '] rest := .plain blank .close
  have paired := Json.Spells.pair high (by decide) low (by decide) last
  have joined : Char.ofNat ((0xD83D - 0xD800) * 0x400 + (0xDE00 - 0xDC00) + 0x10000) = '😀' := by decide
  rw [joined] at paired
  rw [tokens, smile]
  exact .plain blank paired

/-- White space may be spelled with codes and as it is. -/
theorem table_spells_space : Toml.Spells ("\\u3000\\n".toList ++ '"' :: rest) "\u3000\n".toList rest := by
  have tokens : "\\u3000\\n".toList = ['\\', 'u', '3', '0', '0', '0', '\\', 'n'] := rfl
  have space : "\u3000\n".toList = ['\u3000', '\n'] := rfl
  have value : Text.readHex? ['3', '0', '0', '0'] = some '\u3000'.toNat := by decide
  have coded : Toml.Spells ('\\' :: 'u' :: (['3', '0', '0', '0'] ++ '\\' :: 'n' :: '"' :: rest))
      ['\u3000', '\n'] rest := .code (by decide) rfl value (.short (by decide) .close)
  rw [tokens, space]
  exact coded

theorem object_spells_space : Json.Spells ("\u3000\\n".toList ++ '"' :: rest) "\u3000\n".toList rest := by
  have tokens : "\u3000\\n".toList = ['\u3000', '\\', 'n'] := rfl
  have space : "\u3000\n".toList = ['\u3000', '\n'] := rfl
  rw [tokens, space]
  exact .plain ⟨by decide, by decide, by decide⟩ (.short (by decide) .close)

end Spellings

/-- A name between blanks is loaded from both files with the blanks, and a name of white space is refused under both
paths. -/
theorem load_spellings :
    ((load (m := StateM Workspace) "key.toml" (holding "key.toml" (settingsText "\\n" " \\U0001F600 "))).1 =
        .ok ⟨"\n", " 😀 "⟩ ∧
      (load (m := StateM Workspace) "key" (holding "key" (objectText "\\n" " \\uD83D\\ude00 "))).1 =
        .ok ⟨"\n", " 😀 "⟩) ∧
    (load (m := StateM Workspace) "key.toml" (holding "key.toml" (settingsText "\\n" "\\u3000\\n"))).1 =
        .error (.invalidCredentials "key.toml" "database must not be empty") ∧
      (load (m := StateM Workspace) "key" (holding "key" (objectText "\\n" "\u3000\\n"))).1 =
        .error (.invalidCredentials "key" "database must not be empty") := by
  have table (rest : List Char) : Toml.Spells ("\\n".toList ++ '"' :: rest) "\n".toList rest :=
    .short (by decide) .close
  have object (rest : List Char) : Json.Spells ("\\n".toList ++ '"' :: rest) "\n".toList rest :=
    .short (by decide) .close
  have there (text : String) : (holding "key.toml" text).files.read "key.toml" = .ok (.text text) := rfl
  have there' (text : String) : (holding "key" text).files.read "key" = .ok (.text text) := rfl
  have named := load_table_and_object (c := ⟨"\n", " 😀 "⟩) (by decide) (by decide)
    (isTableText_settingsText table table_spells_smile) (isTextOf_objectText object object_spells_smile)
    (there _) (there' _)
  have nameless := load_table_and_object (c := ⟨"\n", "\u3000\n"⟩) (by decide) (by decide)
    (isTableText_settingsText table table_spells_space) (isTextOf_objectText object object_spells_space)
    (there _) (there' _)
  exact ⟨named.1 ⟨'😀', by simp, by decide⟩, nameless.2 (List.all_eq_true.mp rfl)⟩

end Fixtures.Export.Credentials
