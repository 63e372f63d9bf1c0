import Fixtures.Generation.Report
import Fixtures.Proofs.Json.Decoding
import Fixtures.Schema.Codec

/-!
# Records and their texts

Schemas, options and reports are read back from their JSON texts: from the printed one, and from every text with
the members of an object in another order, with further members of any well-formed values, or with the array of
its values for an object. These forms may be mixed at every level.

## Main result

* `records_roundTrip`: the records of all four kinds are read back from all their texts.

Each decoder is settled once, from those for its fields, by `Json.decodes_record` and `Json.decodes_list`.
-/

namespace Fixtures

open Json (Decoder Decodes IsTextOf)
open Json (decodes_text decodes_unsigned decodes_list decodes_record)

/-- A record is read back from its texts. -/
structure RoundTrips {α : Type} (toJson : α → Json) (decode : Decoder α) (a : α) : Prop where
  printed : Json.decodeAll decode (toJson a).pretty = .ok a
  written : ∀ text, IsTextOf (toJson a) text → Json.decodeAll decode text = .ok a

theorem RoundTrips.of_decodes {α : Type} {toJson : α → Json} {decode : Decoder α} {a : α} {depth : Nat}
    (h : Decodes depth decode a (toJson a)) (shallow : depth ≤ Json.depthLimit) (floatless : (toJson a).Floatless) :
    RoundTrips toJson decode a where
  printed := Json.decodeAll_of_decodes h shallow (Json.isTextOf_pretty floatless)
  written _ text := Json.decodeAll_of_decodes h shallow text

/-! ## Schemas -/

theorem Argument.decodes (a : Argument) : Decodes 1 decode a a.toJson :=
  decodes_record _ _ (.cons (decodes_text _ a.name) (.cons (decodes_text _ a.value) .nil)) (by decide)

theorem Directive.decodes (d : Directive) : Decodes 3 decode d d.toJson := by
  have arguments := decodes_list fun a (_ : a ∈ d.arguments) => a.decodes
  exact decodes_record _ _ (.cons (decodes_text _ d.name) (.cons arguments .nil)) (by decide)

theorem Field.decodes (f : Field) : Decodes 5 decode f f.toJson := by
  have directives := decodes_list fun d (_ : d ∈ f.directives) => d.decodes
  exact decodes_record _ _ (.cons (decodes_text _ f.name) (.cons directives .nil)) (by decide)

theorem ObjectType.decodes (t : ObjectType) : Decodes 7 decode t t.toJson := by
  have fields := decodes_list fun f (_ : f ∈ t.fields) => f.decodes
  exact decodes_record _ _ (.cons (decodes_text _ t.name) (.cons fields .nil)) (by decide)

theorem Schema.decodes (s : Schema) : Decodes 9 decode s s.toJson := by
  have types := decodes_list fun t (_ : t ∈ s.types) => t.decodes
  exact decodes_record _ _ (.cons types .nil) (by decide)

theorem Schema.floatless (s : Schema) : s.toJson.Floatless := by
  simp [toJson, ObjectType.toJson, Field.toJson, Directive.toJson, Argument.toJson, Json.Floatless,
    Json.FloatlessMembers, Json.floatlessItems_iff]

/-! ## Options and reports -/

namespace Generation

theorem Count.decodes {depth : Nat} (c : Count) : Decodes depth decode c (.int c.val) := by
  refine Json.decodes_checked (decodes_unsigned expected c.pos c.fits) ?_
  rw [ofNat?, dif_pos ⟨c.pos, c.fits⟩]

theorem Options.decodes_word {depth : Nat} (n : UInt64) : Decodes depth decodeWord n (.int n.toNat) := by
  have number : Decodes depth (Json.unsigned expectedWord 0) n.toNat (.int n.toNat) :=
    decodes_unsigned expectedWord (Nat.zero_le _) n.toNat_lt
  have word := number.map UInt64.ofNat
  rw [UInt64.ofNat_toNat] at word
  exact word

theorem Options.decodes (o : Options) : Decodes 1 decode o o.toJson := by
  obtain ⟨outDir, documents, seed⟩ := o
  refine decodes_record _ _ (.cons (decodes_text _ outDir) (.cons documents.decodes (.cons ?_ .nil))) (by decide)
  cases seed with
  | none => exact Json.decodes_none
  | some seed => exact Json.decodes_some (decodes_word seed) Json.noConfusion

theorem decodes_texts {depth : Nat} (texts : List String) :
    Decodes (depth + 1) decodeTexts texts (textsToJson texts) :=
  decodes_list fun s _ => decodes_text _ s

theorem TypeReport.decodes {r : TypeReport} (fits : r.documents < UInt64.size) : Decodes 2 decode r r.toJson :=
  decodes_record _ _ (.cons (decodes_text _ r.typeName) (.cons (decodes_unsigned _ (Nat.zero_le _) fits)
    (.cons (decodes_texts r.fieldsGenerated) (.cons (decodes_texts r.fieldsSkipped)
      (.cons (decodes_text _ r.path) .nil))))) (by decide)

theorem Report.decodes {r : Report} (fit : ∀ t ∈ r.types, t.documents < UInt64.size) :
    Decodes 4 decode r r.toJson := by
  have types := decodes_list fun t ht => TypeReport.decodes (fit t ht)
  exact decodes_record _ _ (.cons (Options.decodes_word r.seed) (.cons types
    (.cons (decodes_texts r.skippedTypes) (.cons (Options.decodes_word r.duration) .nil)))) (by decide)

theorem Options.floatless (o : Options) : o.toJson.Floatless := by
  cases hseed : o.seed <;> simp [toJson, hseed, Json.Floatless, Json.FloatlessMembers]

theorem TypeReport.floatless (r : TypeReport) : r.toJson.Floatless := by
  simp [toJson, textsToJson, Json.Floatless, Json.FloatlessMembers, Json.floatlessItems_iff]

theorem Report.floatless (r : Report) : r.toJson.Floatless := by
  simp [toJson, textsToJson, TypeReport.floatless, Json.Floatless, Json.FloatlessMembers, Json.floatlessItems_iff]

end Generation

open Generation (Options TypeReport Report textsToJson)

/-- Schemas, options, reports and their entries are read back from what is printed of them, and from every text
that has the members of an object in another order and among others, or an object as the array of its values. -/
theorem records_roundTrip :
    (∀ s : Schema, RoundTrips Schema.toJson Schema.decode s) ∧
    (∀ o : Options, RoundTrips Options.toJson Options.decode o) ∧
    (∀ r : TypeReport, r.documents < UInt64.size → RoundTrips TypeReport.toJson TypeReport.decode r) ∧
    ∀ r : Report, (∀ t ∈ r.types, t.documents < UInt64.size) → RoundTrips Report.toJson Report.decode r := by
  refine ⟨fun s => ?_, fun o => ?_, fun r fits => ?_, fun r fit => ?_⟩
  · exact .of_decodes s.decodes (by decide) s.floatless
  · exact .of_decodes o.decodes (by decide) o.floatless
  · exact .of_decodes (TypeReport.decodes fits) (by decide) r.floatless
  · exact .of_decodes (Report.decodes fit) (by decide) r.floatless

/-- A report of one file. -/
def smallReport : Report := ⟨7, [⟨"A", 1, [], [], "p"⟩], [], 0⟩

/-- A text of it. The report is written as an array, but the entry as an object, in which two members have
changed places behind one that the entry does not have. -/
def smallReportText : String :=
  "[7,[\x7b\"x\":[1e999],\"documents\":1,\"type_name\":\"A\",\"fields_generated\":[]," ++
    "\"fields_skipped\":[],\"path\":\"p\"\x7d],[],0]"

open Json in
/-- The entry in it, token by token. -/
def smallEntryTokens (rest : List Char) : List Char :=
  '\x7b' :: '"' :: 'x' :: '"' :: ':' :: '[' :: '1' :: 'e' :: '9' :: '9' :: '9' :: ']' :: ',' ::
    (quote "documents" ++ ':' :: (Text.intDigits 1 ++ ',' :: (quote "type_name" ++ ':' :: (quote "A" ++ ',' ::
      (quote "fields_generated" ++ ':' :: '[' :: ']' :: ',' :: (quote "fields_skipped" ++ ':' :: '[' :: ']' :: ',' ::
        (quote "path" ++ ':' :: (quote "p" ++ '\x7d' :: rest))))))))

open Json in
theorem isTextOf_smallReport : IsTextOf smallReport.toJson smallReportText := by
  have next (text : List Char) : Leads false (',' :: text) text := .comma .nil .nil
  have none_ (text : List Char) : Writes (.value (textsToJson [])) ('[' :: ']' :: text) text :=
    .array (.itemsEnd .nil)
  have huge (text : List Char) : Number ('1' :: 'e' :: '9' :: '9' :: '9' :: text) text :=
    .mk (.digits (by decide) (by decide) .nil) .none
      (.digits (.inl rfl) .none (by decide) (.cons (by decide) (.cons (by decide) .nil)))
  have entry (text : List Char) :
      Writes (.value (TypeReport.toJson ⟨"A", 1, [], [], "p"⟩)) (smallEntryTokens text) text := by
    refine .object (.swap _ _ _) (.unknown (by decide) (.first .nil) (spells_quote "x".toList _) .nil .nil
      (.array (.item (.first .nil) (.number (huge _)) (.itemsEnd .nil))) ?_)
    refine .named (next _) .nil (.int 1) (.named (next _) .nil (.quoted "A" _) ?_)
    refine .named (next _) .nil (none_ _) (.named (next _) .nil (none_ _) ?_)
    exact .named (next _) .nil (.quoted "p" _) (.membersEnd .nil)
  have tokens : smallReportText.toList = '[' :: (Text.intDigits 7 ++ ',' :: '[' :: smallEntryTokens
      (']' :: ',' :: '[' :: ']' :: ',' :: (Text.intDigits 0 ++ [']']))) := by decide +kernel
  refine ⟨_, [], .nil, ?_, .nil⟩
  rw [tokens]
  refine .tuple (.item (.first .nil) (.int 7) (.item (next _) (.array (.item (.first .nil) (entry _)
    (.itemsEnd .nil))) ?_))
  exact .item (next _) (none_ _) (.item (next _) (.int 0) (.itemsEnd .nil))

/-- The report is read back from this text, and from what is printed of it. -/
theorem smallReport_roundTrips :
    (∀ t ∈ smallReport.types, t.documents < UInt64.size) ∧
      IsTextOf smallReport.toJson smallReportText ∧
      Json.decodeAll Report.decode smallReportText = .ok smallReport ∧
      RoundTrips TypeReport.toJson TypeReport.decode ⟨"A", UInt64.size - 1, [], [], "p"⟩ := by
  have fit : ∀ t ∈ smallReport.types, t.documents < UInt64.size := by decide
  have text := isTextOf_smallReport
  obtain ⟨-, -, entries, reports⟩ := records_roundTrip
  exact ⟨fit, text, (reports smallReport fit).written _ text, entries _ (by decide)⟩

end Fixtures
