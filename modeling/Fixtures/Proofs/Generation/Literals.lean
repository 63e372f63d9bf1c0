import Fixtures.Generation.Seeding
import Fixtures.Proofs.Runs
import Fixtures.Proofs.Script.Literals

/-!
# Literals through the whole pipeline

A field that is generated from a literal other than a string has the value of the literal in every document:
`assemble_writeConstants`. On the way the literal is read by the schema language, written as text, read again as a
script, and its value is turned into JSON; all that leaves the random stream where it was.

## Shape of the proof

`parse_writeConstants` and `Session.evaluate_literal` are about the two languages. What is left is that an evaluator
which answers a constant gives that constant to every document, by induction on the documents, the fields and the
types.
-/

namespace Fixtures.Generation

open Script (Session)
open Sdl (ConstantField ConstantType)

/-- The document that literals come to: of fields of one name the last one counts. -/
def constantDocument (fields : List ConstantField) : Document :=
  fields.foldl (fun document f => Json.setMember document f.name f.value.json) []

/-- The documents of a type that is generated from literals. -/
def constantSet (count : Nat) (type : ConstantType) : DocumentSet :=
  ⟨type.name, List.replicate count (constantDocument type.fields), type.fields.map (·.name), []⟩

/-- The last field of a name gives its value. -/
theorem member?_constantDocument {before after : List ConstantField} {f : ConstantField}
    (last : ∀ g ∈ after, g.name ≠ f.name) :
    Json.member? (constantDocument (before ++ f :: after)) f.name = some f.value.json := by
  rw [constantDocument, List.foldl_append, List.foldl_cons]
  generalize before.foldl _ [] = document
  have kept (document : Document) (value : Json) (h : document.lookup f.name = some value) :
      (after.foldl (fun document g => Json.setMember document g.name g.value.json) document).lookup f.name =
        some value := by
    induction after generalizing document with
    | nil => exact h
    | cons g rest ih =>
      refine ih (fun g hg => last g (List.mem_cons_of_mem _ hg)) _ ?_
      rw [Json.lookup_setMember_ne _ _ (last g List.mem_cons_self), h]
  exact kept _ _ (Json.lookup_setMember_self _ _ _)

theorem resolve_constant (typeName : String) (f : ConstantField) :
    resolve typeName f.field = .ok (some f.value.literal.text) := rfl

/-- A literal is evaluated to its value, and nothing changes. -/
theorem evaluate_constant (now : Int) (start : ObjectType → UInt64) (c : Constant) (s : Session) :
    (Session.evaluator now start).evaluate c.literal.text s = (.ok c.json, s) := by
  simp only [Session.evaluator, s.evaluate_literal now c]
  rw [← c.toJson_value]

section

variable (now : Int) (start : ObjectType → UInt64)

theorem fillField_constant (typeName : String) (f : ConstantField) (index : Nat) (documents : List Document)
    (s : Session) :
    fillField (Session.evaluator now start) typeName f.field.name f.value.literal.text index documents s =
      (.ok (documents.map fun document => Json.setMember document f.name f.value.json), s) := by
  induction documents generalizing index with
  | nil => rfl
  | cons document rest ih =>
    rw [fillField, Runs.lift_bind, evaluate_constant]
    dsimp only
    rw [Runs.bind_apply, ih]
    rfl

theorem addFields_constant (fields : List ConstantField) (typeName : String) (document : Document) (count : Nat)
    (names : List String) (s : Session) :
    (fields.map ConstantField.field).foldlM (addField (Session.evaluator now start))
        ⟨typeName, List.replicate count document, names, []⟩ s =
      (.ok ⟨typeName, List.replicate count
        (fields.foldl (fun document f => Json.setMember document f.name f.value.json) document),
        names ++ fields.map (·.name), []⟩, s) := by
  induction fields generalizing document names with
  | nil => simp; rfl
  | cons f rest ih =>
    have first : addField (Session.evaluator now start) ⟨typeName, List.replicate count document, names, []⟩ f.field s =
        (.ok ⟨typeName, List.replicate count (Json.setMember document f.name f.value.json), names ++ [f.name], []⟩,
          s) := by
      unfold addField
      rw [resolve_constant]
      dsimp only
      rw [Runs.bind_apply, fillField_constant, List.map_replicate]
      rfl
    rw [List.map_cons, List.foldlM_cons, Runs.bind_apply, first]
    dsimp only
    rw [ih]
    simp

/-- A session in which types were begun, one after the other, and nothing else was done. -/
def begun (types : List ConstantType) (s : Session) : Session :=
  types.foldl (fun s type => ((Session.evaluator now start).begin type.objectType s).2) s

theorem assembleType_constant (count : Nat) (type : ConstantType) (s : Session) :
    assembleType (Session.evaluator now start) count type.objectType s =
      (.ok (if type.fields.isEmpty then none else some (constantSet count type)), s) := by
  obtain ⟨name, fields, named⟩ := type
  cases fields with
  | nil => rfl
  | cons f rest =>
    have added := addFields_constant now start (f :: rest) name [] count [] s
    show ((((f :: rest).map ConstantField.field).foldlM (addField (Session.evaluator now start))
      ⟨name, List.replicate count [], [], []⟩ >>= fun set => pure (some set)) : Assemble Session _) s = _
    rw [Runs.bind_apply, added]
    rfl

theorem assembleTypes_constant (count : Nat) (types : List ConstantType) (s : Session) :
    assembleTypes (Session.evaluator now start) count (types.map ConstantType.objectType) s =
      (.ok ((types.filter (!·.fields.isEmpty)).map (constantSet count)), begun now start types s) := by
  induction types generalizing s with
  | nil => rfl
  | cons type rest ih =>
    rw [List.map_cons, assembleTypes, Runs.lift_bind, Runs.bind_apply, assembleType_constant]
    dsimp only
    rw [Runs.bind_apply, ih]
    rw [List.filter_cons]
    cases type.fields.isEmpty <;> rfl

end

/-- Fields that are generated from literals other than strings have the values of these in every document, with
every seed and any number of documents. Each of them is evaluated to its value in every session, which stays as it
was; so in the end the random stream is where it is when the types have only been begun. -/
theorem assemble_writeConstants {types : List ConstantType} (nonempty : types ≠ []) :
    Sdl.parse (Sdl.writeConstants types) = .ok ⟨types.map ConstantType.objectType⟩ ∧
      (∀ now seed count, assembleSeeded now seed count ⟨types.map ConstantType.objectType⟩ =
        (.ok ((types.filter (!·.fields.isEmpty)).map (constantSet count.val)),
          begun now (fun type => Random.mixSeed seed type.name) types (Session.ofSeed seed))) ∧
      ∀ type ∈ types, ∀ before f after, type.fields = before ++ f :: after →
        (∃ expression, resolve type.name f.field = .ok (some expression) ∧ ∀ now start s,
          (Session.evaluator now start).evaluate expression s = (.ok f.value.json, s)) ∧
        ((∀ g ∈ after, g.name ≠ f.name) →
          Json.member? (constantDocument type.fields) f.name = some f.value.json) := by
  refine ⟨Sdl.parse_writeConstants nonempty, fun now seed count => ?_, fun type _ before f after whole => ⟨?_, ?_⟩⟩
  · exact assembleTypes_constant now _ count.val types (Session.ofSeed seed)
  · exact ⟨_, resolve_constant type.name f, fun now start s => evaluate_constant now start f.value s⟩
  · intro last
    rw [whole]
    exact member?_constantDocument last

/-- A type with the least and the greatest integer, a zero with a sign, and a list with a comment in it. -/
def limits : List ConstantType :=
  [⟨"Limits",
    [⟨"low", "Int", .scalar (.int Int64.minValue), _, by decide, by decide, .scalar (.int _)⟩,
      ⟨"zero", "Int", .scalar (.int 0), _, by decide, by decide, .scalar .negativeZero⟩,
      ⟨"list", "Mixed", .list [.int Int64.maxValue, .bool false], _, by decide, by decide,
        .list (.blank (c := ' ') (by decide) .nil) (.int _)
          (.cons (.blank (c := ',') (by decide) .nil) (by decide) (.bool _)
            (.nil (@Constant.Gap.comment " no".toList [] '\n' (by simp) (.inl rfl) .nil)))⟩],
    by decide⟩]

/-- The text of the limits. -/
def limitsText : String :=
  "type Limits \x7b low: Int @generate(faker: -9223372036854775808) zero: Int @generate(faker: -0) " ++
    "list: Mixed @generate(faker: [ 9223372036854775807,false# no\n]) \x7d\n"

/-- The text of the limits is read, and both of two documents hold them. -/
theorem assemble_limits :
    limits ≠ [] ∧ Sdl.parse limitsText = .ok ⟨limits.map ConstantType.objectType⟩ ∧
      (assembleSeeded 0 7 ⟨2, by decide, by decide⟩ ⟨limits.map ConstantType.objectType⟩).1 =
        .ok [⟨"Limits", List.replicate 2 [("low", .int (-9223372036854775808)), ("zero", .int 0),
          ("list", .array [.int 9223372036854775807, .bool false])], ["low", "zero", "list"], []⟩] ∧
      (assembleSeeded 0 7 ⟨2, by decide, by decide⟩ ⟨limits.map ConstantType.objectType⟩).2.generator =
        Random.Generator.ofSeed (Random.mixSeed 7 "Limits") := by
  have nonempty : limits ≠ [] := List.cons_ne_nil _ _
  obtain ⟨read, assembled, -⟩ := assemble_writeConstants nonempty
  have text : Sdl.writeConstants limits = limitsText := by decide +kernel
  rw [text] at read
  rw [assembled]
  exact ⟨nonempty, read, rfl, rfl⟩

end Fixtures.Generation
