import Fixtures.Generation.Directive
import Mathlib.Logic.Relation

/-!
# What becomes of the directives of a field

Only the directives with the name of the generating one count, and their number is looked at before any argument is.
None leaves the field alone, two or more are a fault whatever their arguments, and with one its arguments decide:
none, two or more, and one of another name are three more faults, and one of the right name gives its value
(`resolveField_outcomes`). So directives of other names may be put in, taken out and moved (`Edit`).
-/

namespace Fixtures.Generation

/-- The directives that have the name of the generating one. -/
def generatingDirectives (directives : List Directive) : List Directive :=
  directives.filter (·.name = "generate")

/-! ## Edits of other directives -/

/-- One directive of another name is put in or taken out, or changes places with its neighbour. -/
inductive Edit : List Directive → List Directive → Prop
  | insert (front back : List Directive) {d : Directive} (other : d.name ≠ "generate") :
    Edit (front ++ back) (front ++ d :: back)
  | delete (front back : List Directive) {d : Directive} (other : d.name ≠ "generate") :
    Edit (front ++ d :: back) (front ++ back)
  | swap (front back : List Directive) {d e : Directive} (other : d.name ≠ "generate" ∨ e.name ≠ "generate") :
    Edit (front ++ d :: e :: back) (front ++ e :: d :: back)

/-- An edit keeps the generating directives. -/
theorem Edit.generatingDirectives_eq {ds ds' : List Directive} (h : Edit ds ds') :
    generatingDirectives ds' = generatingDirectives ds := by
  cases h with
  | insert _ _ other | delete _ _ other => simp [generatingDirectives, other]
  | swap front back other => rcases other with other | other <;> simp [generatingDirectives, List.filter_cons, other]

/-- Edits lead to all lists with the same generating directives, and to no others. -/
theorem edits_iff {ds ds' : List Directive} :
    Relation.ReflTransGen Edit ds ds' ↔ generatingDirectives ds' = generatingDirectives ds := by
  -- Every list may be left with its generating directives only, and be made from these.
  have left (front ds : List Directive) : Relation.ReflTransGen Edit (front ++ ds) (front ++ generatingDirectives ds) ∧
      Relation.ReflTransGen Edit (front ++ generatingDirectives ds) (front ++ ds) := by
    induction ds generalizing front with
    | nil => exact ⟨.refl, .refl⟩
    | cons d ds ih =>
      by_cases marks : d.name = "generate"
      · have := ih (front ++ [d])
        simpa [generatingDirectives, marks] using this
      · obtain ⟨down, up⟩ := ih front
        have same : generatingDirectives (d :: ds) = generatingDirectives ds := by simp [generatingDirectives, marks]
        rw [same]
        exact ⟨.head (.delete front ds marks) down, up.tail (.insert front ds marks)⟩
  constructor
  · intro h
    induction h with
    | refl => rfl
    | tail _ edit ih => exact edit.generatingDirectives_eq.trans ih
  · intro same
    have down := (left [] ds).1
    have up := (left [] ds').2
    rw [same] at up
    exact down.trans up

/-! ## Outcomes -/

section Outcomes

variable {typeName : String} {field : Field}

theorem resolveField_none (h : generatingDirectives field.directives = []) :
    resolveField typeName field = .ok none := by
  have none : field.directives.filter (·.name = directiveName) = [] := h
  rw [resolveField, resolve, none]
  rfl

theorem resolveField_several (h : 2 ≤ (generatingDirectives field.directives).length) :
    resolveField typeName field = .error ⟨typeName, field.name, .multipleDirectives⟩ := by
  rcases marks : generatingDirectives field.directives with _ | ⟨d, _ | ⟨e, rest⟩⟩
  · simp [marks] at h
  · simp [marks] at h
  · have several : field.directives.filter (·.name = directiveName) = d :: e :: rest := marks
    rw [resolveField, resolve, several]
    rfl

/-- With one generating directive its arguments decide. -/
theorem resolveField_single {d : Directive} (h : generatingDirectives field.directives = [d]) :
    resolveField typeName field =
      match expressionOf d.arguments with
      | .ok expression => .ok (some ⟨field.name, expression⟩)
      | .error fault => .error ⟨typeName, field.name, fault⟩ := by
  have single : field.directives.filter (·.name = directiveName) = [d] := h
  rw [resolveField, resolve, single]
  dsimp only
  cases expressionOf d.arguments <;> rfl

end Outcomes

/-- Each outcome by what it takes, where `marks` are the directives named exactly `generate`: no such directive, two
or more of them, and for a single one no argument, two or more, one of another name than `faker`, and one of this
name, whose value comes out as it is written. Every fault says in which type and at which field it is. Whatever is
done to directives of other names, the outcome stays the same. -/
theorem resolveField_outcomes (typeName : String) (field : Field) :
    let marks := generatingDirectives field.directives
    let fails (fault : DirectiveFault) := resolveField typeName field = .error ⟨typeName, field.name, fault⟩
    (resolveField typeName field = .ok none ↔ marks = []) ∧
    (fails .multipleDirectives ↔ 2 ≤ marks.length) ∧
    (fails .missingArgument ↔ ∃ d, marks = [d] ∧ d.arguments = []) ∧
    (∀ count, fails (.tooManyArguments count) ↔
      ∃ d, marks = [d] ∧ 2 ≤ d.arguments.length ∧ count = d.arguments.length) ∧
    (∀ actual, fails (.wrongArgumentName actual) ↔
      ∃ d value, marks = [d] ∧ d.arguments = [⟨actual, value⟩] ∧ actual ≠ "faker") ∧
    (∀ resolved, resolveField typeName field = .ok (some resolved) ↔
      ∃ d value, marks = [d] ∧ d.arguments = [⟨"faker", value⟩] ∧ resolved = ⟨field.name, value⟩) ∧
    (∀ e, resolveField typeName field = .error e → e.typeName = typeName ∧ e.field = field.name) ∧
    ∀ directives, Relation.ReflTransGen Edit field.directives directives →
      resolveField typeName { field with directives } = resolveField typeName field := by
  intro marks fails
  have edited (directives : List Directive) (h : Relation.ReflTransGen Edit field.directives directives) :
      resolveField typeName { field with directives } = resolveField typeName field := by
    have same : resolve typeName { field with directives } = resolve typeName field :=
      resolve_congr typeName _ field rfl (edits_iff.mp h)
    rw [resolveField, resolveField, same]
  simp only [← and_assoc]
  refine ⟨?_, edited⟩
  simp only [and_assoc, fails]
  -- The cases are those of the outcomes: in each one holds, and what the others take does not.
  rcases hmarks : marks with _ | ⟨d, _ | ⟨e, rest⟩⟩
  · rw [resolveField_none hmarks]
    simp
  · rw [resolveField_single hmarks]
    rcases hargs : d.arguments with _ | ⟨⟨actual, value⟩, _ | ⟨b, more⟩⟩
    · simp [expressionOf, hargs]
    · by_cases named : actual = "faker"
      · simp [expressionOf, argumentName, hargs, named, eq_comm]
      · simp [expressionOf, argumentName, hargs, named]
    · simp [expressionOf, hargs, eq_comm (a := more.length + 1 + 1)]
  · have several : 2 ≤ (generatingDirectives field.directives).length := by
      rw [show generatingDirectives field.directives = _ from hmarks]
      simp
    rw [resolveField_several several]
    simp

end Fixtures.Generation
