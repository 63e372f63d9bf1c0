import Fixtures.Proofs.Random.Ranges
import Fixtures.Proofs.Script.Topics

/-!
# Integers a script asks for

For integers a call is a draw between two bounds: what is drawn lies between them, or the call is refused before
anything is drawn (`intCall_bounds`). Each way to write the bounds comes to the one in which both are given; for
those among options this is `intCall_options`.
-/

namespace Fixtures.Script

open Fixtures.Random (Draw Generator)

/-! ## Bounds -/

/-- The bound that an option gives, or a default if it is not given; none if it is no integer. -/
def boundOf (options : List (String × Value)) (key : String) (default : Int64) : Option Int64 :=
  match member? options key with
  | none => some default
  | some (.int n) => some n
  | some _ => none

theorem intOption_of_boundOf {options : List (String × Value)} {key : String} {default n : Int64}
    (h : boundOf options key default = some n) :
    Binding.intOption options key default.toInt = .ok n.toInt := by
  rw [boundOf] at h
  rw [Binding.intOption]
  cases there : member? options key with
  | none =>
    rw [there] at h
    cases h
    rfl
  | some v =>
    rw [there] at h
    cases v with
    | int m =>
      cases h
      rfl
    | _ => cases h

/-- An option that is given and no integer is refused. -/
theorem intOption_refused {options : List (String × Value)} {key : String} {default : Int64}
    (h : boundOf options key default = none) :
    ∃ text, Binding.intOption options key default.toInt = .error (Binding.complain text) := by
  rw [boundOf] at h
  rw [Binding.intOption]
  cases there : member? options key with
  | none =>
    rw [there] at h
    cases h
  | some v =>
    rw [there] at h
    cases v with
    | int m => cases h
    | _ => exact ⟨_, rfl⟩

/-- Between bounds in order an integer is drawn that lies between them. -/
theorem int_mem {min max : Int64} (ordered : min ≤ max) (g : Generator) :
    ∃ v generator, Binding.int min.toInt max.toInt g = (.ok (.int v), generator) ∧ min ≤ v ∧ v ≤ max := by
  rw [Int64.le_iff_toInt_le] at ordered
  obtain ⟨lower, upper⟩ := Random.intBetween_mem min.minValue_le_toInt max.toInt_le ordered g
  have least := min.le_toInt
  have greatest := max.toInt_lt
  -- What lies between the bounds has 64 bits, so it is not changed by taking it as such an integer.
  have kept := @Int64.toInt_ofInt_of_le (Random.intBetween min.toInt max.toInt g).1 (by omega) (by omega)
  rw [Binding.int, if_neg (by omega)]
  refine ⟨Int64.ofInt (Random.intBetween min.toInt max.toInt g).1, _, rfl, ?_⟩
  rw [Int64.le_iff_toInt_le, Int64.le_iff_toInt_le, kept]
  exact ⟨lower, upper⟩

/-- Bounds out of order are refused. -/
theorem int_refused {min max : Int64} (disordered : ¬ min ≤ max) :
    ∃ text, Binding.int min.toInt max.toInt = Binding.refused text := by
  rw [Int64.le_iff_toInt_le] at disordered
  rw [Binding.int, if_pos (by omega)]
  exact ⟨_, rfl⟩

/-- The call of `faker.number.int` with arguments. -/
abbrev intCall (args : List Value) (place : Place) : Run Reply := Call.plain "int" (.topic .number :: args) place

theorem intCall_apply {args : List Value} {draw : Draw (Except Cause Value)}
    (called : Binding.number? "int" args = some draw) (place : Place) (m : Machine) :
    intCall args place m = drawnReply place m (draw m.generator) :=
  @plain_topic .number "int" args m draw (by decide) called place

/-- Between two bounds in order an integer is drawn that lies between them; otherwise nothing is drawn. -/
theorem intCall_bounds (m : Machine) (place : Place) (min max : Int64) :
    if min ≤ max then
      ∃ v generator, intCall [.int min, .int max] place m =
        (.ok { value := .int v }, m.withGenerator generator) ∧ min ≤ v ∧ v ≤ max
    else ∃ text, intCall [.int min, .int max] place m =
      (.error (.fault (Fault.of (Binding.complain text) place)), m) := by
  rw [intCall_apply rfl]
  split
  · next ordered =>
    obtain ⟨v, generator, drawn, between⟩ := int_mem ordered m.generator
    exact ⟨v, generator, by rw [drawn]; rfl, between⟩
  · next disordered =>
    obtain ⟨text, refused⟩ := int_refused disordered
    exact ⟨text, by rw [refused, drawnReply_refused]⟩

theorem greatestSafe_eq : Binding.greatestSafe = (9007199254740991 : Int64).toInt := by decide

/-- Bounds among options are the same as bounds that are given; an option that is no integer is refused. -/
theorem intCall_options (m : Machine) (place : Place) (options : List (String × Value)) :
    match boundOf options "min" 0, boundOf options "max" 9007199254740991 with
    | some low, some high => intCall [.map options] place m = intCall [.int low, .int high] place m
    | _, _ => ∃ text, intCall [.map options] place m =
      (.error (.fault (Fault.of (Binding.complain text) place)), m) := by
  have optional : intCall [.map options] place m = drawnReply place m (Binding.withOptions
      (Binding.intOption options "min" (0 : Int64).toInt)
      (Binding.intOption options "max" (9007199254740991 : Int64).toInt) Binding.int m.generator) := by
    rw [← greatestSafe_eq]
    exact intCall_apply rfl place m
  rw [optional]
  -- The lower bound is looked up first, and where it is refused the upper one is not asked for.
  cases hlow : boundOf options "min" 0 with
  | none =>
    obtain ⟨text, refused⟩ := intOption_refused hlow
    rw [refused]
    exact ⟨text, drawnReply_refused text place m⟩
  | some low =>
    rw [intOption_of_boundOf hlow]
    cases hhigh : boundOf options "max" 9007199254740991 with
    | none =>
      obtain ⟨text, refused⟩ := intOption_refused hhigh
      rw [refused]
      exact ⟨text, drawnReply_refused text place m⟩
    | some high =>
      rw [intOption_of_boundOf hhigh]
      exact (intCall_apply rfl place m).symm

/-- Asking for an integer, on every machine and so for every place in the random stream. Between two bounds in
order the integer lies between them, and nothing but the generator changes; bounds out of order are a fault of the
script, and nothing changes. A bound that is not given is zero or the greatest integer that all readers of JSON
keep, also among options; an option that is no integer is a fault of the script, and nothing changes. -/
theorem intCall_within (m : Machine) (place : Place) (min max : Int64) (options : List (String × Value)) :
    (if min ≤ max then
      ∃ v generator, intCall [.int min, .int max] place m =
        (.ok { value := .int v }, m.withGenerator generator) ∧ min ≤ v ∧ v ≤ max
    else ∃ text, intCall [.int min, .int max] place m =
      (.error (.fault (Fault.of (Binding.complain text) place)), m)) ∧
    intCall [.int max] place m = intCall [.int 0, .int max] place m ∧
    intCall [] place m = intCall [.int 0, .int 9007199254740991] place m ∧
    match boundOf options "min" 0, boundOf options "max" 9007199254740991 with
    | some low, some high => intCall [.map options] place m = intCall [.int low, .int high] place m
    | _, _ => ∃ text, intCall [.map options] place m =
      (.error (.fault (Fault.of (Binding.complain text) place)), m) := by
  refine ⟨intCall_bounds m place min max, ?_, ?_, intCall_options m place options⟩
  · rw [intCall_apply rfl, intCall_apply rfl]
    rfl
  · rw [intCall_apply rfl, intCall_apply rfl, greatestSafe_eq]
    rfl

/-- The bounds of options of which both, one or none are given. -/
example (a b : Int64) :
    boundOf [("max", .int b), ("min", .int a)] "min" 0 = some a ∧ boundOf [("max", .int b)] "min" 0 = some 0 ∧
      boundOf [("min", .int a)] "max" 9 = some 9 ∧ boundOf [] "min" 0 = some 0 ∧
      boundOf [("min", .float 1.0)] "min" 0 = none := ⟨rfl, rfl, rfl, rfl, rfl⟩

end Fixtures.Script
