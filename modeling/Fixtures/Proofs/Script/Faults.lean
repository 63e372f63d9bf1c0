import Fixtures.Script.Binding
import Fixtures.Script.Library

/-!
# Faults that a script may catch

Operators, the functions of the library and those of the fake values fail for reasons of their own: an integer
that does not fit, an argument that is refused. None of these ends the script, so a script may catch them all, and
a fault that says that the script has to end was not raised by any of them.

## Main results

* `Operation.ordinary_basic?`, `Operation.ordinary_signed?`: the operators.
* `Library.ordinary_call?`, `Binding.ordinary_call?`: the functions.
-/

namespace Fixtures.Script

/-- A value, or a cause that does not end the script. -/
def Ordinary {α : Type} : Except Cause α → Prop
  | .ok _ => True
  | .error cause => cause.isFinal = false

theorem Ordinary.map {α β : Type} {o : Except Cause α} (h : Ordinary o) (f : α → β) : Ordinary (o.map f) := by
  cases o with
  | ok a => trivial
  | error cause => exact h

/-! ## Operators -/

namespace Operation

theorem ordinary_checked (n : Int) (fault : String) : Ordinary (checked n fault) := by
  rw [checked]
  split <;> trivial

theorem ordinary_power (a b : Int) : Ordinary (power a b) := by
  rw [power]
  repeat' split
  all_goals first
    | trivial
    | exact ordinary_checked _ _

theorem ordinary_onInts (op : Operator) (a b : Int64) : Ordinary (onInts op a b) := by
  cases op <;> rw [onInts] <;> try trivial
  · exact ordinary_checked _ _
  · exact ordinary_checked _ _
  · exact ordinary_checked _ _
  · split
    · trivial
    · exact ordinary_checked _ _
  · split <;> trivial
  · exact ordinary_power _ _

theorem ordinary_basic? (op : Operator) (a b : Value) : ∀ o ∈ basic? op a b, Ordinary o := by
  have given {v? : Option Value} : ∀ o ∈ v?.map (Except.ok (ε := Cause)), Ordinary o := by
    intro o ho
    obtain ⟨v, -, rfl⟩ := Option.map_eq_some_iff.mp ho
    trivial
  intro o ho
  unfold basic? at ho
  split at ho
  · cases ho
    exact ordinary_onInts _ _ _
  all_goals try exact given o ho
  all_goals
    repeat' split at ho
    all_goals first
      | exact given o ho
      | cases ho
        done
      | cases ho
        trivial

theorem ordinary_signed? (sign : Sign) (v : Value) : ∀ o ∈ signed? sign v, Ordinary o := by
  intro o ho
  unfold signed? at ho
  split at ho <;> cases ho
  · exact ordinary_checked _ _
  all_goals trivial

end Operation

/-! ## Functions of the library -/

namespace Library

/-- A call, if there is one, that does not end the script. -/
def OrdinaryCall (call? : Option (Except Cause Reply)) : Prop := ∀ o ∈ call?, Ordinary o

@[simp] theorem ordinaryCall_none : OrdinaryCall none := nofun

@[simp] theorem ordinaryCall_gives (v : Value) : OrdinaryCall (gives v) := by
  rintro _ ⟨⟩
  trivial

@[simp] theorem ordinaryCall_changes (first v : Value) : OrdinaryCall (changes first v) := by
  rintro _ ⟨⟩
  trivial

@[simp] theorem ordinaryCall_some {o : Except Cause Reply} : OrdinaryCall (some o) ↔ Ordinary o :=
  ⟨fun h => h o rfl, fun h => by rintro _ ⟨⟩; exact h⟩

theorem OrdinaryCall.or {call? other? : Option (Except Cause Reply)} (h : OrdinaryCall call?)
    (hother : OrdinaryCall other?) : OrdinaryCall (call?.or other?) := by
  cases call? with
  | none => exact hother
  | some c => exact h

theorem ordinary_parseInt (s : String) (base : Nat) : Ordinary (parseInt s base) := by
  unfold parseInt
  dsimp only
  repeat' split
  all_goals trivial

theorem ordinary_toInt (x : Float) : Ordinary (toInt x) := by
  unfold toInt
  repeat' split
  all_goals trivial

theorem ordinary_onText? (function s : String) (args : List Value) : OrdinaryCall (onText? function s args) := by
  unfold onText?
  dsimp only
  split
  all_goals try simp only [ordinaryCall_gives, ordinaryCall_changes, ordinaryCall_none]
  · split <;> simp
  · exact ordinaryCall_some.mpr ((ordinary_parseInt _ _).map _)
  · split
    · exact ordinaryCall_some.mpr ((ordinary_parseInt _ _).map _)
    · exact ordinaryCall_some.mpr rfl

theorem ordinary_onArray? (function : String) (items args : List Value) :
    OrdinaryCall (onArray? function items args) := by
  unfold onArray?
  split
  all_goals try simp only [ordinaryCall_gives, ordinaryCall_changes, ordinaryCall_none]
  all_goals split <;> simp

theorem ordinary_onMap? (function : String) (members : List (String × Value)) (args : List Value) :
    OrdinaryCall (onMap? function members args) := by
  unfold onMap?
  split <;> simp

theorem ordinary_onInt? (function : String) (n : Int64) (args : List Value) :
    OrdinaryCall (onInt? function n args) := by
  unfold onInt?
  split
  · exact ordinaryCall_some.mpr ((Operation.ordinary_checked _ _).map _)
  all_goals simp

theorem ordinary_onFloat? (function : String) (x : Float) (args : List Value) :
    OrdinaryCall (onFloat? function x args) := by
  unfold onFloat?
  split
  all_goals try simp only [ordinaryCall_gives, ordinaryCall_none]
  exact ordinaryCall_some.mpr ((ordinary_toInt x).map _)

theorem ordinary_onChar? (function : String) (c : Char) (args : List Value) :
    OrdinaryCall (onChar? function c args) := by
  unfold onChar?
  split <;> simp

theorem ordinary_onRange? (function : String) (first last : Int64) (closed : Bool) (args : List Value) :
    OrdinaryCall (onRange? function first last closed args) := by
  unfold onRange?
  split <;> simp

theorem ordinary_onAny? (function : String) (v : Value) (args : List Value) :
    OrdinaryCall (onAny? function v args) := by
  unfold onAny?
  split <;> simp

/-- A function of the library does not end the script. -/
theorem ordinary_call? (function : String) (args : List Value) : OrdinaryCall (call? function args) := by
  unfold call?
  split
  · exact ordinaryCall_none
  refine OrdinaryCall.or ?_ (ordinary_onAny? _ _ _)
  split
  · exact ordinary_onText? _ _ _
  · exact ordinary_onArray? _ _ _
  · exact ordinary_onMap? _ _ _
  · exact ordinary_onInt? _ _ _
  · exact ordinary_onFloat? _ _ _
  · exact ordinary_onChar? _ _ _
  · exact ordinary_onRange? _ _ _ _ _
  · exact ordinaryCall_none

end Library

/-! ## Functions of the fake values -/

namespace Binding

open Fixtures.Random (Draw)

/-- A draw that does not end the script, whatever it draws. -/
def OrdinaryDraw (draw : Draw (Except Cause Value)) : Prop := ∀ g, Ordinary (draw g).1

theorem OrdinaryDraw.mem_some {d : Draw (Except Cause Value)} (h : OrdinaryDraw d) :
    ∀ draw ∈ some d, OrdinaryDraw draw := fun _ same => Option.mem_some.mp same ▸ h

theorem ordinary_drawn (draw : Draw String) : OrdinaryDraw (drawn draw) := fun _ => trivial

theorem ordinary_refused (text : String) : OrdinaryDraw (refused text) := fun _ => rfl

theorem ordinary_int (min max : Int) : OrdinaryDraw (int min max) := by
  unfold int
  split
  · exact ordinary_refused _
  · exact fun _ => trivial

theorem ordinary_float (min max : Float) : OrdinaryDraw (float min max) := by
  unfold float
  split
  · exact ordinary_refused _
  · split
    · exact ordinary_refused _
    · split
      · exact ordinary_refused _
      · exact fun _ => trivial

theorem ordinary_intOption (options : List (String × Value)) (key : String) (default : Int) :
    Ordinary (intOption options key default) := by
  unfold intOption
  split <;> trivial

theorem ordinary_floatOption (options : List (String × Value)) (key : String) (default : Float) :
    Ordinary (floatOption options key default) := by
  unfold floatOption
  split <;> trivial

theorem ordinary_withOptions {α : Type} {min max : Except Cause α} {draw : α → α → Draw (Except Cause Value)}
    (hmin : Ordinary min) (hmax : Ordinary max) (h : ∀ a b, OrdinaryDraw (draw a b)) :
    OrdinaryDraw (withOptions min max draw) := by
  unfold withOptions
  split
  · exact h _ _
  · exact fun _ => hmin
  · exact fun _ => hmax

theorem forall_mem_of_eq_none {good : Draw (Except Cause Value) → Prop}
    {draw? : Option (Draw (Except Cause Value))} (h : draw? = none) : ∀ draw ∈ draw?, good draw := by
  rw [h]
  nofun

theorem number?_eq_none {function : String} (hint : function ≠ "int") (hfloat : function ≠ "float")
    (args : List Value) : number? function args = none := by
  -- Only the names are asked here; a split would go on to the arguments.
  unfold number? number?.match_1
  rw [dif_neg hint, dif_neg hfloat]

/-- The name of the function is looked at first, and then the number and the kinds of its arguments. -/
theorem ordinary_number? (function : String) (args : List Value) :
    ∀ draw ∈ number? function args, OrdinaryDraw draw := by
  by_cases hint : function = "int"
  · subst hint
    rcases args with _ | ⟨v, _ | ⟨w, _ | ⟨_, _⟩⟩⟩ <;> try cases v <;> try cases w
    all_goals first
      | exact forall_mem_of_eq_none rfl
      | exact (ordinary_int _ _).mem_some
      | exact (ordinary_withOptions (ordinary_intOption _ _ _) (ordinary_intOption _ _ _) ordinary_int).mem_some
  by_cases hfloat : function = "float"
  · subst hfloat
    rcases args with _ | ⟨v, _ | ⟨w, _ | ⟨_, _⟩⟩⟩ <;> try cases v <;> try cases w
    all_goals first
      | exact forall_mem_of_eq_none rfl
      | exact OrdinaryDraw.mem_some fun _ => trivial
      | exact (ordinary_float _ _).mem_some
      | exact (ordinary_withOptions (ordinary_floatOption _ _ _) (ordinary_floatOption _ _ _) ordinary_float).mem_some
  exact forall_mem_of_eq_none (number?_eq_none hint hfloat args)

theorem ordinary_ofLength (length : Int) (what : String) (draw : Nat → Draw String) :
    OrdinaryDraw (ofLength length what draw) := by
  unfold ofLength
  split
  · exact ordinary_refused _
  · split
    · exact ordinary_refused _
    · exact ordinary_drawn _

theorem ordinary_string? (function : String) (args : List Value) :
    ∀ draw ∈ string? function args, OrdinaryDraw draw := by
  unfold string?
  split
  · exact (ordinary_drawn _).mem_some
  · exact (ordinary_ofLength _ _ _).mem_some
  · exact (ordinary_ofLength _ _ _).mem_some
  · exact (ordinary_ofLength _ _ _).mem_some
  · nofun

theorem lorem?_eq_none {function : String} (hword : function ≠ "word") (hwords : function ≠ "words")
    (hsentence : function ≠ "sentence") (hparagraph : function ≠ "paragraph") (args : List Value) :
    lorem? function args = none := by
  unfold lorem? lorem?.match_1
  rw [dif_neg hword, dif_neg hwords, dif_neg hsentence, dif_neg hparagraph]

theorem ordinary_lorem? (function : String) (args : List Value) :
    ∀ draw ∈ lorem? function args, OrdinaryDraw draw := by
  by_cases hword : function = "word"
  · subst hword
    cases args with
    | nil => exact (ordinary_drawn _).mem_some
    | cons => exact forall_mem_of_eq_none rfl
  by_cases hwords : function = "words"
  · subst hwords
    rcases args with _ | ⟨v, _ | ⟨_, _⟩⟩ <;> try cases v
    all_goals first
      | exact forall_mem_of_eq_none rfl
      | exact (ordinary_drawn _).mem_some
      | exact (ordinary_ofLength _ _ _).mem_some
  by_cases hsentence : function = "sentence"
  · subst hsentence
    cases args with
    | nil => exact (ordinary_drawn _).mem_some
    | cons => exact forall_mem_of_eq_none rfl
  by_cases hparagraph : function = "paragraph"
  · subst hparagraph
    cases args with
    | nil => exact (ordinary_drawn _).mem_some
    | cons => exact forall_mem_of_eq_none rfl
  exact forall_mem_of_eq_none (lorem?_eq_none hword hwords hsentence hparagraph args)

theorem ordinary_map_drawn {draw? : Option (Draw String)} : ∀ draw ∈ draw?.map drawn, OrdinaryDraw draw := by
  intro draw hdraw
  obtain ⟨text, -, rfl⟩ := Option.map_eq_some_iff.mp hdraw
  exact ordinary_drawn text

theorem ordinary_location? (function : String) : ∀ draw ∈ location? function, OrdinaryDraw draw := by
  unfold location?
  split
  · exact OrdinaryDraw.mem_some fun _ => trivial
  · exact OrdinaryDraw.mem_some fun _ => trivial
  · exact ordinary_map_drawn

theorem ordinary_helpers? (function : String) (args : List Value) :
    ∀ draw ∈ helpers? function args, OrdinaryDraw draw := by
  have element (items : List Value) : OrdinaryDraw (arrayElement items) := by
    unfold arrayElement
    split
    · exact ordinary_refused _
    · intro g
      dsimp only [bind, StateT.bind]
      rcases Random.index items.length g with ⟨n, g'⟩
      dsimp only
      cases items[n]? <;> trivial
  unfold helpers?
  split
  · exact (element _).mem_some
  · exact OrdinaryDraw.mem_some fun _ => trivial
  · nofun

/-- A function of the fake values does not end the script. -/
theorem ordinary_call? (now : Int) (topic : Topic) (function : String) (args : List Value) :
    ∀ draw ∈ call? now topic function args, OrdinaryDraw draw := by
  have plain {draw? : Option (Draw String)} :
      ∀ draw ∈ (if args.isEmpty then draw?.map drawn else none), OrdinaryDraw draw := by
    split
    · exact ordinary_map_drawn
    · nofun
  cases topic
  case number => exact ordinary_number? _ _
  case string => exact ordinary_string? _ _
  case lorem => exact ordinary_lorem? _ _
  case helpers => exact ordinary_helpers? _ _
  case location =>
    unfold call?
    dsimp only
    split
    · exact ordinary_location? _
    · nofun
  case datatype =>
    unfold call?
    dsimp only
    split
    · exact OrdinaryDraw.mem_some fun _ => trivial
    · nofun
  all_goals exact plain

end Binding

end Fixtures.Script
