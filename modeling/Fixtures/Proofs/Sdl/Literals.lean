import Fixtures.Generation.Directive
import Fixtures.Json.Value
import Fixtures.Proofs.Sdl.Writing
import Fixtures.Proofs.Text.Numerals

/-!
# Literals without strings

Integers of 64 bits, truth values and flat lists of them (`Constant`), in all the ways in which the schema
language writes them (`Constant.Written`): a zero may have a minus sign, and between the items of a list stand
blanks, commas, line breaks and comments.

## Main results

* `Constant.Written.scans`: a literal is scanned as its tokens, behind which a number must end.
* `takes_anyValue_constant`: the grammar takes these tokens as the literal.
* `parse_writeConstants`: types whose fields are generated from such literals are read as they were meant.
-/

namespace Fixtures

open Text (intDigits natDigits isDigit)

/-- A value without parts. -/
inductive Scalar where
  | int (n : Int64)
  | bool (b : Bool)
  deriving DecidableEq

/-- A value that a literal other than a string stands for. -/
inductive Constant where
  | scalar (x : Scalar)
  | list (xs : List Scalar)
  deriving DecidableEq

namespace Scalar

/-- The literal of the schema language. -/
def literal : Scalar → Sdl.Literal
  | int n => .int n.toInt
  | bool b => .name (toString b)

/-- The JSON value. -/
def json : Scalar → Json
  | int n => .int n.toInt
  | bool b => .bool b

/-- The token of the schema language. -/
def token : Scalar → Sdl.Token
  | int n => .int n.toInt
  | bool b => .name (toString b)

/-- How the schema language writes a value without parts. -/
inductive Written : Scalar → List Char → Prop
  | int (n : Int64) : Written (int n) (intDigits n.toInt)
  | negativeZero : Written (int 0) ['-', '0']
  | bool (b : Bool) : Written (bool b) (toString b).toList

end Scalar

namespace Constant

/-- The literal of the schema language. -/
def literal : Constant → Sdl.Literal
  | scalar x => x.literal
  | list xs => .list (xs.map Scalar.literal)

/-- The JSON value. -/
def json : Constant → Json
  | scalar x => x.json
  | list xs => .array (xs.map Scalar.json)

/-- The tokens of the schema language. -/
def tokens : Constant → List Sdl.Token
  | scalar x => [x.token]
  | list xs => .punctuator '[' :: xs.map Scalar.token ++ [.punctuator ']']

/-- What may stand between the items of a list. -/
inductive Gap : List Char → Prop
  | nil : Gap []
  | blank {c : Char} {rest : List Char} (h : c ∈ [' ', ',', '\t', '\n', '\r']) (others : Gap rest) :
    Gap (c :: rest)
  | comment {text rest : List Char} {c : Char} (h : ∀ d ∈ text, d ≠ '\n' ∧ d ≠ '\r')
    (line : c = '\n' ∨ c = '\r') (others : Gap rest) : Gap ('#' :: (text ++ c :: rest))

/-- Items behind another one, each with something before it. -/
inductive Further : List Scalar → List Char → Prop
  | nil {gap : List Char} (between : Gap gap) : Further [] gap
  | cons {gap text rest : List Char} {x : Scalar} {xs : List Scalar} (between : Gap gap) (apart : gap ≠ [])
    (item : x.Written text) (others : Further xs rest) : Further (x :: xs) (gap ++ (text ++ rest))

/-- How the schema language writes a literal. -/
inductive Written : Constant → List Char → Prop
  | scalar {x : Scalar} {text : List Char} (h : x.Written text) : Written (scalar x) text
  | empty {gap : List Char} (h : Gap gap) : Written (list []) ('[' :: (gap ++ [']']))
  | list {gap text rest : List Char} {x : Scalar} {xs : List Scalar} (between : Gap gap) (item : x.Written text)
    (others : Further xs rest) : Written (list (x :: xs)) ('[' :: (gap ++ (text ++ (rest ++ [']']))))

end Constant

namespace Sdl

/-! ## Numbers -/

/-- An integer is written in digits and a minus sign. -/
theorem mem_intDigits {n : Int} {c : Char} (h : c ∈ intDigits n) : c = '-' ∨ isDigit c = true := by
  match n with
  | .ofNat n => exact .inr (Text.isDigit_of_mem_natDigits h)
  | .negSucc n => exact (List.mem_cons.1 h).imp_right Text.isDigit_of_mem_natDigits

/-- A character other than digits and the minus sign is in no integer. -/
theorem not_mem_intDigits {c : Char} (h : isDigit c = false) (sign : c ≠ '-') (n : Int) : c ∉ intDigits n :=
  fun mem => (mem_intDigits mem).elim sign fun digit => by simp [h] at digit

/-- Digits that do not begin with a zero are an integer, also behind a minus sign. -/
theorem isInteger_cons {c : Char} {digits : List Char} (first : isDigit c = true) (nonzero : c ≠ '0')
    (others : ∀ d ∈ digits, isDigit d = true) :
    isInteger (c :: digits) = true ∧ isInteger ('-' :: c :: digits) = true := by
  have sign : c ≠ '-' := Text.digit_ne first (by decide)
  have all : (c :: digits).all isDigit = true := List.all_eq_true.2 (by simpa [first] using others)
  unfold isInteger
  constructor <;> split <;> grind

theorem isInteger_intDigits (n : Int) : isInteger (intDigits n) = true := by
  have positive (n : Nat) :
      isInteger (natDigits (n + 1)) = true ∧ isInteger ('-' :: natDigits (n + 1)) = true := by
    have digital (c : Char) (hc : c ∈ natDigits (n + 1)) := Text.isDigit_of_mem_natDigits hc
    have head := Text.head_natDigits_ne (Nat.succ_pos n)
    match spelled : natDigits (n + 1), Text.natDigits_ne_nil (n + 1) with
    | c :: digits, _ =>
      rw [spelled] at digital
      refine isInteger_cons (digital c List.mem_cons_self) ?_ fun d hd => digital d (List.mem_cons_of_mem _ hd)
      rintro rfl
      exact head (by rw [Nat.succ_eq_add_one, spelled]; rfl)
  match n with
  | .ofNat 0 => rfl
  | .ofNat (n + 1) => exact (positive n).1
  | .negSucc n => exact (positive n).2

/-- Digits are read at their value. -/
theorem foldl_digitValue (digits : List Char) (n : Nat) :
    digits.foldl (fun n c => n * 10 + Text.digitValue c) n = Nat.ofDigitChars 10 digits n := by
  induction digits generalizing n with
  | nil => rfl
  | cons c rest ih => rw [List.foldl_cons, ih, Text.ofDigitChars_cons]

theorem integerValue_intDigits (n : Int) : integerValue (intDigits n) = n := by
  have value (n : Nat) : (natDigits n).foldl (fun n c => n * 10 + Text.digitValue c) 0 = n := by
    rw [foldl_digitValue]
    exact Nat.ofDigitChars_ten_toDigits
  match n with
  | .ofNat n =>
    rw [intDigits, integerValue]
    · exact congrArg Int.ofNat (value n)
    · intro digits same
      have digit := Text.isDigit_of_mem_natDigits (n := n) (same ▸ List.mem_cons_self)
      exact absurd digit (by decide)
  | .negSucc n =>
    rw [intDigits, integerValue]
    exact congrArg (fun n : Nat => -(n : Int)) (value (n + 1))

theorem isInt64_toInt (n : Int64) : Text.isInt64 n.toInt = true := by
  rw [Text.isInt64, Bool.and_eq_true]
  exact ⟨decide_eq_true n.minValue_le_toInt, decide_eq_true n.toInt_le⟩

/-- The numeral of an integer of 64 bits is the token of the integer. -/
theorem numberToken_intDigits (n : Int64) : numberToken (intDigits n.toInt) = .int n.toInt := by
  have point : Text.cutLast '.' (intDigits n.toInt) = none :=
    Text.cutLast_eq_none.2 (not_mem_intDigits (by decide) (by decide) _)
  have mark : 'e' ∉ (intDigits n.toInt).map fun c => if c = 'E' then 'e' else c := by
    intro mem
    obtain ⟨c, hc, same⟩ := List.mem_map.1 mem
    have lower := not_mem_intDigits (c := 'e') (by decide) (by decide) n.toInt
    have upper := not_mem_intDigits (c := 'E') (by decide) (by decide) n.toInt
    split at same
    · next capital => exact upper (capital ▸ hc)
    · exact lower (same ▸ hc)
  rw [numberToken, cutExponent, Text.cutLast_eq_none.2 mark, simpleNumber, point]
  simp [isInteger_intDigits, integerValue_intDigits, isInt64_toInt]

/-! ## The text is scanned as the tokens -/

/-- A text at which a number before it ends. -/
def EndsNumber (text : List Char) : Prop := ∃ c rest, text = c :: rest ∧ endsNumber c = true

theorem of_endsNumber {c : Char} (h : endsNumber c = true) :
    isDigit c = false ∧ c ≠ '-' ∧ isNameRest c = false ∧ c ≠ '"' := by
  have each : (" \n\r\t,#!$:=@|&()[]\x7b\x7d".toList.all fun d =>
      isDigit d = false ∧ d ≠ '-' ∧ isNameRest d = false ∧ d ≠ '"') = true := by decide
  simpa using List.all_eq_true.1 each c (List.contains_iff_mem.1 h)

theorem EndsNumber.delimited {text : List Char} (h : EndsNumber text) : Delimited text := by
  obtain ⟨c, rest, rfl, ends⟩ := h
  intro d hd
  cases hd
  exact (of_endsNumber ends).2.2

section Scanning

variable {budget budget' : Nat} {more : List Char} {others : List Token}

theorem scans_number {c : Char} {digits : List Char} {n : Int} (starts : c = '-' ∨ isDigit c = true)
    (solid : ∀ d ∈ digits, endsNumber d = false) (value : numberToken (c :: digits) = .int n)
    (ends : EndsNumber more) (scans : Scans budget more others budget') :
    Scans budget (c :: digits ++ more) (.int n :: others) budget' := by
  obtain ⟨d, rest, rfl, stops⟩ := ends
  have visible : c ∉ blanks := fun blank => by
    have invisible : (blanks.all fun d => d ≠ '-' ∧ isDigit d = false) = true := by decide
    obtain ⟨sign, digit⟩ : c ≠ '-' ∧ isDigit c = false := by simpa using List.all_eq_true.1 invisible c blank
    exact starts.elim sign fun h => by simp [digit] at h
  have whole : (digits ++ d :: rest).takeWhile (!endsNumber ·) = digits ∧
      (digits ++ d :: rest).dropWhile (!endsNumber ·) = d :: rest := by
    rw [List.takeWhile_append_of_pos (by simpa using solid), List.dropWhile_append_of_pos (by simpa using solid)]
    simp [stops]
  have first := Lexeme.number (digits ++ d :: rest) starts
  rw [whole.1, whole.2, value] at first
  exact .token (unblank_of_not_mem visible _) (spend_of_isPunctuator (isPunctuator_of_number starts) _)
    (first (by simp)) (by simp) scans

theorem scans_scalar {x : Scalar} {text : List Char} (h : x.Written text) (ends : EndsNumber more)
    (scans : Scans budget more others budget') : Scans budget (text ++ more) (x.token :: others) budget' := by
  cases h with
  | int n =>
    match spelled : intDigits n.toInt, isInteger_intDigits n.toInt with
    | c :: digits, _ =>
      have solid (d : Char) (hd : d ∈ c :: digits) : endsNumber d = false := by
        refine Bool.eq_false_iff.2 fun ends => ?_
        obtain ⟨digit, sign, -⟩ := of_endsNumber ends
        exact not_mem_intDigits digit sign n.toInt (spelled ▸ hd)
      exact scans_number (mem_intDigits (spelled ▸ List.mem_cons_self))
        (fun d hd => solid d (List.mem_cons_of_mem _ hd)) (spelled ▸ numberToken_intDigits n) ends scans
  | negativeZero => exact scans_number (.inl rfl) (List.forall_mem_singleton.2 rfl) (by decide) ends scans
  | bool b =>
    have named : IsName (toString b) := by cases b <;> decide
    exact spells_name named _ _ _ ends.delimited scans

/-- What stands between items is skipped. -/
theorem unblank_gap {gap : List Char} (h : Constant.Gap gap) (more : List Char) :
    unblank false (gap ++ more) = unblank false more := by
  induction h with
  | nil => rfl
  | blank h _ ih =>
    rw [List.cons_append, unblank_cons, ih]
    simp only [List.mem_cons, List.not_mem_nil, or_false] at h
    grind
  | @comment text rest c h line _ ih =>
    have inside (text : List Char) (h : ∀ d ∈ text, d ≠ '\n' ∧ d ≠ '\r') :
        unblank true (text ++ c :: (rest ++ more)) = unblank false (rest ++ more) := by
      induction text with
      | nil =>
        rw [List.nil_append, unblank_cons]
        rcases line with rfl | rfl <;> rfl
      | cons d text ih =>
        rw [List.cons_append, unblank_cons, ← ih fun e he => h e (List.mem_cons_of_mem _ he)]
        simp [h d List.mem_cons_self]
    rw [List.cons_append, List.append_assoc, List.cons_append, unblank_cons, ← ih, ← inside text h]
    simp

theorem scans_gap {gap : List Char} (h : Constant.Gap gap) (scans : Scans budget more others budget') :
    Scans budget (gap ++ more) others budget' := by
  cases scans with
  | done blank => exact .done ((unblank_gap h _).trans blank)
  | token starts spent first good others => exact .token ((unblank_gap h _).trans starts) spent first good others

theorem endsNumber_gap {gap : List Char} (h : Constant.Gap gap) (apart : gap ≠ []) (more : List Char) :
    EndsNumber (gap ++ more) := by
  cases h with
  | nil => exact absurd rfl apart
  | blank h _ =>
    have each : ([' ', ',', '\t', '\n', '\r'].all endsNumber) = true := by decide
    exact ⟨_, _, rfl, List.all_eq_true.1 each _ h⟩
  | comment _ _ _ => exact ⟨_, _, rfl, rfl⟩

theorem endsNumber_further {xs : List Scalar} {text : List Char} (h : Constant.Further xs text)
    (ends : EndsNumber more) : EndsNumber (text ++ more) := by
  cases h with
  | nil between =>
    by_cases apart : text = []
    · rwa [apart]
    · exact endsNumber_gap between apart more
  | cons between apart _ _ =>
    rw [List.append_assoc]
    exact endsNumber_gap between apart _

theorem scans_further {xs : List Scalar} {text : List Char} (h : Constant.Further xs text)
    (ends : EndsNumber more) (scans : Scans budget more others budget') :
    Scans budget (text ++ more) (xs.map Scalar.token ++ others) budget' := by
  induction h with
  | nil between => exact scans_gap between scans
  | cons between _ item further ih =>
    rw [List.append_assoc, List.append_assoc]
    exact scans_gap between (scans_scalar item (endsNumber_further further ends) ih)

/-- A literal is scanned as its tokens. -/
theorem scans_constant {c : Constant} {text : List Char} (h : c.Written text) (ends : EndsNumber more)
    (scans : Scans (budget + 1) more others budget') :
    Scans (budget + 1) (text ++ more) (c.tokens ++ others) budget' := by
  have closed : Scans budget (']' :: more) (.punctuator ']' :: others) budget' := scans.punctuator (by decide) rfl
  cases h with
  | scalar h => exact scans_scalar h ends scans
  | empty between =>
    rw [List.cons_append, List.append_assoc]
    exact (scans_gap between closed).punctuator (by decide) rfl
  | list between item further =>
    have items := scans_further further ⟨_, _, rfl, rfl⟩ closed
    have listed := scans_scalar item (endsNumber_further further ⟨_, _, rfl, rfl⟩) items
    have opened : Scans (budget + 1) _ _ budget' := (scans_gap between listed).punctuator (c := '[') (by decide) rfl
    simpa [Constant.tokens] using opened

end Scanning

/-! ## Fields that are generated from literals -/

/-- A field that is generated from a literal: its name, the name of its type, the value and how it is written. -/
structure ConstantField where
  name : String
  typeName : String
  value : Constant
  text : List Char
  named : IsName name
  typed : IsName typeName
  written : value.Written text

/-- A type with such fields. -/
structure ConstantType where
  name : String
  fields : List ConstantField
  named : IsName name

namespace ConstantField

/-- The field that is meant. -/
def field (f : ConstantField) : Field :=
  ⟨f.name, [⟨Generation.directiveName, [⟨Generation.argumentName, f.value.literal.text⟩]⟩]⟩

/-- The field as text. -/
def write (f : ConstantField) : List Char :=
  f.name.toList ++ ':' :: ' ' :: (f.typeName.toList ++
    ' ' :: '@' :: (Generation.directiveName.toList ++
      '(' :: (Generation.argumentName.toList ++ ':' :: ' ' :: (f.text ++ [')']))))

/-- The tokens of the field. -/
def words (f : ConstantField) : List Token :=
  [.name f.name, .punctuator ':', .name f.typeName] ++
    ([.punctuator '@', .name Generation.directiveName, .punctuator '('] ++
      ([.name Generation.argumentName, .punctuator ':'] ++ f.value.tokens) ++ [.punctuator ')'])

end ConstantField

namespace ConstantType

/-- The type that is meant. -/
def objectType (type : ConstantType) : ObjectType := ⟨type.name, type.fields.map ConstantField.field⟩

/-- The type as text, without braces if it has no fields. -/
def write (type : ConstantType) : List Char :=
  "type".toList ++ ' ' :: (type.name.toList ++
    match type.fields with
    | [] => []
    | fields => ' ' :: '\x7b' :: (fields.flatMap (fun f => ' ' :: f.write) ++ [' ', '\x7d']))

/-- The tokens of the fields. -/
def body (type : ConstantType) : List Token :=
  match type.fields with
  | [] => []
  | fields => .punctuator '\x7b' :: fields.flatMap ConstantField.words ++ [.punctuator '\x7d']

/-- The tokens of the type. -/
def words (type : ConstantType) : List Token := .name "type" :: .name type.name :: type.body

end ConstantType

/-- Types as text, with a line for each of them. -/
def writeConstants (types : List ConstantType) : String :=
  String.ofList (types.flatMap fun type => type.write ++ ['\n'])

section Spelled

variable (budget : Nat)

theorem spells_constantField (f : ConstantField) : Spells (budget + 2) f.write f.words (budget + 2) := by
  have value : Spells (budget + 1) (f.text ++ [')']) (f.value.tokens ++ [.punctuator ')']) (budget + 2) := by
    intro more others last _ scans
    rw [List.append_assoc, List.append_assoc]
    exact scans_constant f.written ⟨')', more, rfl, rfl⟩ (scans.punctuator (by decide) rfl)
  have argument := spells_member (by decide : IsName Generation.argumentName) value
  have opened : Spells (budget + 2) _ _ (budget + 2) := argument.punctuator (c := '(') (by decide) rfl
  have applied := (spells_name (by decide : IsName Generation.directiveName)).append opened
    (delimits_cons (by decide) (by decide) _)
  have marked : Spells (budget + 2) _ _ (budget + 2) := applied.punctuator (c := '@') (by decide) rfl
  have typed := (spells_name f.typed).append marked.spaced (delimits_blank _)
  simpa [ConstantField.write, ConstantField.words] using spells_member f.named typed

theorem spells_constantType (type : ConstantType) :
    Spells (budget + 3) type.write type.words (budget + 3) := by
  have keyword : Spells (budget + 3) "type".toList [.name "type"] (budget + 3) := spells_name (by decide)
  obtain ⟨key, fields, named⟩ := type
  cases fields with
  | nil =>
    have bare := keyword.append (spells_name named).spaced (delimits_blank _)
    rw [← List.append_nil key.toList] at bare
    exact bare
  | cons f rest =>
    have last : Spells (budget + 2) [' ', '\x7d'] [.punctuator '\x7d'] (budget + 3) :=
      (spells_nil.punctuator (by decide) rfl).spaced
    have spelled (g : ConstantField) : Spells (budget + 2) (' ' :: g.write) g.words (budget + 2) :=
      (spells_constantField budget g).spaced
    obtain ⟨fields, -⟩ := spells_flatMap (fun g (_ : g ∈ f :: rest) => spelled g) fun _ _ => delimits_blank _
    have body : Spells (budget + 3) _ _ (budget + 3) :=
      ((fields.append last (delimits_blank _)).punctuator (c := '\x7b') (by decide) rfl).spaced
    exact keyword.append ((spells_name named).append body (delimits_blank _)).spaced (delimits_blank _)

theorem words_writeConstants (types : List ConstantType) :
    words (scan (writeConstants types)).1 = types.flatMap ConstantType.words := by
  have spells : Spells (47 + 3) (types.flatMap fun type => type.write ++ ['\n'])
      (types.flatMap ConstantType.words) (47 + 3) := by
    induction types with
    | nil => exact spells_nil
    | cons type rest ih =>
      have line := ih.blank (c := '\n') (.inr (.inr rfl))
      simpa using (spells_constantType 47 type).append line (delimits_cons (by decide) (by decide) _)
  refine words_scan_of_spells ?_
  rwa [writeConstants, String.toList_ofList]

end Spelled

/-! ## The grammar takes the tokens -/

theorem takes_value_scalar (allowed : Bool) (levels : Nat) (x : Scalar) :
    Takes (value allowed (levels + 1)) [x.token] x.literal Anything := by
  cases x <;> exact .peek ((takes_skip _).then .pure)

theorem takes_anyValue_constant (allowed : Bool) (c : Constant) :
    Takes (anyValue allowed) c.tokens c.literal Anything := by
  refine .of_length fun tokens long => ?_
  cases c with
  | scalar x => exact takes_value_scalar allowed _ x
  | list xs =>
    have some : 1 ≤ tokens.length := Nat.le_trans (by simp [Constant.tokens]) long
    obtain ⟨levels, enough⟩ := Nat.exists_eq_add_of_le' some
    have listed : Takes (many startsValue (value allowed (levels + 1))) (xs.flatMap fun x => [x.token])
        (xs.map Scalar.literal) fun more => Stops startsValue more ∧ Anything more :=
      takes_many_map (fun x _ => takes_value_scalar allowed levels x)
        fun x _ => ⟨_, _, rfl, by cases x <;> rfl, fun _ => trivial⟩
    have closed : Takes (do punct ']'; pure (.list (xs.map Scalar.literal)) : Rule Literal)
        ([Token.punctuator ']'] ++ []) (.list (xs.map Scalar.literal)) Anything := (takes_punct ']').then .pure
    rw [← List.map_eq_flatMap] at listed
    rw [enough]
    exact .peek ((takes_skip _).then (listed.bind closed fun more _ => ⟨stops_cons.2 rfl, trivial⟩))

theorem takes_constantField (f : ConstantField) : Takes field f.words f.field EndsField := by
  have argued : Takes argument
      ([Token.name Generation.argumentName] ++ ([Token.punctuator ':'] ++ (f.value.tokens ++ [])))
      ⟨Generation.argumentName, f.value.literal.text⟩ Anything :=
    (takes_name _).then ((takes_punct ':').then ((takes_anyValue_constant true f.value).then .pure))
  rw [List.append_nil] at argued
  -- Both lists have one item.
  have arguments : Takes (many1 isName argument) ([()].flatMap fun _ => _) ([()].map fun _ => _) _ :=
    takes_many1_map (fun _ _ => argued) fun _ none => absurd none List.not_mem_nil
  have applied := takes_applied Generation.directiveName arguments
  have listed : Takes directives ([()].flatMap fun _ => _) ([()].map fun _ => _) _ :=
    takes_many_map (fun _ _ => applied) fun _ _ => ⟨_, _, rfl, rfl, fun _ => trivial⟩
  have last := takes_member f.name f.typeName (listed.mono fun more stops => ⟨stops.1, trivial⟩) (.inr ⟨_, rfl⟩)
  simpa [ConstantField.words, ConstantField.field] using last

theorem takes_constantType (type : ConstantType) :
    Takes definition type.words (.object type.objectType) EndsType := by
  obtain ⟨key, fields, named⟩ := type
  cases fields with
  | nil => exact takes_object key ((takes_braced_nil _ _).mono fun more ends => ends.stops rfl) (.inl rfl)
  | cons f rest =>
    have listed : Takes (many1 startsMember field) ((f :: rest).flatMap ConstantField.words)
        ((f :: rest).map ConstantField.field) _ :=
      takes_many1_map (fun f _ => takes_constantField f)
        fun f _ => ⟨_, _, rfl, rfl, fun more => endsField_name f.name more⟩
    exact takes_object key ((takes_members listed).mono fun _ _ => trivial) (.inr ⟨_, rfl⟩)

/-- Types whose fields are generated from literals are read as they were meant, however the literals are written. -/
theorem parse_writeConstants {types : List ConstantType} (some : types ≠ []) :
    parse (writeConstants types) = .ok ⟨types.map ConstantType.objectType⟩ := by
  have taken : Takes document (types.flatMap ConstantType.words)
      (types.map fun type => .object type.objectType) (· = []) :=
    takes_document_map some (fun type _ => takes_constantType type) fun type _ => ⟨_, rfl⟩
  obtain ⟨rest, ran, left⟩ := taken (scan (writeConstants types)).1 []
    ((words_writeConstants types).trans (List.append_nil _).symm) rfl
  obtain ⟨-, any, reads⟩ := document_iff.1 ran
  refine parse_ok_iff.2 ⟨_, any, reads, ?_⟩
  rw [List.filterMap_map]
  exact (congrFun List.filterMap_eq_map types).symm

end Sdl

end Fixtures
