import Fixtures.Proofs.Sdl.Reading
import Fixtures.Proofs.Sdl.Spelling

/-!
# Writing schemas

`writeSchema` writes a schema as a text of the schema language, with one definition for each type. What types the
fields have a schema does not tell, so the writer is given them. A schema with at least one type whose names are
spelled as names is read from this text again as it was: `parse_writeSchema`.

## Shape of the proof

For each part of a schema there are its text and its tokens. That the text spells the tokens is about the scanner
(`Spells`), and that a rule takes the tokens and yields the part is about the grammar (`Takes`).
-/

namespace Fixtures.Sdl

/-! ## The text of a schema -/

/-- An argument of a directive as text. -/
def writeArgument (a : Argument) : List Char := a.name.toList ++ ':' :: ' ' :: spellString a.value

/-- A directive as text, without parentheses if it has no arguments. -/
def writeDirective (d : Directive) : List Char :=
  match d.arguments with
  | [] => '@' :: d.name.toList
  | arguments => '@' :: d.name.toList ++ '(' :: Text.join [',', ' '] (arguments.map writeArgument) ++ [')']

section

variable (typeOf : Field → String)

/-- A field as text, with its type. -/
def writeField (f : Field) : List Char :=
  f.name.toList ++ ':' :: ' ' :: (typeOf f).toList ++ f.directives.flatMap fun d => ' ' :: writeDirective d

/-- A type as text, without braces if it has no fields. -/
def writeType (type : ObjectType) : List Char :=
  match type.fields with
  | [] => "type".toList ++ ' ' :: type.name.toList
  | fields =>
    "type".toList ++ ' ' :: type.name.toList ++
      ' ' :: '\x7b' :: (fields.flatMap fun f => ' ' :: writeField typeOf f) ++ [' ', '\x7d']

/-- A schema as text, with a line for each type. -/
def writeSchema (schema : Schema) : String :=
  String.ofList (schema.types.flatMap fun type => writeType typeOf type ++ ['\n'])

end

/-! ## The tokens of a schema -/

/-- The tokens of an argument. -/
def argumentWords (a : Argument) : List Token := [.name a.name, .punctuator ':', .string a.value]

/-- The tokens of a directive. -/
def directiveWords (d : Directive) : List Token :=
  match d.arguments with
  | [] => [.punctuator '@', .name d.name]
  | arguments =>
    [.punctuator '@', .name d.name, .punctuator '('] ++ arguments.flatMap argumentWords ++ [.punctuator ')']

section

variable (typeOf : Field → String)

/-- The tokens of a field. -/
def fieldWords (f : Field) : List Token :=
  [.name f.name, .punctuator ':', .name (typeOf f)] ++ f.directives.flatMap directiveWords

/-- The tokens of what comes behind the name of a type. -/
def bodyWords (fields : List Field) : List Token :=
  match fields with
  | [] => []
  | fields => .punctuator '\x7b' :: fields.flatMap (fieldWords typeOf) ++ [.punctuator '\x7d']

/-- The tokens of a type. -/
def typeWords (type : ObjectType) : List Token := .name "type" :: .name type.name :: bodyWords typeOf type.fields

end

/-! ## The text spells the tokens -/

section Spelled

variable (budget : Nat)

theorem delimits_blank (text : List Char) : Delimits (' ' :: text) := delimits_cons (by decide) (by decide) text

variable {budget} in
/-- A blank before a text. -/
theorem Spells.spaced {budget' : Nat} {text : List Char} {tokens : List Token}
    (h : Spells budget text tokens budget') : Spells budget (' ' :: text) tokens budget' := h.blank (.inl rfl)

variable {budget} in
/-- A name with a colon and what follows it. -/
theorem spells_member {budget' : Nat} {s : String} (named : IsName s) {text : List Char} {tokens : List Token}
    (h : Spells budget text tokens budget') :
    Spells budget (s.toList ++ ':' :: ' ' :: text) (.name s :: .punctuator ':' :: tokens) budget' := by
  exact (spells_name named).append (h.spaced.punctuator (by decide) rfl) (delimits_cons (by decide) (by decide) _)

theorem spells_argument {a : Argument} (named : IsName a.name) :
    Spells budget (writeArgument a) (argumentWords a) budget := spells_member named (spells_string budget a.value)

theorem spells_arguments {arguments : List Argument} (named : ∀ a ∈ arguments, IsName a.name) :
    Spells budget (Text.join [',', ' '] (arguments.map writeArgument)) (arguments.flatMap argumentWords)
      budget := by
  induction arguments with
  | nil => exact spells_nil
  | cons a rest ih =>
    have others := ih fun b hb => named b (List.mem_cons_of_mem _ hb)
    have first := spells_argument budget (named a List.mem_cons_self)
    cases rest with
    | nil => simpa [Text.join] using first
    | cons b rest =>
      have text : Text.join [',', ' '] ((a :: b :: rest).map writeArgument) =
          writeArgument a ++ ',' :: ' ' :: Text.join [',', ' '] ((b :: rest).map writeArgument) := by
        simp [Text.join]
      rw [text, List.flatMap_cons]
      exact first.append (others.spaced.blank (.inr (.inl rfl))) (delimits_cons (by decide) (by decide) _)

theorem spells_directive {d : Directive} (named : NamedDirective d) :
    Spells (budget + 1) (writeDirective d) (directiveWords d) (budget + 1) := by
  unfold writeDirective directiveWords
  split
  · exact (spells_name named.1).punctuator (by decide) rfl
  · have last : Spells budget [')'] [.punctuator ')'] (budget + 1) := spells_nil.punctuator (by decide) rfl
    have arguments := (spells_arguments budget named.2).append last (delimits_cons (by decide) (by decide) _)
    have open' : Spells (budget + 1) _ _ (budget + 1) := arguments.punctuator (c := '(') (by decide) rfl
    have marked := (spells_name named.1).append open' (delimits_cons (by decide) (by decide) _)
    simpa using marked.punctuator (c := '@') (by decide) rfl

/-- Directives behind a field. -/
theorem spells_directives {ds : List Directive} (named : ∀ d ∈ ds, NamedDirective d) :
    Spells (budget + 1) (ds.flatMap fun d => ' ' :: writeDirective d) (ds.flatMap directiveWords) (budget + 1) ∧
      Delimits (ds.flatMap fun d => ' ' :: writeDirective d) :=
  spells_flatMap (fun d hd => (spells_directive budget (named d hd)).spaced) fun _ _ => delimits_blank _

variable {typeOf : Field → String}

theorem spells_field {f : Field} (named : NamedField f) (typed : IsName (typeOf f)) :
    Spells (budget + 1) (writeField typeOf f) (fieldWords typeOf f) (budget + 1) := by
  obtain ⟨directives, delimits⟩ := spells_directives budget named.2
  exact (spells_member named.1 (spells_name typed)).append directives delimits

theorem spells_type {type : ObjectType} (named : NamedType type) (typed : ∀ f ∈ type.fields, IsName (typeOf f)) :
    Spells (budget + 2) (writeType typeOf type) (typeWords typeOf type) (budget + 2) := by
  have head : Spells (budget + 2) ("type".toList ++ ' ' :: type.name.toList) [.name "type", .name type.name]
      (budget + 2) :=
    (spells_name (by decide : IsName "type")).append (spells_name named.1).spaced (delimits_blank _)
  unfold writeType typeWords bodyWords
  split
  · exact head
  · have last : Spells (budget + 1) [' ', '\x7d'] [.punctuator '\x7d'] (budget + 2) :=
      (spells_nil.punctuator (by decide) rfl).spaced
    obtain ⟨fields, -⟩ := spells_flatMap (fun f hf => (spells_field budget (named.2 f hf) (typed f hf)).spaced)
      fun _ _ => delimits_blank _
    have body : Spells (budget + 2) _ _ (budget + 2) :=
      ((fields.append last (delimits_blank _)).punctuator (c := '\x7b') (by decide) rfl).spaced
    simpa using head.append body (delimits_blank _)

theorem spells_types {types : List ObjectType} (named : ∀ type ∈ types, NamedType type)
    (typed : ∀ type ∈ types, ∀ f ∈ type.fields, IsName (typeOf f)) :
    Spells (budget + 2) (types.flatMap fun type => writeType typeOf type ++ ['\n'])
      (types.flatMap (typeWords typeOf)) (budget + 2) := by
  induction types with
  | nil => exact spells_nil
  | cons type rest ih =>
    have others := ih (fun t ht => named t (List.mem_cons_of_mem _ ht))
      fun t ht => typed t (List.mem_cons_of_mem _ ht)
    have first := spells_type budget (named type List.mem_cons_self) (typed type List.mem_cons_self)
    have line := others.blank (c := '\n') (.inr (.inr rfl))
    simpa using first.append line (delimits_cons (by decide) (by decide) _)

theorem words_writeSchema {schema : Schema} (named : ∀ type ∈ schema.types, NamedType type)
    (typed : ∀ type ∈ schema.types, ∀ f ∈ type.fields, IsName (typeOf f)) :
    words (scan (writeSchema typeOf schema)).1 = schema.types.flatMap (typeWords typeOf) := by
  have spells := spells_types 48 named typed
  refine words_scan_of_spells ?_
  rw [writeSchema, String.toList_ofList]
  exact spells

end Spelled

/-! ## The grammar takes the tokens -/

theorem takes_anyValue_string (allowed : Bool) (s : String) :
    Takes (anyValue allowed) [.string s] (.string s) Anything :=
  .of_length fun _ _ => .peek ((takes_skip _).then .pure)

theorem takes_argument (a : Argument) : Takes argument (argumentWords a) a Anything :=
  (takes_name _).then ((takes_punct ':').then ((takes_anyValue_string true a.value).then .pure))

/-- A directive whose arguments, at least one, are spelled by the given tokens. -/
theorem takes_applied (key : String) {taken : List Token} {arguments : List Argument}
    (listed : Takes (many1 isName argument) taken arguments fun more => Stops isName more ∧ Anything more) :
    Takes directive ([.punctuator '@', .name key, .punctuator '('] ++ taken ++ [.punctuator ')']) ⟨key, arguments⟩
      Anything := by
  have closed : Takes (do punct ')'; pure (⟨key, arguments⟩ : Directive)) ([Token.punctuator ')'] ++ [])
      ⟨key, arguments⟩ Anything := (takes_punct ')').then .pure
  show Takes _ ([Token.punctuator '@'] ++ ([Token.name key] ++ ([Token.punctuator '('] ++
    (taken ++ [Token.punctuator ')'])))) _ _
  refine (takes_punct '@').then ((takes_name key).then ((takes_takes _).then ?_))
  exact listed.bind closed fun more _ => ⟨stops_cons.2 rfl, trivial⟩

theorem takes_directive (d : Directive) : Takes directive (directiveWords d) d (Stops (isPunct '(')) := by
  obtain ⟨key, arguments⟩ := d
  cases arguments with
  | nil =>
    refine (takes_punct '@').then ((takes_name key).then ?_)
    exact (takes_not _).bind .pure fun more stops => stops
  | cons a rest =>
    refine (takes_applied key (takes_many1 (fun b _ => takes_argument b) fun b _ => ?_)).mono fun _ _ => trivial
    exact ⟨_, _, rfl, rfl, fun _ => trivial⟩

/-- A directive is followed by the next one, or by what goes on neither it nor the directives. -/
theorem takes_directives (ds : List Directive) :
    Takes directives (ds.flatMap directiveWords) ds
      fun more => Stops (isPunct '@') more ∧ Stops (isPunct '(') more := by
  refine takes_many (fun d _ => takes_directive d) fun d _ => ?_
  unfold directiveWords
  split <;> exact ⟨_, _, rfl, rfl, fun more => stops_cons.2 rfl⟩

theorem takes_anyType (s : String) : Takes anyType [.name s] () (Stops (isPunct '!')) := by
  refine .of_length fun tokens _ => .peek ?_
  have optional : Takes (do let _ ← takesPunct '!' : Rule Unit) ([] ++ []) () (Stops (isPunct '!')) :=
    (takes_not (.punctuator '!')).bind .pure fun more stops => stops
  exact (takes_skip _).then optional

/-- Nothing goes on a field: neither its type nor its directives. -/
def EndsField (more : List Token) : Prop :=
  Stops (isPunct '!') more ∧ Stops (isPunct '@') more ∧ Stops (isPunct '(') more

theorem endsField_name (s : String) (more : List Token) : EndsField (.name s :: more) :=
  ⟨stops_cons.2 rfl, stops_cons.2 rfl, stops_cons.2 rfl⟩

/-- A field whose directives are spelled by the given tokens. -/
theorem takes_member (key typeName : String) {ds : List Directive} {taken : List Token}
    (listed : Takes directives taken ds fun more => Stops (isPunct '@') more ∧ Stops (isPunct '(') more)
    (begins : taken = [] ∨ ∃ rest, taken = .punctuator '@' :: rest) :
    Takes field ([.name key, .punctuator ':', .name typeName] ++ taken) ⟨key, ds⟩ EndsField := by
  have last : Takes (do pure (⟨key, ← directives⟩ : Field)) (taken ++ []) ⟨key, ds⟩
      fun more => Stops (isPunct '@') more ∧ Stops (isPunct '(') more :=
    listed.bind .pure fun more fine => fine
  have none : Takes argumentDefinitions ([] ++ []) () (Stops (isPunct '(')) :=
    (takes_not (.punctuator '(')).bind .pure fun more stops => stops
  rw [List.append_nil] at last
  -- No description, the name, no argument definitions, the colon, the type, the directives.
  show Takes _ ([] ++ ([Token.name key] ++ (([] ++ []) ++ ([Token.punctuator ':'] ++
    ([Token.name typeName] ++ taken))))) _ _
  refine takes_no_description.bind ((takes_name key).then (none.bind ((takes_punct ':').then
    ((takes_anyType _).bind (last.mono fun more fine => fine.2) ?_)) ?_)) ?_
  · intro more fine
    rcases begins with rfl | ⟨rest, rfl⟩
    · exact fine.1
    · exact stops_cons.2 rfl
  · exact fun more _ => stops_cons.2 rfl
  · exact fun more _ => stops_cons.2 rfl

variable (typeOf : Field → String)

theorem takes_field (f : Field) : Takes field (fieldWords typeOf f) f EndsField := by
  refine takes_member f.name (typeOf f) (takes_directives f.directives) ?_
  cases f.directives with
  | nil => exact .inl rfl
  | cons d rest =>
    rw [List.flatMap_cons, directiveWords]
    split <;> exact .inr ⟨_, rfl⟩

theorem takes_braced_nil {α : Type} (starts : Token → Bool) (rule : Rule α) :
    Takes (braced starts rule) [] [] (Stops (isPunct '\x7b')) :=
  (takes_not (.punctuator '\x7b')).bind .pure fun _ stops => stops

/-- At least one member between braces. -/
theorem takes_members {taken : List Token} {fields : List Field}
    (listed : Takes (many1 startsMember field) taken fields
      fun more => Stops startsMember more ∧ EndsField more) :
    Takes (braced startsMember field) (.punctuator '\x7b' :: taken ++ [.punctuator '\x7d']) fields Anything := by
  have closed : Takes (do punct '\x7d'; pure fields) ([Token.punctuator '\x7d'] ++ []) fields Anything :=
    (takes_punct '\x7d').then .pure
  show Takes _ ([Token.punctuator '\x7b'] ++ (taken ++ ([Token.punctuator '\x7d'] ++ []))) _ _
  refine (takes_takes _).then (listed.bind closed fun more _ => ⟨stops_cons.2 rfl, ?_⟩)
  exact ⟨stops_cons.2 rfl, stops_cons.2 rfl, stops_cons.2 rfl⟩

/-- Nothing follows, or a definition of a type. -/
def EndsType (more : List Token) : Prop := ∀ token ∈ more.head?, token = .name "type"

theorem EndsType.stops {more : List Token} (h : EndsType more) {starts : Token → Bool}
    (other : starts (.name "type") = false) : Stops starts more := by
  intro token found
  rw [h token found]
  exact other

theorem takes_body (fields : List Field) :
    Takes (braced startsMember field) (bodyWords typeOf fields) fields EndsType := by
  cases fields with
  | nil => exact (takes_braced_nil _ _).mono fun more ends => ends.stops rfl
  | cons f rest =>
    exact (takes_members (takes_many1 (fun g _ => takes_field typeOf g)
      fun g _ => ⟨_, _, rfl, rfl, fun more => endsField_name _ more⟩)).mono fun _ _ => trivial

/-- A type whose fields are spelled by the given tokens, between braces if there are any. -/
theorem takes_object (key : String) {fields : List Field} {body : List Token}
    (taken : Takes (braced startsMember field) body fields EndsType)
    (begins : body = [] ∨ ∃ rest, body = .punctuator '\x7b' :: rest) :
    Takes definition (.name "type" :: .name key :: body) (.object ⟨key, fields⟩) EndsType := by
  have stops {more : List Token} (ends : EndsType more) {starts : Token → Bool}
      (other : starts (.name "type") = false) (brace : starts (.punctuator '\x7b') = false) :
      Stops starts (body ++ more) := by
    rcases begins with rfl | ⟨rest, rfl⟩
    · exact ends.stops other
    · exact stops_cons.2 brace
  -- Empty lists stand for the tokens of the parts that are left out.
  have noInterfaces : Takes interfaces ([] ++ []) [] (Stops (decide <| · = .name "implements")) :=
    (takes_not (.name "implements")).bind .pure fun _ stops => stops
  have rule : Takes (do
      let key ← name
      let names ← interfaces
      let ds ← directives
      let fields ← braced startsMember field
      pure (.object ⟨key, fields⟩, names.length + ds.length + fields.length) : Rule Counted)
      ([Token.name key] ++ (([] ++ []) ++ ([] ++ (body ++ []))))
      (.object ⟨key, fields⟩, 0 + 0 + fields.length) EndsType := by
    refine (takes_name key).then (noInterfaces.bind ((takes_directives []).bind
      (taken.bind .pure fun _ ends => ends) fun more ends => ?_) fun more ends => ?_)
    · rw [List.append_nil]
      exact ⟨stops ends rfl rfl, stops ends rfl rfl⟩
    · rw [List.append_nil]
      exact stops ends (by decide) rfl
  have kept : Takes definition ([] ++ ([Token.name "type"] ++ (([Token.name key] ++ (([] ++ []) ++ ([] ++
      (body ++ [])))) ++ []))) (.object ⟨key, fields⟩) EndsType := by
    refine takes_no_description.bind (.of_length fun start _ => (takes_name "type").then ?_)
      fun _ _ => stops_cons.2 rfl
    exact rule.bind .pure fun _ ends => ends
  simpa using kept

theorem takes_type (type : ObjectType) : Takes definition (typeWords typeOf type) (.object type) EndsType := by
  refine takes_object type.name (takes_body typeOf type.fields) ?_
  cases type.fields with
  | nil => exact .inl rfl
  | cons f rest => exact .inr ⟨_, rfl⟩

/-- Types that are spelled one after the other, at least one. -/
theorem takes_document_map {ι : Type} {items : List ι} {spell : ι → List Token} {type : ι → ObjectType}
    (some : items ≠ []) (each : ∀ x ∈ items, Takes definition (spell x) (.object (type x)) EndsType)
    (begins : ∀ x ∈ items, ∃ rest, spell x = .name "type" :: rest) :
    Takes document (items.flatMap spell) (items.map fun x => .object (type x)) (· = []) := by
  obtain ⟨x, others, rfl⟩ := List.exists_cons_of_ne_nil some
  refine (takes_many1_map each fun y hy => ?_).mono fun more none => ?_
  · obtain ⟨rest, spelled⟩ := begins y (List.mem_cons_of_mem _ hy)
    exact ⟨_, _, spelled, rfl, fun more token found => by cases found; rfl⟩
  · subst none
    exact ⟨stops_nil _, fun token found => nomatch found⟩

theorem takes_document {types : List ObjectType} (some : types ≠ []) :
    Takes document (types.flatMap (typeWords typeOf)) (types.map .object) (· = []) :=
  takes_document_map some (fun type _ => takes_type typeOf type) fun _ _ => ⟨_, rfl⟩

/-- A schema with at least one type, whose names are spelled as names, is read as it was from the text that it is
written as, whatever types its fields are given. -/
theorem parse_writeSchema {schema : Schema} (some : schema.types ≠ [])
    (named : ∀ type ∈ schema.types, NamedType type)
    (typed : ∀ type ∈ schema.types, ∀ f ∈ type.fields, IsName (typeOf f)) :
    parse (writeSchema typeOf schema) = .ok schema := by
  obtain ⟨rest, ran, left⟩ := takes_document typeOf some (scan (writeSchema typeOf schema)).1 []
    ((words_writeSchema named typed).trans (List.append_nil _).symm) rfl
  obtain ⟨-, any, reads⟩ := document_iff.1 ran
  refine parse_ok_iff.2 ⟨_, any, reads, ?_⟩
  rw [List.filterMap_map]
  exact (List.filterMap_some).symm

/-- A schema with keywords for names and strings that need escapes. -/
def keywordSchema : Schema :=
  let directives : List Directive :=
    [⟨"on", []⟩, ⟨"type", [⟨"on", "\"\\u0041\n\x7f\u0085,#\x7b𝄞\x7d"⟩, ⟨"_0", ""⟩]⟩]
  ⟨[⟨"type", [⟨"implements", directives⟩, ⟨"type", []⟩]⟩, ⟨"extend", []⟩, ⟨"type", [⟨"repeatable", []⟩]⟩]⟩

theorem parse_keywordSchema : parse (writeSchema (fun _ => "schema") keywordSchema) = .ok keywordSchema :=
  parse_writeSchema _ (by decide) (by decide +kernel) (by decide +kernel)

end Fixtures.Sdl
