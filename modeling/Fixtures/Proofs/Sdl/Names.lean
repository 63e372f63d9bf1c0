import Fixtures.Proofs.Sdl.Rules

/-!
# The names of a schema that is read

Tokens that are names are spelled as names (`named_scan`), and a schema bears no other names than those of its
tokens. So every name of a schema that is read has the spelling of a name: `parse_names`.
-/

namespace Fixtures.Sdl

/-! ## The rules of the grammar -/

def NamedDirective (d : Directive) : Prop := IsName d.name ∧ ∀ a ∈ d.arguments, IsName a.name

def NamedField (f : Field) : Prop := IsName f.name ∧ ∀ d ∈ f.directives, NamedDirective d

/-- A type that bears a name, as do its fields and what is said of these. -/
def NamedType (type : ObjectType) : Prop := IsName type.name ∧ ∀ f ∈ type.fields, NamedField f

instance : DecidablePred NamedDirective := fun _ => inferInstanceAs (Decidable (_ ∧ _))

instance : DecidablePred NamedField := fun _ => inferInstanceAs (Decidable (_ ∧ _))

instance : DecidablePred NamedType := fun _ => inferInstanceAs (Decidable (_ ∧ _))

def NamedDefinition : Definition → Prop
  | .object type => NamedType type
  | .other => True

theorem proceeds_value (allowed : Bool) (levels : Nat) : Proceeds (value allowed levels) := by
  induction levels with
  | zero => exact yields_refuse
  | succ levels ih =>
    have taken (literal : Literal) : Proceeds (do skip; pure literal) :=
      proceeds_skip.bind fun _ => .pure trivial
    unfold value
    refine proceeds_next?.bind fun token => ?_
    -- Names, numbers and strings are single tokens; the other values are nested.
    split
    · exact taken _
    · exact taken _
    · exact taken _
    · exact taken _
    · split
      · refine proceeds_skip.bind fun _ => yields_name.bind fun _ _ => ?_
        exact .pure trivial
      · exact yields_refuse
    · refine proceeds_skip.bind fun _ => (yields_many startsValue ih).bind fun _ _ => ?_
      exact (proceeds_punct _).bind fun _ => .pure trivial
    · have member : Proceeds (do
          let key ← name
          punct ':'
          pure (key, ← value allowed levels)) := by
        refine yields_name.bind fun _ _ => (proceeds_punct _).bind fun _ => ?_
        exact Proceeds.bind ih fun _ => .pure trivial
      refine proceeds_skip.bind fun _ => (yields_many isName member).bind fun _ _ => ?_
      exact (proceeds_punct _).bind fun _ => .pure trivial
    · exact yields_refuse

theorem proceeds_anyValue (allowed : Bool) : Proceeds (anyValue allowed) :=
  proceeds_get.bind fun _ => proceeds_value allowed _

theorem proceeds_fieldType (levels : Nat) : Proceeds (fieldType levels) := by
  induction levels with
  | zero => exact yields_refuse
  | succ levels ih =>
    have required : Proceeds (do let _ ← takesPunct '!') :=
      (proceeds_takesPunct _).bind fun _ => .pure trivial
    unfold fieldType
    refine proceeds_next?.bind fun token => ?_
    dsimp only
    split
    · exact proceeds_skip.bind fun _ => required
    · refine proceeds_skip.bind fun _ => Proceeds.bind ih fun _ => ?_
      exact (proceeds_punct _).bind fun _ => required
    · exact Proceeds.bind yields_refuse fun _ => required

theorem proceeds_anyType : Proceeds anyType := proceeds_get.bind fun _ => proceeds_fieldType _

theorem yields_argument : Yields argument fun a => IsName a.name := by
  refine yields_name.bind fun key hkey => (proceeds_punct _).bind fun _ => ?_
  exact (proceeds_anyValue true).bind fun _ => .pure hkey

theorem yields_directive : Yields directive NamedDirective := by
  refine (proceeds_punct _).bind fun _ => yields_name.bind fun key hkey => ?_
  refine (proceeds_takesPunct _).bind fun took => ?_
  split
  · refine (yields_many1 isName yields_argument).bind fun arguments harguments => ?_
    exact (proceeds_punct _).bind fun _ => .pure ⟨hkey, harguments⟩
  · exact .pure ⟨hkey, by simp⟩

theorem yields_directives : Yields directives fun ds => ∀ d ∈ ds, NamedDirective d :=
  yields_many _ yields_directive

theorem proceeds_description : Proceeds description := by
  refine proceeds_next?.bind fun token => ?_
  split
  · exact proceeds_skip.bind fun _ => .pure trivial
  · exact .pure trivial

theorem proceeds_inputValue : Proceeds inputValue := by
  have last : Proceeds (do let _ ← directives) := yields_directives.bind fun _ _ => .pure trivial
  refine proceeds_description.bind fun _ => yields_name.bind fun _ _ => ?_
  refine (proceeds_punct _).bind fun _ => proceeds_anyType.bind fun _ => ?_
  refine (proceeds_takesPunct _).bind fun took => ?_
  dsimp only
  split
  · exact (proceeds_anyValue false).bind fun _ => last
  · exact last

theorem proceeds_argumentDefinitions : Proceeds argumentDefinitions := by
  refine (proceeds_takesPunct _).bind fun took => ?_
  split
  · refine (yields_many1 startsMember proceeds_inputValue).bind fun _ _ => ?_
    exact proceeds_punct _
  · exact .pure trivial

theorem yields_field : Yields field NamedField := by
  refine proceeds_description.bind fun _ => yields_name.bind fun key hkey => ?_
  refine proceeds_argumentDefinitions.bind fun _ => (proceeds_punct _).bind fun _ => ?_
  refine proceeds_anyType.bind fun _ => yields_directives.bind fun ds hds => ?_
  exact .pure ⟨hkey, hds⟩

theorem proceeds_interfaces : Proceeds interfaces := by
  refine (proceeds_takes _).bind fun took => ?_
  split
  · exact proceeds_separated _ yields_name.proceeds
  · exact .pure trivial

theorem proceeds_enumValue : Proceeds enumValue := by
  refine proceeds_description.bind fun _ => yields_name.bind fun _ _ => ?_
  exact yields_directives.bind fun _ _ => .pure trivial

theorem proceeds_location : Proceeds location := by
  refine proceeds_get.bind fun before => yields_name.bind fun s _ => ?_
  split
  · exact .pure trivial
  · exact yields_refuseAt _

/-! ## Definitions -/

/-- Whatever the kind of a definition, the type that it defines is named. -/
theorem yields_extensible {keyword : String} {rule : Rule Counted} (h : extensible keyword = some rule) :
    Yields rule fun counted => NamedDefinition counted.1 := by
  unfold extensible at h
  -- One case for each keyword; only that of types defines an object type.
  split at h
  · cases h
    refine yields_name.bind fun _ _ => yields_directives.bind fun _ _ => ?_
    exact .pure trivial
  · cases h
    refine yields_name.bind fun key hkey => proceeds_interfaces.bind fun names => ?_
    refine yields_directives.bind fun ds _ => ?_
    refine (yields_braced startsMember yields_field).bind fun fields hfields => ?_
    exact .pure ⟨hkey, hfields⟩
  · cases h
    refine yields_name.bind fun _ _ => proceeds_interfaces.bind fun names => ?_
    refine yields_directives.bind fun ds _ => ?_
    exact (yields_braced startsMember yields_field).bind fun fields _ => .pure trivial
  · cases h
    refine yields_name.bind fun _ _ => yields_directives.bind fun ds _ => ?_
    refine (proceeds_takesPunct _).bind fun took => ?_
    dsimp only
    split
    · exact (proceeds_separated _ yields_name.proceeds).bind fun _ => .pure trivial
    · exact .pure trivial
  · cases h
    refine yields_name.bind fun _ _ => yields_directives.bind fun ds _ => ?_
    exact (yields_braced startsMember proceeds_enumValue).bind fun _ _ => .pure trivial
  · cases h
    refine yields_name.bind fun _ _ => yields_directives.bind fun ds _ => ?_
    exact (yields_braced startsMember proceeds_inputValue).bind fun _ _ => .pure trivial
  · cases h

theorem yields_directiveDefinition : Yields directiveDefinition NamedDefinition := by
  have located : Yields (do
      let _ ← separated '|' location
      pure Definition.other) NamedDefinition :=
    (proceeds_separated _ proceeds_location).bind fun _ => .pure trivial
  refine (proceeds_punct _).bind fun _ => yields_name.bind fun _ _ => ?_
  refine proceeds_argumentDefinitions.bind fun _ => (proceeds_takes _).bind fun _ => ?_
  refine (proceeds_expect _).bind fun _ => proceeds_next?.bind fun token => ?_
  dsimp only
  split
  · exact located
  · exact located
  · exact .pure trivial

theorem yields_schemaDefinition (start : List Placed) : Yields (schemaDefinition start) NamedDefinition := by
  have operation : Proceeds (do
      let operation ← name
      punct ':'
      let _ ← name
      pure operation) := by
    refine yields_name.bind fun _ _ => (proceeds_punct _).bind fun _ => ?_
    exact yields_name.bind fun _ _ => .pure trivial
  refine yields_directives.bind fun _ _ => (proceeds_punct _).bind fun _ => ?_
  refine (yields_many isName operation).bind fun named _ => (proceeds_punct _).bind fun _ => ?_
  split
  · exact .pure trivial
  · exact yields_refuseAt _

theorem yields_extension : Yields extension NamedDefinition := by
  refine proceeds_get.bind fun start => yields_name.bind fun keyword _ => ?_
  split
  · exact yields_refuseAt _
  · next rule hrule =>
    refine (yields_extensible hrule).bind fun counted _ => ?_
    dsimp only
    split
    · exact yields_refuseAt _
    · exact .pure trivial

theorem yields_definition : Yields definition NamedDefinition := by
  refine proceeds_description.bind fun described => proceeds_get.bind fun start => ?_
  refine yields_name.bind fun keyword _ => ?_
  split
  · next rule hrule =>
    exact (yields_extensible hrule).bind fun counted hcounted => .pure hcounted
  split
  · exact yields_directiveDefinition
  split
  · exact yields_refuseAt _
  split
  · exact yields_schemaDefinition _
  split
  · exact yields_extension
  · exact yields_refuseAt _

theorem yields_document : Yields document fun definitions => ∀ d ∈ definitions, NamedDefinition d :=
  yields_many1 _ yields_definition

/-! ## The tokens of a text -/

theorem isName_of_scan {c : Char} (rest : List Char) (h : isNameStart c = true) :
    IsName (String.ofList (c :: rest.takeWhile isNameRest)) := by
  refine ⟨c, rest.takeWhile isNameRest, String.toList_ofList, h, fun d hd => ?_⟩
  exact List.all_eq_true.1 List.all_takeWhile d hd

theorem floatOf_ne_name (whole fraction : List Char) (exponent : Int) (s : String) :
    floatOf whole fraction exponent ≠ .name s := by
  intro h
  unfold floatOf at h
  split at h <;> cases h

theorem simpleNumber_ne_name (text : List Char) (s : String) : simpleNumber text ≠ .name s := by
  intro h
  unfold simpleNumber at h
  dsimp only at h
  split at h
  · split at h
    · exact absurd h (floatOf_ne_name _ _ _ s)
    · cases h
  · split at h <;> cases h

/-- A number is no name. -/
theorem numberToken_ne_name (text : List Char) (s : String) : numberToken text ≠ .name s := by
  intro h
  unfold numberToken at h
  split at h
  · exact absurd h (simpleNumber_ne_name _ s)
  · dsimp only at h
    split at h
    · split at h
      · exact absurd h (floatOf_ne_name _ _ _ s)
      · cases h
    · cases h

/-- A name is scanned as far as its spelling goes. -/
theorem scanToken_name {p : Place} {text : List Char} {s : String} (h : (scanToken p text).token = .name s) :
    IsName s := by
  unfold scanToken at h
  split at h
  · cases h
  · cases h
  · split at h <;> cases h
  · split at h
    · cases h
    · split at h <;> cases h
  · next c rest _ _ _ =>
    split at h
    · cases h
    split at h
    · next start =>
      cases h
      exact isName_of_scan rest start
    split at h
    · exact absurd h (numberToken_ne_name _ s)
    · cases h

theorem named_scanFrom (fuel budget : Nat) (p : Place) (text : List Char) :
    Named (scanFrom fuel budget p text).1 := by
  have bad (p : Place) : Named [⟨.bad, p⟩] := by
    intro placed hp s hs
    rw [List.mem_singleton.1 hp] at hs
    cases hs
  -- Each token is scanned where the one before it ended, with the budget that was left.
  induction fuel generalizing budget p text with
  | zero => exact fun _ h => absurd h List.not_mem_nil
  | succ fuel ih =>
    unfold scanFrom
    split
    · exact fun _ h => absurd h List.not_mem_nil
    · next p c rest _ =>
      dsimp only
      split
      · exact bad p
      · split
        · exact bad p
        · intro placed hp s hs
          rcases List.mem_cons.1 hp with rfl | hp
          · exact scanToken_name hs
          · exact ih _ _ _ placed hp s hs

theorem named_scan (text : String) : Named (scan text).1 := named_scanFrom _ _ _ _

/-! ## Schemas -/

/-- The types of a schema that is read, their fields, and what is said of these bear names. -/
theorem parse_names {text : String} {schema : Schema} (h : parse text = .ok schema) :
    ∀ type ∈ schema.types, NamedType type := by
  unfold parse at h
  dsimp only at h
  split at h
  · next definitions rest hrun =>
    have named := (yields_document _ _ _ (named_scan text) hrun).1
    cases h
    intro type htype
    obtain ⟨definition, hdefinition, made⟩ := List.mem_filterMap.1 htype
    have fine := named definition hdefinition
    cases definition with
    | object found =>
      cases made
      exact fine
    | other => cases made
  · cases h
  · cases h

/-- No name has a slash in it. -/
theorem IsName.slashless {s : String} (h : IsName s) : '/' ∉ s.toList := by
  obtain ⟨c, more, spelled, start, others⟩ := h
  rw [spelled]
  intro slash
  rcases List.mem_cons.1 slash with rfl | slash
  · exact absurd start (by decide)
  · exact absurd (others _ slash) (by decide)

end Fixtures.Sdl
