import Fixtures.Proofs.Sdl.Retaking

/-!
# How far the rules of the grammar look

No rule looks further than to the next token: each rule of the grammar is `Confined`. What may come after the end
of a rule without being taken by it differs. Values end by themselves, types and all that may bear directives end
before anything that opens a definition, and a description only before what is no string.
-/

namespace Fixtures.Sdl

/-- The keywords of definitions. -/
def definitionKeywords : List String :=
  ["scalar", "type", "interface", "union", "enum", "input", "directive", "schema", "extend"]

/-- Whether a definition may start with the token: with its description or its keyword. -/
def opensDefinition : Token → Bool
  | .string _ => true
  | .name s => definitionKeywords.contains s
  | _ => false

/-- A token that a definition may start with. -/
abbrev Opening (token : Token) : Prop := opensDefinition token = true

theorem Opening.ne_punctuator {token : Token} (h : Opening token) (c : Char) : token ≠ .punctuator c := by
  rintro rfl
  cases h

theorem Opening.not_isPunct {token : Token} (h : Opening token) (c : Char) : isPunct c token = false :=
  decide_eq_false (h.ne_punctuator c)

/-! ## Values and types -/

theorem confined_value (allowed : Bool) (levels : Nat) (ends : Token → Prop) :
    Confined ends 1 0 (value allowed levels) (value allowed) := by
  induction levels generalizing ends with
  | zero => exact confined_refuse _
  | succ levels ih =>
    have items : Confined Never 0 0 (many startsValue (value allowed levels))
        fun size => many startsValue (value allowed size) := confined_many (ih _) fun _ => False.elim
    have member : Confined Never 1 0 (do
        let key ← name
        punct ':'
        pure (key, ← value allowed levels)) fun size => (do
        let key ← name
        punct ':'
        pure (key, ← value allowed size)) := by
      refine confined_name.bind fun key => (confined_punct ':').bind fun _ => ?_
      exact (ih _).bind fun _ => .pure rfl rfl
    have members : Confined Never 0 0 (many isName _) fun _ => many isName _ :=
      confined_many member fun _ => False.elim
    -- The first token says what the value is; all but brackets and braces are a value alone.
    unfold value
    refine Confined.peek (fun _ _ _ ran => by cases ran) (fun token => ?_) fun _ => rfl
    cases token with
    | name s => exact .skips (by simp) (.pure rfl rfl)
    | int n => exact .skips (by simp) (.pure rfl rfl)
    | float x => exact .skips (by simp) (.pure rfl rfl)
    | string s => exact .skips (by simp) (.pure rfl rfl)
    | ellipsis => exact .fails fun _ _ _ ran => by cases ran
    | bad => exact .fails fun _ _ _ ran => by cases ran
    | punctuator c =>
      by_cases dollar : c = '$'
      · subst dollar
        cases allowed with
        | true => exact .skips (by simp) (confined_name.bind fun _ => .pure rfl rfl)
        | false => exact .fails fun _ _ _ ran => by cases ran
      by_cases bracket : c = '['
      · subst bracket
        refine .skips (by simp) (items.before (by decide) fun _ => ?_)
        exact (confined_punct ']').bind fun _ => .pure rfl rfl
      by_cases brace : c = '\x7b'
      · subst brace
        refine .skips (by simp) (members.before (by decide) fun _ => ?_)
        exact (confined_punct '\x7d').bind fun _ => .pure rfl rfl
      refine .fails fun tokens a rest ran => ?_
      generalize found : some (Token.punctuator c) = token at ran
      split at ran <;> simp_all [refuse]

/-- A value ends by itself. -/
theorem confined_anyValue (allowed : Bool) (ends : Token → Prop) :
    Confined ends 1 0 (anyValue allowed) fun _ => anyValue allowed :=
  .fueled fun levels => confined_value allowed levels ends

theorem confined_fieldType (levels : Nat) : Confined Opening 1 0 (fieldType levels) fieldType := by
  have required {least : Nat} (h : least = 0) : Confined Opening least 0 (do let _ ← takesPunct '!')
      (fun _ => do let _ ← takesPunct '!') :=
    .takes (by simp) (.inl fun _ opens => opens.ne_punctuator '!') (.pure (by omega) rfl) (.pure h rfl)
  induction levels with
  | zero => exact confined_refuse _
  -- A name, or a type in brackets; either may be followed by a mark that no opening is.
  | succ levels ih =>
    unfold fieldType
    refine Confined.peek (fun _ _ _ ran => by cases ran) (fun token => ?_) fun _ => rfl
    cases token with
    | name s => exact .skips (by simp) (required rfl)
    | punctuator c =>
      by_cases bracket : c = '['
      · subst bracket
        refine .skips (by simp) (ih.bind fun _ => (confined_punct ']').bind fun _ => ?_)
        exact required rfl
      refine .fails fun tokens a rest ran => ?_
      generalize found : some (Token.punctuator c) = token at ran
      split at ran
      · cases found
      · cases found
        exact absurd rfl bracket
      · cases ran
    | _ => exact .fails fun _ _ _ ran => by cases ran

theorem confined_anyType : Confined Opening 1 0 anyType fun _ => anyType := .fueled confined_fieldType

/-! ## Directives -/

theorem confined_argument (ends : Token → Prop) : Confined ends 1 0 argument fun _ => argument := by
  refine confined_name.bind fun key => (confined_punct ':').bind fun _ => ?_
  exact (confined_anyValue true ends).bind fun _ => .pure rfl rfl

theorem confined_directive : Confined Opening 1 0 directive fun _ => directive := by
  refine (confined_punct '@').bind fun _ => confined_name.bind fun key => ?_
  refine .takes (by simp) (.inl fun _ opens => opens.ne_punctuator '(') ?_ (.pure rfl rfl)
  refine (confined_many1 (confined_argument Never) fun _ => False.elim).before (by decide) fun _ => ?_
  exact (confined_punct ')').bind fun _ => .pure rfl rfl

theorem confined_directives : Confined Opening 0 0 directives fun _ => directives :=
  confined_many confined_directive fun _ opens => opens.not_isPunct '@'

/-! ## Parts of definitions -/

theorem takes_description (s : String) : Takes description [.string s] true Anything :=
  .peek ((takes_skip _).then .pure)

theorem takes_no_description : Takes description [] false (Stops isString) := by
  intro tokens more same stops
  refine ⟨tokens, ?_, same⟩
  match tokens with
  | [] => rfl
  | ⟨token, place⟩ :: rest =>
    cases same
    cases token with
    | string s => cases stops_cons.1 stops
    | _ => rfl

/-- A description may come before anything but a string. -/
theorem confined_description : Confined (isString · = false) 0 0 description fun _ => description := by
  have none (tokens : List Placed) (stopped : Stops isString (words tokens)) :
      ∃ taken, Retaken (isString · = false) 0 0 (fun _ => description) tokens tokens false taken := by
    refine ⟨[], rfl, Nat.le_refl _, rfl, List.not_mem_nil,
      fun _ _ => takes_no_description.mono fun more fine => ?_⟩
    exact fine.stops stopped fun _ => id
  intro tokens described rest ran
  match tokens with
  | [] =>
    cases ran
    exact none [] (stops_nil _)
  | ⟨token, place⟩ :: others =>
    cases token with
    | string s =>
      cases ran
      refine ⟨[.string s], rfl, Nat.zero_le _, rfl, by simp, fun _ _ => ?_⟩
      exact (takes_description s).mono fun _ _ => trivial
    | _ =>
      cases ran
      exact none _ (stops_cons.2 rfl)

theorem confined_inputValue : Confined Opening 1 0 inputValue fun _ => inputValue := by
  have last {least : Nat} (h : least = 0) : Confined Opening least 0 (do let _ ← directives)
      (fun _ => do let _ ← directives) :=
    h ▸ confined_directives.bind fun _ => .pure rfl rfl
  refine confined_description.before (by decide) fun _ => confined_name.bind fun _ => ?_
  refine (confined_punct ':').bind fun _ => confined_anyType.bind fun _ => ?_
  refine .takes (by simp) (.inl fun _ opens => opens.ne_punctuator '=') ?_ (last rfl)
  exact (confined_anyValue false Opening).bind fun _ => last rfl

theorem confined_argumentDefinitions :
    Confined Opening 0 0 argumentDefinitions fun _ => argumentDefinitions := by
  refine .takes (by simp) (.inl fun _ opens => opens.ne_punctuator '(') ?_ (.pure rfl rfl)
  refine (confined_many1 confined_inputValue.never fun _ => False.elim).before (by decide) fun _ => ?_
  exact confined_punct ')'

theorem confined_field : Confined Opening 1 0 field fun _ => field := by
  refine confined_description.before (by decide) fun _ => confined_name.bind fun key => ?_
  refine confined_argumentDefinitions.bind fun _ => (confined_punct ':').bind fun _ => ?_
  exact confined_anyType.bind fun _ => confined_directives.bind fun ds => .pure rfl rfl

theorem confined_enumValue : Confined Opening 1 0 enumValue fun _ => enumValue := by
  refine confined_description.before (by decide) fun _ => confined_name.bind fun _ => ?_
  exact confined_directives.bind fun _ => .pure rfl rfl

theorem confined_braced {α : Type} {starts : Token → Bool} {rule : Rule α} {again : Nat → Rule α}
    (member : Confined Never 1 0 rule again) :
    Confined Opening 0 0 (braced starts rule) fun size => braced starts (again size) := by
  refine .takes (by simp) (.inl fun _ opens => opens.ne_punctuator '\x7b') ?_ (.pure rfl rfl)
  refine (confined_many1 member fun _ => False.elim).before (by decide) fun _ => ?_
  exact (confined_punct '\x7d').bind fun _ => .pure rfl rfl

/-- Items that are separated by what is no bracket. -/
theorem confined_separated {α : Type} {c : Char} {item : Rule α} (flat : (Token.punctuator c).tilt = 0)
    (each : Confined Opening 1 0 item fun _ => item) :
    Confined Opening 1 0 (separated c item) fun _ => separated c item := by
  have next : Confined Opening 1 0 (do punct c; item) fun _ => (do punct c; item) := by
    refine (confined_punct c).bind fun _ => ?_
    rw [flat]
    exact each.mono (fun _ => id) (Nat.zero_le _)
  have items : Confined Opening 1 0 (do
      let first ← item
      let others ← many (isPunct c) (do punct c; item)
      pure (first :: others)) fun _ => (do
      let first ← item
      let others ← many (isPunct c) (do punct c; item)
      pure (first :: others)) := by
    refine each.bind fun first => ?_
    exact (confined_many next fun _ opens => opens.not_isPunct c).bind fun _ => .pure rfl rfl
  refine .takes (by simp) (.inl fun _ opens => opens.ne_punctuator c) ?_ items
  rw [flat]
  exact items.mono (fun _ => id) (Nat.zero_le _)

theorem Opening.ne_name {token : Token} (h : Opening token) {s : String} (other : s ∉ definitionKeywords) :
    token ≠ .name s := by
  rintro rfl
  exact other (List.contains_iff_mem.1 h)

theorem confined_interfaces : Confined Opening 0 0 interfaces fun _ => interfaces := by
  refine .takes (by simp) (.inl fun _ opens => opens.ne_name (by decide)) ?_ (.pure rfl rfl)
  exact (confined_separated (by decide) confined_name).mono (fun _ => id) (Nat.zero_le _)

theorem confined_location : Confined Opening 1 0 location fun _ => location := by
  refine .given fun start start' => confined_name.bind fun s => ?_
  split
  · exact .pure rfl rfl
  · exact confined_refuseAt _ _

/-! ## Definitions -/

theorem confined_extensible {keyword : String} {rule : Rule Counted} (h : extensible keyword = some rule) :
    Confined Opening 1 0 rule fun _ => rule := by
  unfold extensible at h
  -- One case for each keyword.
  split at h
  · cases h
    exact confined_name.bind fun _ => confined_directives.bind fun _ => .pure rfl rfl
  · cases h
    refine confined_name.bind fun key => confined_interfaces.bind fun names => ?_
    refine confined_directives.bind fun ds => ?_
    exact (confined_braced confined_field.never).bind fun fields => .pure rfl rfl
  · cases h
    refine confined_name.bind fun _ => confined_interfaces.bind fun names => confined_directives.bind fun ds => ?_
    exact (confined_braced confined_field.never).bind fun fields => .pure rfl rfl
  · cases h
    refine confined_name.bind fun _ => confined_directives.bind fun ds => ?_
    refine .takes (by simp) (.inl fun _ opens => opens.ne_punctuator '=') ?_ (.pure rfl rfl)
    exact (confined_separated (by decide) confined_name).bind fun members => .pure rfl rfl
  · cases h
    refine confined_name.bind fun _ => confined_directives.bind fun ds => ?_
    exact (confined_braced confined_enumValue.never).bind fun values => .pure rfl rfl
  · cases h
    refine confined_name.bind fun _ => confined_directives.bind fun ds => ?_
    exact (confined_braced confined_inputValue.never).bind fun fields => .pure rfl rfl
  · cases h

theorem confined_schemaDefinition (start start' : List Placed) :
    Confined Opening 1 0 (schemaDefinition start) fun _ => schemaDefinition start' := by
  have operation : Confined Never 1 0 (do
      let operation ← name
      punct ':'
      let _ ← name
      pure operation) fun _ => (do
      let operation ← name
      punct ':'
      let _ ← name
      pure operation) := by
    refine confined_name.bind fun _ => (confined_punct ':').bind fun _ => ?_
    exact confined_name.bind fun _ => .pure rfl rfl
  refine confined_directives.bind fun _ => (confined_punct '\x7b').bind fun _ => ?_
  refine (confined_many operation fun _ => False.elim).before (by decide) fun named => ?_
  refine (confined_punct '\x7d').bind fun _ => ?_
  split
  · exact .pure rfl rfl
  · exact confined_refuseAt _ _

theorem confined_extension : Confined Opening 1 0 extension fun _ => extension := by
  refine .given fun start start' => confined_name.bind fun keyword => ?_
  cases known : extensible keyword with
  | none => exact confined_refuseAt _ _
  | some rule =>
    refine ((confined_extensible known).mono (fun _ => id) (Nat.zero_le _)).bind fun counted => ?_
    obtain ⟨definition, parts⟩ := counted
    dsimp only
    split
    · exact confined_refuseAt _ _
    · exact .pure rfl rfl

end Fixtures.Sdl
