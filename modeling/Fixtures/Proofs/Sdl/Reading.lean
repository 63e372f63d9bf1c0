import Fixtures.Proofs.Sdl.Lookahead

/-!
# Reading the definitions of a text

`Reads` relates tokens to the definitions in them, and a text is read if its tokens are one definition or more, to
the end: `parse_ok_iff`. What a definition has taken it takes again (`retaken_definition`), with one exception.
The places where a directive may stand can be left out of its definition, and then a name that follows is taken for
such a place.
-/

namespace Fixtures.Sdl

/-! ## Directive definitions -/

/-- A directive definition after its keyword, up to the places where the directive may stand. -/
def directiveHead : Rule Unit := do
  punct '@'
  let _ ← name
  argumentDefinitions
  let _ ← takes (.name "repeatable")
  expect (.name "on")

/-- The end of a directive definition: the places where the directive may stand, if any are given. -/
def directivePlaces : Rule Definition := do
  match ← next? with
  | some (.punctuator '|') | some (.name _) =>
    let _ ← separated '|' location
  | _ => pure ()
  pure .other

/-- Whether the token starts places where a directive may stand. -/
def startsPlaces (token : Token) : Bool := isName token || isPunct '|' token

/-- A directive definition without places where the directive may stand. -/
def placelessDirective : Rule Unit := do
  let _ ← description
  expect (.name "directive")
  directiveHead

theorem confined_directiveHead (ends : Token → Prop) : Confined ends 1 0 directiveHead fun _ => directiveHead := by
  refine (confined_punct '@').bind fun _ => confined_name.bind fun _ => ?_
  refine confined_argumentDefinitions.before (by decide) fun _ => ?_
  refine .takes (by simp) (.inr Nat.one_pos) ?_ (confined_expect (by simp))
  exact (confined_expect (by simp)).mono (fun _ => id) (Nat.zero_le _)

theorem confined_placelessDirective (ends : Token → Prop) :
    Confined ends 1 0 placelessDirective fun _ => placelessDirective := by
  refine confined_description.before (by decide) fun _ => (confined_expect (by simp)).bind fun _ => ?_
  exact (confined_directiveHead ends).mono (fun _ => id) (Nat.zero_le _)

theorem directiveDefinition_eq : directiveDefinition = directiveHead >>= fun _ => directivePlaces := by
  have whole : (directiveHead >>= fun _ => directivePlaces) = (do
      punct '@'
      let _ ← name
      argumentDefinitions
      let _ ← takes (.name "repeatable")
      expect (.name "on")
      directivePlaces) := by
    simp only [directiveHead, bind_assoc]
  exact whole.symm

theorem directivePlaces_of_starts {placed : Placed} {others : List Placed}
    (starts : startsPlaces placed.token = true) :
    directivePlaces (placed :: others) =
      (do let _ ← separated '|' location; pure .other : Rule Definition) (placed :: others) := by
  obtain ⟨token, place⟩ := placed
  cases token with
  | name s => rfl
  | punctuator c =>
    cases of_decide_eq_true starts
    rfl
  | _ => cases starts

theorem directivePlaces_of_stops {tokens : List Placed} (stopped : Stops startsPlaces (words tokens)) :
    directivePlaces tokens = .ok (.other, tokens) := by
  match tokens with
  | [] => rfl
  | ⟨token, place⟩ :: others =>
    have other : startsPlaces token = false := stops_cons.1 stopped
    cases token with
    | name s => cases other
    | punctuator c =>
      have unlike : c ≠ '|' := by
        rintro rfl
        cases other
      show (do
        match some (Token.punctuator c) with
        | some (.punctuator '|') | some (.name _) =>
          let _ ← separated '|' location
        | _ => pure ()
        pure .other : Rule Definition) _ = _
      generalize found : some (Token.punctuator c) = token
      split
      · cases found
        exact absurd rfl unlike
      · cases found
      · rfl
    | _ => rfl

theorem retaken_directivePlaces_of_stops {ends : Token → Prop} {tokens rest : List Placed} {d : Definition}
    (stopped : Stops startsPlaces (words tokens)) (ran : directivePlaces tokens = .ok (d, rest))
    (fits : ∀ more, Alike ends (words tokens) more → Stops startsPlaces more) :
    ∃ taken, Retaken ends 0 0 (fun _ => directivePlaces) tokens rest d taken := by
  rw [directivePlaces_of_stops stopped] at ran
  cases ran
  refine ⟨[], rfl, Nat.le_refl _, rfl, List.not_mem_nil, fun _ _ tokens' more same fine => ?_⟩
  refine ⟨tokens', directivePlaces_of_stops ?_, same⟩
  rw [same]
  exact fits more fine

theorem retaken_directivePlaces_of_starts {ends : Token → Prop} (opening : ∀ token, ends token → Opening token)
    {placed : Placed} {others rest : List Placed} {d : Definition} (starts : startsPlaces placed.token = true)
    (ran : directivePlaces (placed :: others) = .ok (d, rest)) :
    ∃ taken, Retaken ends 0 0 (fun _ => directivePlaces) (placed :: others) rest d taken := by
  have located : Confined Opening 1 0 (do let _ ← separated '|' location; pure Definition.other)
      fun _ => (do let _ ← separated '|' location; pure Definition.other) :=
    (confined_separated (by decide) confined_location).bind fun _ => .pure rfl rfl
  rw [directivePlaces_of_starts starts] at ran
  obtain ⟨taken, done⟩ := located.mono opening (Nat.le_refl 1) _ _ _ ran
  -- What is taken begins with the token that the places start with, so it starts places again.
  obtain ⟨token, taken, rfl⟩ := List.exists_cons_of_length_pos done.long
  have same : placed.token = token := (List.cons.inj done.split).1
  refine ⟨_, done.split, Nat.zero_le _, done.tilted, done.clean, fun size enough tokens' more same' fine => ?_⟩
  match tokens' with
  | [] => cases same'
  | placed' :: others' =>
    have again : placed'.token = placed.token := (List.cons.inj same').1.trans same.symm
    rw [directivePlaces_of_starts (again ▸ starts)]
    exact done.takes size enough _ more same' fine

/-- What a directive definition has taken it takes again; without places, only before what is taken for none. -/
theorem retaken_directivePlaces {ends : Token → Prop} (opening : ∀ token, ends token → Opening token)
    {tokens rest : List Placed} {d : Definition} (ran : directivePlaces tokens = .ok (d, rest))
    (placeless : tokens = [] → ∀ token, ends token → isString token = true) :
    ∃ taken, Retaken ends 0 0 (fun _ => directivePlaces) tokens rest d taken := by
  match tokens with
  | [] =>
    refine retaken_directivePlaces_of_stops (stops_nil _) ran fun more fine => ?_
    refine fine.stops (stops_nil _) fun token ending => ?_
    have string := placeless rfl token ending
    cases token with
    | string s => rfl
    | _ => cases string
  | placed :: others =>
    by_cases starts : startsPlaces placed.token = true
    · exact retaken_directivePlaces_of_starts opening starts ran
    · have stopped : Stops startsPlaces (words (placed :: others)) := stops_cons.2 (Bool.eq_false_iff.2 starts)
      refine retaken_directivePlaces_of_stops stopped ran fun more fine => ?_
      rcases fine with same | ⟨empty, -⟩
      · rwa [Stops, ← same]
      · cases empty

theorem retaken_directiveDefinition {ends : Token → Prop} (opening : ∀ token, ends token → Opening token)
    {tokens rest : List Placed} {d : Definition} (ran : directiveDefinition tokens = .ok (d, rest))
    (placeless : directiveHead tokens = .ok ((), []) → ∀ token, ends token → isString token = true) :
    ∃ taken, Retaken ends 1 0 (fun _ => directiveDefinition) tokens rest d taken := by
  rw [directiveDefinition_eq] at ran ⊢
  obtain ⟨_, middle, head, places⟩ := of_bind_ok ran
  obtain ⟨taken, done⟩ := confined_directiveHead (fun _ => True) tokens _ middle head
  obtain ⟨taken', done'⟩ := retaken_directivePlaces opening places fun none => placeless (none ▸ head)
  have both : Retaken ends (1 + 0) (0 + 0) (fun _ => directiveHead >>= fun _ => directivePlaces) tokens rest d
      (taken ++ taken') := done.chain done' (.inl fun _ _ => trivial)
  exact ⟨_, both⟩

/-! ## Definitions -/

/-- A definition after its keyword, by what the keyword is. -/
def definitionBy (described : Bool) (start : List Placed) (keyword : String) : Rule Definition :=
  match extensible keyword with
  | some rule => return (← rule).1
  | none =>
    if keyword = "directive" then directiveDefinition
    else if described then refuseAt start
    else if keyword = "schema" then schemaDefinition start
    else if keyword = "extend" then extension
    else refuseAt start

theorem definition_eq :
    definition = description >>= fun described => get >>= fun start => name >>= definitionBy described start := rfl

/-- A keyword opens a definition, and nothing else does. -/
theorem keyword_of_definitionBy {described : Bool} {start tokens rest : List Placed} {keyword : String}
    {d : Definition} (ran : definitionBy described start keyword tokens = .ok (d, rest)) :
    keyword ∈ definitionKeywords := by
  unfold definitionBy at ran
  cases known : extensible keyword with
  | some rule =>
    unfold extensible at known
    split at known
    case h_7 => cases known
    all_goals decide
  | none =>
    rw [known] at ran
    dsimp only at ran
    split at ran
    · next directive => rw [directive]; decide
    split at ran
    · cases ran
    split at ran
    · next schema => rw [schema]; decide
    split at ran
    · next extend => rw [extend]; decide
    · cases ran

theorem retaken_definitionBy {ends : Token → Prop} (opening : ∀ token, ends token → Opening token)
    {described : Bool} {start tokens rest : List Placed} {keyword : String} {d : Definition}
    (ran : definitionBy described start keyword tokens = .ok (d, rest))
    (placeless : keyword = "directive" → directiveHead tokens = .ok ((), []) →
      ∀ token, ends token → isString token = true) (start' : List Placed) :
    ∃ taken, Retaken ends 0 0 (fun _ => definitionBy described start' keyword) tokens rest d taken := by
  unfold definitionBy at ran ⊢
  cases known : extensible keyword with
  | some rule =>
    rw [known] at ran
    have confined : Confined Opening 0 0 (return (← rule).1) fun _ => (return (← rule).1) :=
      (confined_extensible known).bind fun _ => .pure rfl rfl
    exact confined.mono opening (Nat.le_refl 0) _ _ _ ran
  | none =>
    rw [known] at ran
    dsimp only at ran ⊢
    -- The other keywords, in the order in which the rule asks for them.
    split at ran
    · next directive =>
      obtain ⟨taken, done⟩ := retaken_directiveDefinition opening ran (placeless directive)
      rw [if_pos directive]
      exact ⟨taken, done.split, Nat.zero_le _, done.tilted, done.clean, done.takes⟩
    next other =>
    rw [if_neg other]
    split at ran
    · cases ran
    next undescribed =>
    rw [if_neg undescribed]
    split at ran
    · next schema =>
      rw [if_pos schema]
      exact (confined_schemaDefinition start start').mono opening (Nat.zero_le 1) _ _ _ ran
    next other =>
    rw [if_neg other]
    split at ran
    · next extend =>
      rw [if_pos extend]
      exact confined_extension.mono opening (Nat.zero_le 1) _ _ _ ran
    · cases ran

/-- A name that is expected is one that is taken as a name. -/
theorem expect_name_iff {s : String} {tokens rest : List Placed} :
    expect (.name s) tokens = .ok ((), rest) ↔ name tokens = .ok (s, rest) := by
  match tokens with
  | [] => exact ⟨fun h => (nomatch h), fun h => (nomatch h)⟩
  | ⟨token, place⟩ :: others =>
    by_cases found : token = .name s
    · subst found
      have asked : takes (.name s) (⟨.name s, place⟩ :: others) = .ok (true, others) := if_pos rfl
      rw [expect, bind_ok asked]
      exact ⟨fun h => by cases h; rfl, fun h => by cases h; rfl⟩
    · have asked : takes (.name s) (⟨token, place⟩ :: others) = .ok (false, ⟨token, place⟩ :: others) :=
        if_neg found
      rw [expect, bind_ok asked]
      refine ⟨fun h => (nomatch h), fun h => ?_⟩
      cases token with
      | name s' =>
        cases h
        exact absurd rfl found
      | _ => cases h

/-- A definition is its description, its keyword and what the keyword tells. -/
theorem of_definition_ok {tokens rest : List Placed} {d : Definition} (ran : definition tokens = .ok (d, rest)) :
    ∃ described start keyword middle, description tokens = .ok (described, start) ∧
      name start = .ok (keyword, middle) ∧ definitionBy described start keyword middle = .ok (d, rest) := by
  obtain ⟨described, start, before, ran⟩ := of_bind_ok ran
  have named : (name >>= definitionBy described start) start = .ok (d, rest) := ran
  obtain ⟨keyword, middle, named, ran⟩ := of_bind_ok named
  exact ⟨described, start, keyword, middle, before, named, ran⟩

/-- What a definition has taken it takes again before whatever may come after a definition; a directive definition
without places only before what is taken for none. -/
theorem retaken_definition {ends : Token → Prop} (opening : ∀ token, ends token → Opening token)
    {tokens rest : List Placed} {d : Definition} (ran : definition tokens = .ok (d, rest))
    (placeless : placelessDirective tokens = .ok ((), []) → ∀ token, ends token → isString token = true) :
    ∃ taken, Retaken ends 1 0 (fun _ => definition) tokens rest d taken := by
  obtain ⟨described, start, keyword, middle, before, named, ran⟩ := of_definition_ok ran
  -- With its keyword taken a definition without places is one for `placelessDirective` as well.
  have placeless' (directive : keyword = "directive") (head : directiveHead middle = .ok ((), [])) :
      ∀ token, ends token → isString token = true := by
    refine placeless ?_
    rw [placelessDirective, bind_ok before, bind_ok (directive ▸ expect_name_iff.2 named)]
    exact head
  obtain ⟨taken, done⟩ := confined_description tokens _ _ before
  obtain ⟨taken', done'⟩ : ∃ taken, Retaken ends 1 0
      (fun _ => get >>= fun start => name >>= definitionBy described start) start rest d taken := by
    refine Retaken.given fun start' => ?_
    have anywhere : Confined (fun _ => True) 1 0 name fun _ => name := confined_name
    obtain ⟨taken, done⟩ := anywhere start keyword middle named
    obtain ⟨taken', done'⟩ := retaken_definitionBy opening ran placeless' start'
    exact ⟨_, done.chain done' (.inl fun _ _ => trivial)⟩
  have whole : Retaken ends (0 + 1) (0 + 0)
      (fun _ => description >>= fun described => get >>= fun start => name >>= definitionBy described start)
      tokens rest d (taken ++ taken') := done.chain done' (.inr Nat.one_pos)
  exact ⟨_, whole⟩

/-- What a definition has taken it takes again before the token that followed it. -/
theorem retaken_definition_alone {tokens rest : List Placed} {d : Definition}
    (ran : definition tokens = .ok (d, rest)) :
    ∃ taken, Retaken Never 1 0 (fun _ => definition) tokens rest d taken :=
  retaken_definition (fun _ => False.elim) ran fun _ _ => False.elim

/-- A definition starts with its description or its keyword. -/
theorem opening_of_definition {tokens rest : List Placed} {d : Definition}
    (ran : definition tokens = .ok (d, rest)) : ∃ token ∈ (words tokens).head?, Opening token := by
  obtain ⟨described, start, keyword, middle, before, named, ran⟩ := of_definition_ok ran
  match tokens with
  | [] =>
    cases before
    cases named
  | ⟨token, place⟩ :: others =>
    refine ⟨token, rfl, ?_⟩
    cases token with
    | string s => rfl
    | name s =>
      cases before
      cases named
      exact List.contains_iff_mem.2 (keyword_of_definitionBy ran)
    | _ =>
      cases before
      cases named

/-! ## Whole texts -/

/-- Tokens that are read as definitions, one after another. -/
inductive Reads : List Placed → List Definition → Prop
  | done : Reads [] []
  | more {tokens rest : List Placed} {d : Definition} {ds : List Definition}
    (first : definition tokens = .ok (d, rest)) (others : Reads rest ds) : Reads tokens (d :: ds)

theorem length_of_definition {tokens rest : List Placed} {d : Definition}
    (ran : definition tokens = .ok (d, rest)) : rest.length < tokens.length := by
  obtain ⟨taken, done⟩ := retaken_definition_alone ran
  exact done.length_lt

theorem repeatWhile_definition {rounds : Nat} {tokens rest : List Placed} {ds : List Definition}
    (enough : tokens.length ≤ rounds) :
    repeatWhile (fun _ => true) definition rounds tokens = .ok (ds, rest) ↔ rest = [] ∧ Reads tokens ds := by
  have empty (rounds : Nat) (ds : List Definition) :
      repeatWhile (fun _ => true) definition rounds [] = .ok (ds, rest) ↔ rest = [] ∧ Reads [] ds := by
    have stop : repeatWhile (fun _ => true) definition rounds [] = .ok ([], []) := by cases rounds <;> rfl
    rw [stop]
    constructor
    · rintro ⟨⟩
      exact ⟨rfl, .done⟩
    · rintro ⟨rfl, read⟩
      cases read with
      | done => rfl
      | more first others => exact absurd (length_of_definition first) (Nat.not_lt_zero _)
  -- Each definition takes at least one token, so there are rounds enough.
  induction rounds generalizing tokens ds with
  | zero =>
    cases List.eq_nil_of_length_eq_zero (Nat.le_zero.1 enough)
    exact empty 0 ds
  | succ rounds ih =>
    match tokens with
    | [] => exact empty _ ds
    | placed :: others =>
      rw [repeatWhile_cons, if_pos rfl]
      constructor
      · intro ran
        obtain ⟨d, middle, first, ran⟩ := of_bind_ok ran
        obtain ⟨ds, last, following, made⟩ := of_bind_ok ran
        cases made
        have fewer := length_of_definition first
        obtain ⟨none, read⟩ := (ih (Nat.le_of_lt_succ (Nat.lt_of_lt_of_le fewer enough))).1 following
        exact ⟨none, .more first read⟩
      · rintro ⟨rfl, read⟩
        cases read with
        | more first read =>
          have fewer := length_of_definition first
          have following := (ih (Nat.le_of_lt_succ (Nat.lt_of_lt_of_le fewer enough))).2 ⟨rfl, read⟩
          rw [bind_ok first, bind_ok following]
          rfl

/-- A text is one or more definitions, to its end. -/
theorem document_iff {tokens rest : List Placed} {ds : List Definition} :
    document tokens = .ok (ds, rest) ↔ rest = [] ∧ ds ≠ [] ∧ Reads tokens ds := by
  constructor
  · intro ran
    obtain ⟨d, middle, first, ran⟩ := of_bind_ok ran
    obtain ⟨ds, last, following, made⟩ := of_bind_ok ran
    cases made
    obtain ⟨none, read⟩ := (repeatWhile_definition (Nat.le_refl middle.length)).1 following
    exact ⟨none, List.cons_ne_nil _ _, .more first read⟩
  · rintro ⟨rfl, any, read⟩
    cases read with
    | done => exact absurd rfl any
    | @more _ middle d ds first read =>
      have following : many (fun _ => true) definition middle = .ok (ds, []) :=
        (repeatWhile_definition (Nat.le_refl middle.length)).2 ⟨rfl, read⟩
      rw [document, many1, bind_ok first, bind_ok following]
      rfl

/-- The type that a definition defines, if it is one of an object type. -/
def Definition.type? : Definition → Option ObjectType
  | object type => some type
  | other => none

/-- What a text is read as. -/
theorem parse_ok_iff {text : String} {schema : Schema} :
    parse text = .ok schema ↔
      ∃ ds, ds ≠ [] ∧ Reads (scan text).1 ds ∧ schema.types = ds.filterMap Definition.type? := by
  have types (ds : List Definition) :
      ds.filterMap (fun | .object type => some type | .other => none) = ds.filterMap Definition.type? :=
    congrArg (List.filterMap · ds) (funext fun d => by cases d <;> rfl)
  unfold parse
  dsimp only
  constructor
  · intro read
    split at read
    · next ds rest ran =>
      obtain ⟨-, any, reads⟩ := document_iff.1 ran
      cases read
      exact ⟨ds, any, reads, types ds⟩
    · cases read
    · cases read
  · rintro ⟨ds, any, reads, made⟩
    rw [document_iff.2 ⟨rfl, any, reads⟩]
    exact congrArg (fun types => (Except.ok ⟨types⟩ : Except Place Schema)) ((types ds).trans made.symm)

theorem Reads.opening {tokens : List Placed} {ds : List Definition} (h : Reads tokens ds) {token : Token}
    (starts : (words tokens).head? = some token) : Opening token := by
  cases h with
  | done => cases starts
  | more first _ =>
    obtain ⟨token', starts', opens⟩ := opening_of_definition first
    exact Option.mem_unique starts starts' ▸ opens

/-- What is read has no bad tokens, and as many brackets are closed as are opened. -/
theorem Reads.balanced {tokens : List Placed} {ds : List Definition} (h : Reads tokens ds) :
    tilt (words tokens) = 0 ∧ .bad ∉ words tokens := by
  induction h with
  | done => exact ⟨rfl, List.not_mem_nil⟩
  | more first others ih =>
    obtain ⟨taken, done⟩ := retaken_definition_alone first
    rw [done.split]
    constructor
    · rw [tilt_append, done.tilted, ih.1]
      rfl
    · exact fun h => (List.mem_append.1 h).elim done.clean ih.2

/-- What is read does not depend on places. -/
theorem Reads.of_words {tokens tokens' : List Placed} {ds : List Definition} (h : Reads tokens ds)
    (same : words tokens' = words tokens) : Reads tokens' ds := by
  induction h generalizing tokens' with
  | done =>
    cases List.map_eq_nil_iff.1 same
    exact .done
  | more first others ih =>
    obtain ⟨taken, done⟩ := retaken_definition_alone first
    obtain ⟨rest', ran, left⟩ := done.takes _ (Nat.le_refl _) tokens' _ (same.trans done.split) .refl
    exact .more ran (ih left)

end Fixtures.Sdl
