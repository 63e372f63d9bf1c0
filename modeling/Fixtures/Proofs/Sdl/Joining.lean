import Fixtures.Proofs.Sdl.Reading
import Fixtures.Proofs.Sdl.Spelling

/-!
# Schema texts one after another

Two schema texts that are read, on lines of their own, are read as one text with the types of the first and then
those of the second. There is one exception: a text that ends in a directive definition without the places where
the directive may stand must not be followed by a keyword. `parse_join` says both.

## Shape of the proof

`words_scan_join` is about the tokens: no comment is left open at the end of a line, and as many brackets are
closed as were opened. `Reads.append` and `EndsPlaceless.not_reads` are about the definitions, by induction on
those of the first text.
-/

namespace Fixtures.Sdl

/-- Tokens whose last definition is one of a directive, without places where it may stand. -/
inductive EndsPlaceless : List Placed → Prop
  | last {tokens : List Placed} (whole : placelessDirective tokens = .ok ((), [])) : EndsPlaceless tokens
  | more {tokens rest : List Placed} {d : Definition} (first : definition tokens = .ok (d, rest))
    (others : EndsPlaceless rest) : EndsPlaceless tokens

theorem EndsPlaceless.ne_nil {tokens : List Placed} (h : EndsPlaceless tokens) : tokens ≠ [] := by
  rintro rfl
  cases h with
  | last whole => cases whole
  | more first others => exact absurd (length_of_definition first) (Nat.not_lt_zero _)

/-- Definitions are read before others as they are read alone, unless the last one goes on to places that are
none. -/
theorem Reads.append {tokens others joined : List Placed} {ds ds' : List Definition} (h : Reads tokens ds)
    (next : Reads others ds')
    (fits : EndsPlaceless tokens → ∀ token ∈ (words others).head?, isString token = true)
    (same : words joined = words tokens ++ words others) : Reads joined (ds ++ ds') := by
  induction h generalizing joined with
  | done => exact next.of_words same
  | @more tokens rest d ds first _ ih =>
    obtain ⟨taken, done⟩ :=
      retaken_definition (fun _ => next.opening) first fun placeless => fits (.last placeless)
    rw [done.split, List.append_assoc] at same
    -- Behind the definition stands what stood there before, or, where that was nothing, the start of the others.
    have alike : Alike (fun token => (words others).head? = some token) (words rest)
        (words rest ++ words others) := by
      cases words rest with
      | nil =>
        cases found : (words others).head? with
        | none => exact .inl (by simp [found])
        | some token => exact .inr ⟨rfl, token, found, rfl⟩
      | cons token more => exact .inl rfl
    obtain ⟨rest', ran, left⟩ := done.takes _ (Nat.le_refl _) joined _ same alike
    exact .more ran (ih (fun placeless => fits (.more first placeless)) left)

/-- A keyword is no place where a directive may stand. -/
theorem directivePlaces_keyword {s : String} (keyword : s ∈ definitionKeywords) {p : Place}
    {others rest : List Placed} {d : Definition} : directivePlaces (⟨.name s, p⟩ :: others) ≠ .ok (d, rest) := by
  intro ran
  rw [directivePlaces_of_starts rfl] at ran
  obtain ⟨_, _, listed, -⟩ := of_bind_ok ran
  obtain ⟨took, middle, asked, listed⟩ := of_bind_ok listed
  rcases of_takes_ok asked with ⟨-, found⟩ | ⟨-, rfl, -⟩
  · cases found
  obtain ⟨_, _, located, -⟩ := of_bind_ok listed
  have elsewhere : ∀ s ∈ definitionKeywords, locations.contains s = false := by decide
  have refused : location (⟨.name s, p⟩ :: others) = .error (⟨.name s, p⟩ :: others) := by
    show (if locations.contains s then pure () else refuseAt _ : Rule Unit) others = _
    rw [elsewhere s keyword]
    rfl
  rw [refused] at located
  cases located

theorem definition_of_placeless {tokens rest : List Placed} (h : placelessDirective tokens = .ok ((), rest)) :
    definition tokens = directivePlaces rest := by
  obtain ⟨described, start, before, h⟩ := of_bind_ok h
  obtain ⟨_, middle, taken, head⟩ := of_bind_ok h
  have kind : definitionBy described start "directive" = directiveDefinition := rfl
  rw [definition_eq, bind_ok before]
  show (name >>= definitionBy described start) start = _
  rw [bind_ok (expect_name_iff.1 taken), kind, directiveDefinition_eq, bind_ok head]

/-- Where the last definition is one of a directive without places, no keyword can follow. -/
theorem EndsPlaceless.not_reads {tokens others joined : List Placed} (h : EndsPlaceless tokens) {s : String}
    (keyword : s ∈ definitionKeywords) (next : (words others).head? = some (.name s))
    (same : words joined = words tokens ++ words others) (ds : List Definition) : ¬ Reads joined ds := by
  induction h generalizing joined ds with
  | last whole =>
    intro read
    -- The definition is taken again up to its end, and there the keyword is read as a place.
    obtain ⟨taken, done⟩ := confined_placelessDirective (fun _ => True) _ _ _ whole
    rw [done.split, List.append_assoc] at same
    have alike : Alike (fun _ => True) (words []) (words [] ++ words others) := .inr ⟨rfl, _, next, trivial⟩
    obtain ⟨rest, head, left⟩ := done.takes _ (Nat.le_refl _) joined _ same alike
    rw [words_nil, List.nil_append] at left
    rw [← left] at next
    match rest with
    | [] => cases next
    | ⟨token, p⟩ :: rest =>
      cases next
      cases read with
      | done => cases head
      | more first read =>
        rw [definition_of_placeless head] at first
        exact directivePlaces_keyword keyword first
  | @more tokens rest d first placeless ih =>
    intro read
    obtain ⟨taken, done⟩ := retaken_definition_alone first
    rw [done.split, List.append_assoc] at same
    -- This definition is not the last one, so it does not come to see the others.
    have alike : Alike Never (words rest) (words rest ++ words others) := by
      cases rest with
      | nil => exact absurd rfl placeless.ne_nil
      | cons placed more => exact .inl rfl
    obtain ⟨rest', ran, left⟩ := done.takes _ (Nat.le_refl _) joined _ same alike
    cases read with
    | done => cases ran
    | more first' read =>
      cases ran.symm.trans first'
      exact ih left _ read

/-- The tokens of two texts on lines of their own, of which the first has as many brackets closed as opened. -/
theorem words_scan_join {first second : String} (balanced : tilt (words (scan first).1) = 0)
    (clean : .bad ∉ words (scan first).1) (clean' : .bad ∉ words (scan second).1) :
    words (scan (first ++ "\n" ++ second)).1 = words (scan first).1 ++ words (scan second).1 := by
  obtain ⟨budget, scans⟩ := scans_iff.2 ⟨rfl, clean⟩
  obtain ⟨budget', scans'⟩ := scans_iff.2 ⟨rfl, clean'⟩
  have kept := scans.budget_eq
  rw [balanced, Int.add_zero, Int.ofNat_inj] at kept
  subst kept
  have text : (first ++ "\n" ++ second).toList = first.toList ++ '\n' :: second.toList := by simp
  exact (scans_iff.1 ⟨budget', text ▸ scans.join scans'⟩).1

theorem words_scan_reads {first second : String} {ds ds' : List Definition} (reads : Reads (scan first).1 ds)
    (reads' : Reads (scan second).1 ds') :
    words (scan (first ++ "\n" ++ second)).1 = words (scan first).1 ++ words (scan second).1 :=
  words_scan_join reads.balanced.1 reads.balanced.2 reads'.balanced.2

/-- A keyword behind a directive definition without places is refused. -/
theorem parse_placeless {first second : String} {ds ds' : List Definition} (reads : Reads (scan first).1 ds)
    (reads' : Reads (scan second).1 ds') (placeless : EndsPlaceless (scan first).1) {s : String}
    (named : (words (scan second).1).head? = some (.name s)) :
    ∃ p, parse (first ++ "\n" ++ second) = .error p := by
  have refused := placeless.not_reads (List.contains_iff_mem.1 (reads'.opening named)) named
    (words_scan_reads reads reads')
  cases read : parse (first ++ "\n" ++ second) with
  | error p => exact ⟨p, rfl⟩
  | ok joined =>
    obtain ⟨ds, -, reads, -⟩ := parse_ok_iff.1 read
    exact absurd reads (refused ds)

/-- Two texts that are read, on lines of their own, are read as one text with the types of both: unless the first
one ends in a directive definition without places where the directive may stand and the second one starts with a
keyword, which is then refused. -/
theorem parse_join {first second : String} {schema schema' : Schema} (h : parse first = .ok schema)
    (h' : parse second = .ok schema') :
    (¬ (EndsPlaceless (scan first).1 ∧ ∃ s, (words (scan second).1).head? = some (.name s)) →
      parse (first ++ "\n" ++ second) = .ok ⟨schema.types ++ schema'.types⟩) ∧
    (EndsPlaceless (scan first).1 ∧ (∃ s, (words (scan second).1).head? = some (.name s)) →
      ∃ p, parse (first ++ "\n" ++ second) = .error p) := by
  obtain ⟨ds, any, reads, types⟩ := parse_ok_iff.1 h
  obtain ⟨ds', -, reads', types'⟩ := parse_ok_iff.1 h'
  refine ⟨fun apart => ?_, fun ⟨placeless, _, named⟩ => parse_placeless reads reads' placeless named⟩
  refine parse_ok_iff.2 ⟨ds ++ ds', by simp [any], ?_, by rw [types, types', List.filterMap_append]⟩
  refine reads.append reads' (fun placeless token starts => ?_) (words_scan_reads reads reads')
  have opens := reads'.opening starts
  cases token with
  | string s => rfl
  | name s => exact absurd ⟨placeless, s, starts⟩ apart
  | _ => cases opens

/-! ## A text that cannot be followed by a keyword -/

/-- Tokens without places of their own. -/
def unplaced (tokens : List Token) : List Placed := tokens.map (⟨·, ⟨1, 1⟩⟩)

theorem words_scan_directive : words (scan "directive @d on").1 =
    [.name "directive", .punctuator '@', .name "d", .name "on"] := by
  have last : Spells bracketBudget (' ' :: "on".toList) [.name "on"] bracketBudget :=
    (spells_name (by decide)).blank (.inl rfl)
  have key := (spells_name (by decide : IsName "d")).append last (delimits_cons (by decide) (by decide) _)
  have marked := key.punctuator (c := '@') (by decide) rfl
  have whole := (spells_name (by decide : IsName "directive")).append (marked.blank (.inl rfl))
    (delimits_cons (by decide) (by decide) _)
  exact words_scan_of_spells whole

theorem spells_type_keyword : Spells bracketBudget "type A".toList [.name "type", .name "A"] bracketBudget :=
  (spells_name (by decide : IsName "type")).append ((spells_name (by decide : IsName "A")).blank (.inl rfl))
    (delimits_cons (by decide) (by decide) _)

theorem words_scan_described : words (scan "\"a\" type A").1 = [.string "a", .name "type", .name "A"] :=
  words_scan_of_spells ((spells_string bracketBudget "a").append (spells_type_keyword.blank (.inl rfl))
    (delimits_cons (by decide) (by decide) _))

theorem parse_directive : parse "directive @d on" = .ok ⟨[]⟩ := by
  have read : Reads (unplaced [.name "directive", .punctuator '@', .name "d", .name "on"]) [.other] :=
    .more rfl .done
  exact parse_ok_iff.2 ⟨_, by simp, read.of_words words_scan_directive, rfl⟩

theorem parse_type : parse "type A" = .ok ⟨[⟨"A", []⟩]⟩ := by
  have read : Reads (unplaced [.name "type", .name "A"]) [.object ⟨"A", []⟩] := .more rfl .done
  exact parse_ok_iff.2 ⟨_, by simp, read.of_words (words_scan_of_spells spells_type_keyword), rfl⟩

theorem parse_described : parse "\"a\" type A" = .ok ⟨[⟨"A", []⟩]⟩ := by
  have read : Reads (unplaced [.string "a", .name "type", .name "A"]) [.object ⟨"A", []⟩] := .more rfl .done
  exact parse_ok_iff.2 ⟨_, by simp, read.of_words words_scan_described, rfl⟩

theorem endsPlaceless_directive : EndsPlaceless (scan "directive @d on").1 := by
  have whole : placelessDirective (unplaced [.name "directive", .punctuator '@', .name "d", .name "on"]) =
      .ok ((), []) := rfl
  obtain ⟨taken, done⟩ := confined_placelessDirective Never _ _ _ whole
  obtain ⟨rest, ran, left⟩ := done.takes _ (Nat.le_refl _) _ [] (words_scan_directive.trans done.split) .refl
  cases List.map_eq_nil_iff.1 left
  exact .last ran

/-- A directive definition can end without places, and is then not followed by the definition of a type. -/
theorem parse_directive_type :
    parse "directive @d on" = .ok ⟨[]⟩ ∧ parse "type A" = .ok ⟨[⟨"A", []⟩]⟩ ∧
      ∃ p, parse ("directive @d on" ++ "\n" ++ "type A") = .error p := by
  obtain ⟨ds, -, reads, -⟩ := parse_ok_iff.1 parse_directive
  obtain ⟨ds', -, reads', -⟩ := parse_ok_iff.1 parse_type
  refine ⟨parse_directive, parse_type, parse_placeless reads reads' endsPlaceless_directive (s := "type") ?_⟩
  rw [words_scan_of_spells spells_type_keyword]
  rfl

/-- With a description the type can follow. -/
theorem parse_join_described :
    parse ("directive @d on" ++ "\n" ++ "\"a\" type A") = .ok ⟨[⟨"A", []⟩]⟩ ∧
      ∃ p, parse ("directive @d on" ++ "\n" ++ "type A") = .error p := by
  refine ⟨(parse_join parse_directive parse_described).1 ?_,
    (parse_join parse_directive parse_type).2 ⟨?_, "type", ?_⟩⟩
  · rintro ⟨-, s, named⟩
    rw [words_scan_described] at named
    cases named
  · exact endsPlaceless_directive
  · rw [words_scan_of_spells spells_type_keyword]
    rfl

end Fixtures.Sdl
