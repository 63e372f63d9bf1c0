import Fixtures.Sdl.Grammar

/-!
# What the rules of the grammar yield

A rule that succeeds leaves an end of the tokens it was given, and what it yields is made of the tokens that it
took. `Yields` says both of a rule, under the condition that every name among the tokens is spelled as a name:
the lemmas about one rule after another and about repetition carry this from rules for single tokens to rules
for whole texts.

## Main results

* `Yields.bind`: the second of two rules is given what the first one leaves.
* `yields_many`: each item of a repetition is good if those of the rule repeated are.
-/

namespace Fixtures.Sdl

/-! ## Names -/

/-- A text that is spelled as a name. -/
def IsName (s : String) : Prop :=
  ∃ c more, s.toList = c :: more ∧ isNameStart c = true ∧ ∀ d ∈ more, isNameRest d = true

instance : DecidablePred IsName := fun s =>
  match h : s.toList with
  | [] => isFalse fun ⟨_, _, spelled, _⟩ => nomatch h.symm.trans spelled
  | c :: more =>
    decidable_of_iff (isNameStart c = true ∧ more.all isNameRest = true)
      ⟨fun ⟨start, others⟩ => ⟨c, more, h, start, List.all_eq_true.1 others⟩,
        fun ⟨c', more', spelled, start, others⟩ => by
          obtain ⟨rfl, rfl⟩ := List.cons.inj (h.symm.trans spelled)
          exact ⟨start, List.all_eq_true.2 others⟩⟩

/-- Tokens whose names are spelled as names. -/
def Named (tokens : List Placed) : Prop := ∀ placed ∈ tokens, ∀ s, placed.token = .name s → IsName s

theorem Named.mono {tokens rest : List Placed} (h : Named tokens) (fewer : rest <:+ tokens) : Named rest :=
  fun placed hp => h placed (fewer.subset hp)

/-! ## One rule after another -/

/-- Of tokens whose names are names, a rule leaves an end, and what it yields is good. -/
def Yields {α : Type} (rule : Rule α) (good : α → Prop) : Prop :=
  ∀ tokens a rest, Named tokens → rule tokens = .ok (a, rest) → good a ∧ rest <:+ tokens

/-- A rule that leaves an end of the tokens. -/
abbrev Proceeds {α : Type} (rule : Rule α) : Prop := Yields rule fun _ => True

section Combining

variable {α β : Type} {rule : Rule α} {good : α → Prop}

theorem Yields.pure {a : α} (h : good a) : Yields (pure a) good := by
  intro tokens b rest _ hrun
  cases hrun
  exact ⟨h, List.suffix_rfl⟩

/-- The second rule is given what the first one leaves. -/
theorem Yields.bind {next : α → Rule β} {fine : β → Prop} (first : Yields rule good)
    (second : ∀ a, good a → Yields (next a) fine) : Yields (rule >>= next) fine := by
  intro tokens b rest named hrun
  have hrun : (rule tokens >>= fun p => next p.1 p.2) = .ok (b, rest) := hrun
  cases hrule : rule tokens with
  | error refused =>
    rw [hrule] at hrun
    cases hrun
  | ok p =>
    obtain ⟨a, middle⟩ := p
    rw [hrule] at hrun
    obtain ⟨ha, taken⟩ := first tokens a middle named hrule
    obtain ⟨hb, more⟩ := second a ha middle b rest (named.mono taken) hrun
    exact ⟨hb, more.trans taken⟩

theorem Yields.mono {fine : α → Prop} (h : Yields rule good) (weaker : ∀ a, good a → fine a) :
    Yields rule fine := by
  intro tokens a rest named hrun
  obtain ⟨ha, taken⟩ := h tokens a rest named hrun
  exact ⟨weaker a ha, taken⟩

theorem Yields.proceeds (h : Yields rule good) : Proceeds rule := h.mono fun _ _ => trivial

/-- After a rule whose yield does not matter. -/
theorem Proceeds.bind {next : α → Rule β} {fine : β → Prop} (first : Proceeds rule)
    (second : ∀ a, Yields (next a) fine) : Yields (rule >>= next) fine :=
  Yields.bind first fun a _ => second a

theorem yields_refuse : Yields refuse good := by
  intro tokens a rest _ hrun
  cases hrun

theorem yields_refuseAt (start : List Placed) : Yields (refuseAt start) good := by
  intro tokens a rest _ hrun
  cases hrun

end Combining

/-! ## Single tokens -/

theorem proceeds_get : Proceeds get := by
  intro tokens a rest _ hrun
  cases hrun
  exact ⟨trivial, List.suffix_rfl⟩

theorem proceeds_next? : Proceeds next? := by
  intro tokens a rest _ hrun
  cases hrun
  exact ⟨trivial, List.suffix_rfl⟩

theorem proceeds_skip : Proceeds skip := by
  intro tokens a rest _ hrun
  cases hrun
  exact ⟨trivial, List.tail_suffix tokens⟩

theorem yields_name : Yields name IsName := by
  intro tokens s rest named hrun
  unfold name at hrun
  split at hrun
  · next found place rest' =>
    cases hrun
    exact ⟨named _ List.mem_cons_self s rfl, List.suffix_cons _ _⟩
  · cases hrun

theorem proceeds_takes (token : Token) : Proceeds (takes token) := by
  intro tokens took rest _ hrun
  refine ⟨trivial, ?_⟩
  unfold takes at hrun
  split at hrun
  · split at hrun
    · cases hrun
      exact List.suffix_cons _ _
    · cases hrun
      exact List.suffix_rfl
  · cases hrun
    exact List.suffix_rfl

theorem proceeds_takesPunct (c : Char) : Proceeds (takesPunct c) := proceeds_takes _

theorem proceeds_expect (token : Token) : Proceeds (expect token) := by
  refine (proceeds_takes token).bind fun took => ?_
  cases took with
  | true => exact .pure trivial
  | false => exact yields_refuse

theorem proceeds_punct (c : Char) : Proceeds (punct c) := proceeds_expect _

/-! ## Repetition -/

section Repeating

variable {α : Type} {rule : Rule α} {good : α → Prop}

theorem yields_repeatWhile (starts : Token → Bool) (h : Yields rule good) (rounds : Nat) :
    Yields (repeatWhile starts rule rounds) fun xs => ∀ x ∈ xs, good x := by
  induction rounds with
  | zero => exact .pure (by simp)
  | succ rounds ih =>
    refine proceeds_next?.bind fun token => ?_
    cases token with
    | none => exact .pure (by simp)
    | some token =>
      dsimp only
      split
      · refine h.bind fun first hfirst => ih.bind fun others hothers => ?_
        exact .pure (List.forall_mem_cons.2 ⟨hfirst, hothers⟩)
      · exact .pure (by simp)

theorem yields_many (starts : Token → Bool) (h : Yields rule good) :
    Yields (many starts rule) fun xs => ∀ x ∈ xs, good x :=
  proceeds_get.bind fun _ => yields_repeatWhile starts h _

theorem yields_many1 (starts : Token → Bool) (h : Yields rule good) :
    Yields (many1 starts rule) fun xs => ∀ x ∈ xs, good x := by
  refine h.bind fun first hfirst => (yields_many starts h).bind fun others hothers => ?_
  exact .pure (List.forall_mem_cons.2 ⟨hfirst, hothers⟩)

theorem yields_braced (starts : Token → Bool) (h : Yields rule good) :
    Yields (braced starts rule) fun xs => ∀ x ∈ xs, good x := by
  refine (proceeds_takesPunct _).bind fun took => ?_
  cases took with
  | true =>
    refine (yields_many1 starts h).bind fun members hmembers => ?_
    exact (proceeds_punct _).bind fun _ => .pure hmembers
  | false => exact .pure (by simp)

theorem proceeds_separated (c : Char) (h : Proceeds rule) : Proceeds (separated c rule) := by
  refine (proceeds_takesPunct c).bind fun _ => Proceeds.bind h fun _ => ?_
  have others := yields_many (isPunct c) ((proceeds_punct c).bind fun _ => h)
  exact others.bind fun _ _ => Yields.pure trivial

end Repeating

end Fixtures.Sdl
