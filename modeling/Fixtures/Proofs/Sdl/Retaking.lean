import Fixtures.Proofs.Sdl.Taking

/-!
# What a rule has taken it takes again

A rule goes by the tokens that it takes and by the next one after them, and by nothing else: not by places, nor by
how many tokens there are. `Confined` says so of a rule. From one success on some tokens it tells what the rule
does on any tokens that begin with the same ones, and which brackets were among them.

## Main results

* `Confined.bind` and `Confined.before`: one rule after another.
* `Confined.takes`: a rule that goes one way or another by the next token.
* `Confined.peek`: a rule that starts by looking at the next token.
* `confined_many`: repetition.
-/

namespace Fixtures.Sdl

/-- Whether tokens go on as others do: with the same token, or, where there was none, with one that `ends`
admits. -/
def Alike (ends : Token → Prop) (old new : List Token) : Prop :=
  old.head? = new.head? ∨ old = [] ∧ ∃ token ∈ new.head?, ends token

theorem Alike.refl {ends : Token → Prop} {tokens : List Token} : Alike ends tokens tokens := .inl (by simp)

/-- Behind some tokens only these are seen. -/
theorem Alike.behind {ends ends' : Token → Prop} {old new taken : List Token} (h : Alike ends old new)
    (fits : (∀ token, ends token → ends' token) ∨ 0 < taken.length) :
    Alike ends' (taken ++ old) (taken ++ new) := by
  cases taken with
  | nil =>
    rcases fits with fewer | long
    · exact h.imp_right fun ⟨empty, token, found, ending⟩ => ⟨empty, token, found, fewer token ending⟩
    · cases long
  | cons token rest => exact .inl (by simp)

theorem Alike.stops {ends : Token → Prop} {old new : List Token} {starts : Token → Bool} (h : Alike ends old new)
    (stopped : Stops starts old) (fits : ∀ token, ends token → starts token = false) : Stops starts new := by
  rcases h with same | ⟨-, token, found, ending⟩
  · rwa [Stops, ← same]
  · intro token' found'
    cases Option.mem_unique found found'
    exact fits token ending

/-- A success of a rule, seen as one on any tokens that begin alike: `taken` are the tokens that it took, at least
so many and with so many brackets, and `again` is the rule with more or less fuel. -/
structure Retaken {α : Type} (ends : Token → Prop) (least : Nat) (weight : Int) (again : Nat → Rule α)
    (tokens rest : List Placed) (a : α) (taken : List Token) : Prop where
  split : words tokens = taken ++ words rest
  long : least ≤ taken.length
  tilted : tilt taken = weight
  clean : .bad ∉ taken
  takes : ∀ size, taken.length ≤ size → Takes (again size) taken a (Alike ends (words rest))

/-- A rule whose every success is one on any tokens that begin alike. -/
def Confined {α : Type} (ends : Token → Prop) (least : Nat) (weight : Int) (rule : Rule α) (again : Nat → Rule α) :
    Prop :=
  ∀ tokens a rest, rule tokens = .ok (a, rest) → ∃ taken, Retaken ends least weight again tokens rest a taken

/-! ## One rule after another -/

section Combining

variable {α β : Type} {ends : Token → Prop} {least : Nat} {weight : Int} {rule : Rule α} {again : Nat → Rule α}

theorem Retaken.length_lt {tokens rest : List Placed} {a : α} {taken : List Token}
    (h : Retaken ends 1 weight again tokens rest a taken) : rest.length < tokens.length := by
  have long := h.long
  have lengths := congrArg List.length h.split
  rw [List.length_append, length_words, length_words] at lengths
  omega

theorem Confined.mono {ends' : Token → Prop} {least' : Nat} (h : Confined ends least weight rule again)
    (fewer : ∀ token, ends' token → ends token) (less : least' ≤ least) :
    Confined ends' least' weight rule again := by
  intro tokens a rest ran
  obtain ⟨taken, done⟩ := h tokens a rest ran
  refine ⟨taken, done.split, Nat.le_trans less done.long, done.tilted, done.clean, fun size enough => ?_⟩
  refine (done.takes size enough).mono fun more fine => ?_
  exact fine.imp_right fun ⟨empty, token, found, ending⟩ => ⟨empty, token, found, fewer token ending⟩

/-- Nothing comes after the end. -/
abbrev Never : Token → Prop := fun _ => False

theorem Confined.never (h : Confined ends least weight rule again) : Confined Never least weight rule again :=
  h.mono (fun _ => False.elim) (Nat.le_refl _)

theorem Confined.pure {a : α} (hleast : least = 0) (hweight : weight = 0) :
    Confined ends least weight (pure a) fun _ => pure a := by
  intro tokens b rest ran
  cases ran
  subst hleast hweight
  exact ⟨[], rfl, Nat.le_refl _, rfl, List.not_mem_nil, fun _ _ => Takes.pure⟩

/-- A rule and then another one. What ends the second one ends the first one as well, or does not come to be
seen. -/
theorem Retaken.chain {ends' : Token → Prop} {least' : Nat} {weight' : Int} {again' : Nat → α → Rule β}
    {tokens middle rest : List Placed} {a : α} {b : β} {taken taken' : List Token}
    (first : Retaken ends' least weight again tokens middle a taken)
    (second : Retaken ends least' weight' (fun size => again' size a) middle rest b taken')
    (fits : (∀ token, ends token → ends' token) ∨ 0 < least') :
    Retaken ends (least + least') (weight + weight') (fun size => again size >>= again' size) tokens rest b
      (taken ++ taken') where
  split := by rw [first.split, second.split, List.append_assoc]
  long := by
    rw [List.length_append]
    exact Nat.add_le_add first.long second.long
  tilted := by rw [tilt_append, first.tilted, second.tilted]
  clean h := (List.mem_append.1 h).elim first.clean second.clean
  takes size enough := by
    rw [List.length_append] at enough
    refine (first.takes size (by omega)).bind (second.takes size (by omega)) fun more fine => ?_
    rw [second.split]
    exact fine.behind (fits.imp_right fun long => Nat.lt_of_lt_of_le long second.long)

theorem Confined.chain {ends' : Token → Prop} {least' least'' : Nat} {weight' : Int} {next : α → Rule β}
    {again' : Nat → α → Rule β} (first : Confined ends' least' weight' rule again)
    (second : ∀ a, Confined ends least'' (weight - weight') (next a) fun size => again' size a)
    (fits : (∀ token, ends token → ends' token) ∨ 0 < least'') (long : least ≤ least' + least'') :
    Confined ends least weight (rule >>= next) fun size => again size >>= again' size := by
  intro tokens b rest ran
  obtain ⟨a, middle, ran, ran'⟩ := of_bind_ok ran
  obtain ⟨taken, done⟩ := first tokens a middle ran
  obtain ⟨taken', done'⟩ := second a middle b rest ran'
  have both := done.chain done' fits
  exact ⟨_, both.split, Nat.le_trans long both.long, both.tilted.trans (by omega), both.clean, both.takes⟩

/-- A rule and then another one. -/
theorem Confined.bind {least' : Nat} {weight' : Int} {next : α → Rule β} {again' : Nat → α → Rule β}
    (first : Confined ends least' weight' rule again)
    (second : ∀ a, Confined ends (least - least') (weight - weight') (next a) fun size => again' size a) :
    Confined ends least weight (rule >>= next) fun size => again size >>= again' size :=
  first.chain second (.inl fun _ ending => ending) (by omega)

/-- A rule before one that takes something, and so is all that is seen behind the first one. -/
theorem Confined.before {ends' : Token → Prop} {least' : Nat} {weight' : Int} {next : α → Rule β}
    {again' : Nat → α → Rule β} (first : Confined ends' least' weight' rule again) (long : least ≤ least' + 1)
    (second : ∀ a, Confined ends 1 (weight - weight') (next a) fun size => again' size a) :
    Confined ends least weight (rule >>= next) fun size => again size >>= again' size :=
  first.chain second (.inr Nat.one_pos) long

end Combining

/-! ## Single tokens -/

section Single

variable {β : Type} {ends : Token → Prop} {least : Nat} {weight : Int}

theorem confined_refuse (again : Nat → Rule β) : Confined ends least weight refuse again :=
  fun _ _ _ ran => nomatch ran

theorem confined_name : Confined ends 1 0 name fun _ => name := by
  intro tokens s rest ran
  unfold name at ran
  split at ran
  · cases ran
    exact ⟨[.name s], rfl, Nat.le_refl _, rfl, by simp, fun _ _ => takes_name s⟩
  · cases ran

/-- Whether a token follows, and what to do then and otherwise. -/
theorem Confined.takes {token : Token} {next : Bool → Rule β} {again : Nat → Bool → Rule β} (good : token ≠ .bad)
    (fits : (∀ other, ends other → other ≠ token) ∨ 0 < least)
    (yes : Confined ends (least - 1) (weight - token.tilt) (next true) fun size => again size true)
    (no : Confined ends least weight (next false) fun size => again size false) :
    Confined ends least weight (takes token >>= next) fun size => Sdl.takes token >>= again size := by
  intro tokens b rest ran
  obtain ⟨took, middle, asked, went⟩ := of_bind_ok ran
  rcases of_takes_ok asked with ⟨rfl, found⟩ | ⟨rfl, rfl, other⟩
  · obtain ⟨taken, done⟩ := yes _ _ _ went
    refine ⟨token :: taken, ?_, ?_, ?_, ?_, fun size enough => ?_⟩
    · rw [found, done.split, List.cons_append]
    · have long := done.long
      rw [List.length_cons]
      omega
    · rw [tilt_cons, done.tilted]
      omega
    · exact fun h => (List.mem_cons.1 h).elim (fun same => good same.symm) done.clean
    · exact (takes_takes token).then (done.takes size (Nat.le_of_succ_le enough))
  · obtain ⟨taken, done⟩ := no _ _ _ went
    refine ⟨taken, done.split, done.long, done.tilted, done.clean, fun size enough => ?_⟩
    refine (takes_not token).bind (done.takes size enough) fun more fine => ?_
    rw [done.split] at other
    -- The token that is not taken is either one of what comes then or the one behind it.
    have seen := fine.behind (fits.imp_right fun long => Nat.lt_of_lt_of_le long done.long)
    exact seen.stops other fun other unlike => by simpa using unlike

theorem confined_expect {token : Token} (good : token ≠ .bad) :
    Confined ends 1 token.tilt (expect token) fun _ => expect token := by
  intro tokens a rest ran
  obtain ⟨took, middle, asked, went⟩ := of_bind_ok ran
  rcases of_takes_ok asked with ⟨rfl, found⟩ | ⟨rfl, rfl, other⟩
  · cases went
    exact ⟨[token], found, Nat.le_refl _, by simp, by simpa using good.symm, fun _ _ => takes_expect token⟩
  · cases went

theorem confined_punct (c : Char) :
    Confined ends 1 (Token.punctuator c).tilt (punct c) fun _ => punct c := confined_expect (by simp)

end Single

/-! ## Looking at the next token -/

section Peeking

variable {β : Type} {ends : Token → Prop} {least : Nat} {weight : Int}

/-- A rule that is about to read the given token: it takes the token first, or it fails. -/
inductive Begins (token : Token) (ends : Token → Prop) (least : Nat) (weight : Int) :
    Rule β → (Nat → Rule β) → Prop
  | fails {rule : Rule β} {again : Nat → Rule β} (h : ∀ tokens a rest, rule tokens ≠ .ok (a, rest)) :
    Begins token ends least weight rule again
  | skips {rule : Rule β} {again : Nat → Rule β} (good : token ≠ .bad)
    (h : Confined ends least (weight - token.tilt) rule again) :
    Begins token ends least weight (skip >>= fun _ => rule) fun size => skip >>= fun _ => again size

theorem Begins.retaken {token : Token} {rule : Rule β} {again : Nat → Rule β}
    (h : Begins token ends least weight rule again) {placed : Placed} {others rest : List Placed} {b : β}
    (found : placed.token = token) (ran : rule (placed :: others) = .ok (b, rest)) :
    ∃ taken, Retaken ends (least + 1) weight (fun size => again (size - 1)) (placed :: others) rest b
      (token :: taken) := by
  cases h with
  | fails h => exact absurd ran (h _ _ _)
  | skips good h =>
    obtain ⟨taken, done⟩ := h others b rest ran
    refine ⟨taken, ?_, Nat.succ_le_succ done.long, ?_, ?_, fun size enough => ?_⟩
    · rw [words_cons, found, done.split, List.cons_append]
    · rw [tilt_cons, done.tilted]
      omega
    · exact fun h => (List.mem_cons.1 h).elim (fun same => good same.symm) done.clean
    · exact (takes_skip token).then (done.takes (size - 1) (by rw [List.length_cons] at enough; omega))

/-- A rule that looks at the next token and takes it. With more fuel it does the same, with one less for what comes
then. -/
theorem Confined.peek {next : Option Token → Rule β} {again : Nat → Rule β} {next' : Nat → Option Token → Rule β}
    (nothing : ∀ tokens b rest, next none tokens ≠ .ok (b, rest))
    (begins : ∀ token, Begins token ends least weight (next (some token)) fun size => next' size (some token))
    (unfolds : ∀ size, again (size + 1) = next? >>= next' size) :
    Confined ends (least + 1) weight (next? >>= next) again := by
  intro tokens b rest ran
  match tokens with
  | [] => exact absurd ran (nothing _ _ _)
  | placed :: others =>
    obtain ⟨taken, done⟩ := (begins placed.token).retaken rfl ran
    refine ⟨_, done.split, done.long, done.tilted, done.clean, fun size enough => ?_⟩
    obtain ⟨size, rfl⟩ := Nat.exists_eq_add_of_le' (Nat.le_trans (Nat.succ_pos _) enough)
    rw [unfolds]
    exact (done.takes (size + 1) enough).peek

/-- A rule that is given the tokens, all of them, but only to say where it fails. -/
theorem Retaken.given {again : Nat → List Placed → Rule β} {tokens rest : List Placed} {b : β}
    (h : ∀ start, ∃ taken, Retaken ends least weight (fun size => again size start) tokens rest b taken) :
    ∃ taken, Retaken ends least weight (fun size => get >>= again size) tokens rest b taken := by
  obtain ⟨taken, done⟩ := h tokens
  refine ⟨taken, done.split, done.long, done.tilted, done.clean, fun size enough => ?_⟩
  refine Takes.of_length fun start _ => ?_
  obtain ⟨taken', done'⟩ := h start
  -- Both tell how the same tokens are split, with the same rest.
  cases List.append_cancel_right (done.split.symm.trans done'.split)
  exact done'.takes size enough

theorem Confined.given {next : List Placed → Rule β} {again : Nat → List Placed → Rule β}
    (h : ∀ start start', Confined ends least weight (next start) fun size => again size start') :
    Confined ends least weight (get >>= next) fun size => get >>= again size :=
  fun tokens b rest ran => Retaken.given fun start => h tokens start tokens b rest ran

/-- A rule with as much fuel as there are tokens needs no more. -/
theorem Confined.fueled {rule : Nat → Rule β} (h : ∀ levels, Confined ends least weight (rule levels) rule) :
    Confined ends least weight (do rule ((← get).length + 1)) fun _ => (do rule ((← get).length + 1)) := by
  intro tokens b rest ran
  obtain ⟨taken, done⟩ := h (tokens.length + 1) tokens b rest ran
  refine ⟨taken, done.split, done.long, done.tilted, done.clean, fun size _ => ?_⟩
  exact Takes.of_length fun tokens long => done.takes _ (Nat.le_succ_of_le long)

theorem confined_refuseAt (start : List Placed) (again : Nat → Rule β) :
    Confined ends least weight (refuseAt start) again := fun _ _ _ ran => nomatch ran

end Peeking

/-! ## Repetition -/

section Repeating

variable {α : Type} {ends : Token → Prop} {rule : Rule α} {again : Nat → Rule α} {starts : Token → Bool}

/-- Rounds of a rule that takes something in each, as many as there are tokens or more. -/
theorem retaken_repeatWhile (item : Confined ends 1 0 rule again)
    (fits : ∀ token, ends token → starts token = false)
    {rounds : Nat} {tokens rest : List Placed} {items : List α} (enough : tokens.length ≤ rounds)
    (ran : repeatWhile starts rule rounds tokens = .ok (items, rest)) :
    ∃ taken, words tokens = taken ++ words rest ∧ tilt taken = 0 ∧ .bad ∉ taken ∧
      ∀ size rounds', taken.length ≤ size → taken.length ≤ rounds' →
        Takes (repeatWhile starts (again size) rounds') taken items (Alike ends (words rest)) := by
  have stop (tokens : List Placed) (stopped : Stops starts (words tokens)) :
      ∃ taken, words tokens = taken ++ words tokens ∧ tilt taken = 0 ∧ .bad ∉ taken ∧
        ∀ size rounds', taken.length ≤ size → taken.length ≤ rounds' →
          Takes (repeatWhile starts (again size) rounds') taken [] (Alike ends (words tokens)) := by
    refine ⟨[], rfl, rfl, List.not_mem_nil, fun size rounds' _ _ => ?_⟩
    exact (takes_repeatWhile_nil rounds').mono fun more fine => fine.stops stopped fits
  induction rounds generalizing tokens items with
  | zero =>
    cases List.eq_nil_of_length_eq_zero (Nat.le_zero.1 enough)
    cases ran
    exact stop [] (stops_nil _)
  | succ rounds ih =>
    match tokens with
    | [] =>
      cases ran
      exact stop [] (stops_nil _)
    | placed :: others =>
      rw [repeatWhile_cons] at ran
      split at ran
      · next begins =>
        obtain ⟨first, middle, ranFirst, ran⟩ := of_bind_ok ran
        obtain ⟨following, last, ranOthers, made⟩ := of_bind_ok ran
        cases made
        obtain ⟨taken, done⟩ := item _ _ _ ranFirst
        have fewer := Nat.le_of_lt_succ (Nat.lt_of_lt_of_le done.length_lt enough)
        obtain ⟨taken', split', tilted', clean', takes'⟩ := ih fewer ranOthers
        -- What the item has taken begins with the token that it started with.
        obtain ⟨token, taken, rfl⟩ := List.exists_cons_of_length_pos done.long
        have same : placed.token = token := (List.cons.inj done.split).1
        rw [same] at begins
        refine ⟨token :: taken ++ taken', ?_, ?_, ?_, fun size rounds' enough enough' => ?_⟩
        · rw [done.split, split', List.append_assoc]
        · rw [tilt_append, done.tilted, tilted']
          rfl
        · exact fun h => (List.mem_append.1 h).elim done.clean clean'
        · rw [List.length_append] at enough enough'
          rw [List.length_cons] at enough'
          obtain ⟨rounds', rfl⟩ := Nat.exists_eq_add_of_le' (Nat.le_trans (by omega : 1 ≤ _) enough')
          refine takes_repeatWhile_cons begins (done.takes size (by omega))
            (takes' size rounds' (by omega) (by omega)) fun more fine => ?_
          rw [split']
          exact fine.behind (.inl fun _ ending => ending)
      · next ends =>
        cases ran
        exact stop _ (by simpa using ends)

/-- A repetition that ends at a token which starts no item. -/
theorem confined_many (item : Confined ends 1 0 rule again)
    (fits : ∀ token, ends token → starts token = false) :
    Confined ends 0 0 (many starts rule) fun size => many starts (again size) := by
  intro tokens items rest ran
  obtain ⟨taken, split, tilted, clean, takes⟩ := retaken_repeatWhile item fits (Nat.le_refl tokens.length) ran
  refine ⟨taken, split, Nat.zero_le _, tilted, clean, fun size enough => ?_⟩
  exact Takes.of_length fun tokens long => takes size tokens.length enough long

theorem confined_many1 (item : Confined ends 1 0 rule again)
    (fits : ∀ token, ends token → starts token = false) :
    Confined ends 1 0 (many1 starts rule) fun size => many1 starts (again size) :=
  item.bind fun _ => (confined_many item fits).bind fun _ => .pure rfl rfl

end Repeating

end Fixtures.Sdl
