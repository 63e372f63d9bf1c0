import Fixtures.Proofs.Sdl.Scanning

/-!
# What the rules of the grammar take

`Takes` says of a rule which tokens it takes and what it then yields, whatever the places of the tokens are,
under a condition on the tokens that follow: a rule looks at the next one to know where it ends. The lemmas about
one rule after another and about repetition carry this from rules for single tokens to rules for whole texts.

## Main results

* `Takes.bind`: the tokens of two rules, one after the other.
* `takes_many_map`, `takes_many1_map`: the tokens of a list of items.
-/

namespace Fixtures.Sdl

/-- Of tokens that begin with the given ones, and go on as `follow` admits, a rule takes these and yields `a`. -/
def Takes {α : Type} (rule : Rule α) (taken : List Token) (a : α) (follow : List Token → Prop) : Prop :=
  ∀ tokens more, words tokens = taken ++ more → follow more →
    ∃ rest, rule tokens = .ok (a, rest) ∧ words rest = more

/-- Nothing at all follows, or a token that starts no further item. -/
def Stops (starts : Token → Bool) (more : List Token) : Prop := ∀ token ∈ more.head?, starts token = false

theorem stops_nil (starts : Token → Bool) : Stops starts [] := by simp [Stops]

@[simp] theorem stops_cons {starts : Token → Bool} {token : Token} {more : List Token} :
    Stops starts (token :: more) ↔ starts token = false := by simp [Stops]

/-- Any tokens may follow. -/
abbrev Anything : List Token → Prop := fun _ => True

/-! ## One rule after another -/

section Combining

variable {α β : Type} {rule : Rule α} {a : α} {b : β} {taken : List Token} {follow : List Token → Prop}

/-- A rule after another one, as far as the first one goes. -/
theorem bind_ok {next : α → Rule β} {tokens middle : List Placed} (h : rule tokens = .ok (a, middle)) :
    (rule >>= next) tokens = next a middle := by
  show (rule tokens >>= fun p => next p.1 p.2) = _
  rw [h]
  rfl

/-- If one rule after another succeeds, both do. -/
theorem of_bind_ok {next : α → Rule β} {tokens rest : List Placed} (h : (rule >>= next) tokens = .ok (b, rest)) :
    ∃ a middle, rule tokens = .ok (a, middle) ∧ next a middle = .ok (b, rest) := by
  cases hrule : rule tokens with
  | error refused =>
    have h : (rule tokens >>= fun p => next p.1 p.2) = .ok (b, rest) := h
    rw [hrule] at h
    cases h
  | ok p => exact ⟨p.1, p.2, rfl, (bind_ok hrule).symm.trans h⟩

theorem Takes.pure : Takes (pure a : Rule α) [] a follow := fun tokens _ same _ => ⟨tokens, rfl, same⟩

theorem Takes.bind {next : α → Rule β} {taken' : List Token} {follow' : List Token → Prop}
    (first : Takes rule taken a follow') (second : Takes (next a) taken' b follow)
    (joined : ∀ more, follow more → follow' (taken' ++ more)) :
    Takes (rule >>= next) (taken ++ taken') b follow := by
  intro tokens more same fine
  rw [List.append_assoc] at same
  obtain ⟨middle, ran, left⟩ := first tokens _ same (joined more fine)
  obtain ⟨rest, ran', left'⟩ := second middle more left fine
  exact ⟨rest, (bind_ok ran).trans ran', left'⟩

/-- After a rule that does not look further. -/
theorem Takes.then {next : α → Rule β} {taken' : List Token} (first : Takes rule taken a Anything)
    (second : Takes (next a) taken' b follow) : Takes (rule >>= next) (taken ++ taken') b follow :=
  first.bind second fun _ _ => trivial

theorem Takes.mono {follow' : List Token → Prop} (h : Takes rule taken a follow)
    (narrower : ∀ more, follow' more → follow more) : Takes rule taken a follow' :=
  fun tokens more same fine => h tokens more same (narrower more fine)

/-- A rule that is given the tokens, all of them. -/
theorem Takes.of_length {next : List Placed → Rule β}
    (h : ∀ tokens : List Placed, taken.length ≤ tokens.length → Takes (next tokens) taken b follow) :
    Takes (get >>= next) taken b follow := by
  intro tokens more same fine
  have long : taken.length ≤ tokens.length := by
    rw [← length_words, same, List.length_append]
    omega
  exact h tokens long tokens more same fine

/-- A rule that goes by the next token. -/
theorem Takes.peek {next : Option Token → Rule β} {token : Token}
    (h : Takes (next (some token)) (token :: taken) b follow) :
    Takes (next? >>= next) (token :: taken) b follow := by
  intro tokens more same fine
  match tokens with
  | [] => cases same
  | placed :: rest =>
    cases (List.cons.inj same).1
    exact h (placed :: rest) more same fine

end Combining

/-! ## Single tokens -/

section Single

variable {follow : List Token → Prop}

theorem takes_skip (token : Token) : Takes skip [token] () follow := by
  intro tokens more same _
  match tokens with
  | [] => cases same
  | placed :: rest => exact ⟨rest, rfl, (List.cons.inj same).2⟩

theorem takes_name (s : String) : Takes name [.name s] s follow := by
  intro tokens more same _
  match tokens with
  | [] => cases same
  | ⟨token, place⟩ :: rest =>
    obtain ⟨rfl, left⟩ := List.cons.inj same
    exact ⟨rest, rfl, left⟩

theorem takes_takes (token : Token) : Takes (takes token) [token] true follow := by
  intro tokens more same _
  match tokens with
  | [] => cases same
  | placed :: rest =>
    obtain ⟨found, left⟩ := List.cons.inj same
    exact ⟨rest, by rw [takes, if_pos found], left⟩

theorem takes_not (token : Token) : Takes (takes token) [] false (Stops (decide <| · = token)) := by
  intro tokens more same other
  match tokens with
  | [] => exact ⟨[], rfl, same⟩
  | placed :: rest =>
    cases same
    exact ⟨placed :: rest, by rw [takes, if_neg (by simpa using other)], rfl⟩

/-- Whether a token was taken tells whether it was there. -/
theorem of_takes_ok {token : Token} {took : Bool} {tokens rest : List Placed}
    (h : takes token tokens = .ok (took, rest)) :
    took = true ∧ words tokens = token :: words rest ∨
      took = false ∧ rest = tokens ∧ Stops (decide <| · = token) (words tokens) := by
  unfold takes at h
  split at h
  · next placed others =>
    split at h
    · next found =>
      cases h
      exact .inl ⟨rfl, congrArg (· :: words rest) found⟩
    · next other =>
      cases h
      exact .inr ⟨rfl, rfl, by simpa using other⟩
  · cases h
    exact .inr ⟨rfl, rfl, stops_nil _⟩

theorem takes_expect (token : Token) : Takes (expect token) [token] () follow :=
  (takes_takes token).then .pure

theorem takes_punct (c : Char) : Takes (punct c) [.punctuator c] () follow := takes_expect _

end Single

/-! ## Repetition -/

section Repeating

variable {α : Type} {rule : Rule α} {starts : Token → Bool}

/-- A round of a repetition depends on the next token only. -/
theorem repeatWhile_cons (rounds : Nat) (placed : Placed) (rest : List Placed) :
    repeatWhile starts rule (rounds + 1) (placed :: rest) =
      if starts placed.token = true then
        (do
          let first ← rule
          let others ← repeatWhile starts rule rounds
          pure (first :: others) : Rule (List α)) (placed :: rest)
      else .ok ([], placed :: rest) := by
  have next : next? (placed :: rest) = .ok (some placed.token, placed :: rest) := rfl
  rw [repeatWhile, bind_ok next]
  dsimp only
  split <;> rfl

theorem takes_repeatWhile_nil (rounds : Nat) : Takes (repeatWhile starts rule rounds) [] [] (Stops starts) := by
  intro tokens more same stops
  match rounds, tokens with
  | 0, tokens => exact ⟨tokens, rfl, same⟩
  | _ + 1, [] => exact ⟨[], rfl, same⟩
  | rounds + 1, placed :: rest =>
    cases same
    have ends : starts placed.token = false := stops_cons.1 stops
    refine ⟨placed :: rest, ?_, rfl⟩
    rw [repeatWhile_cons, ends]
    rfl

theorem takes_repeatWhile_cons {first : α} {others : List α} {token : Token} {taken taken' : List Token}
    {follow follow' : List Token → Prop} {rounds : Nat} (begins : starts token = true)
    (item : Takes rule (token :: taken) first follow')
    (rest : Takes (repeatWhile starts rule rounds) taken' others follow)
    (joined : ∀ more, follow more → follow' (taken' ++ more)) :
    Takes (repeatWhile starts rule (rounds + 1)) (token :: taken ++ taken') (first :: others) follow := by
  refine Takes.peek ?_
  dsimp only
  rw [if_pos begins]
  have remaining : Takes (do
      let others ← repeatWhile starts rule rounds
      pure (first :: others)) (taken' ++ []) (first :: others) follow :=
    rest.bind .pure fun _ fine => fine
  rw [List.append_nil] at remaining
  exact item.bind remaining joined

/-- Tokens of an item: they begin as items do, and an item may be followed by them. -/
def Leads (starts : Token → Bool) (next : List Token → Prop) (taken : List Token) : Prop :=
  ∃ token more, taken = token :: more ∧ starts token = true ∧ ∀ more, next (token :: more)

section Items

variable {ι : Type} {spell : ι → List Token} {item : ι → α} {next : List Token → Prop} {items : List ι}

/-- An item is followed by the next one, or by what stops them. -/
theorem next_of_leads (begins : ∀ x ∈ items, Leads starts next (spell x)) {more : List Token}
    (fine : Stops starts more ∧ next more) : next (items.flatMap spell ++ more) := by
  cases items with
  | nil => exact fine.2
  | cons x rest =>
    obtain ⟨token, taken, spelled, -, fits⟩ := begins x List.mem_cons_self
    rw [List.flatMap_cons, spelled]
    exact fits _

/-- The tokens of items, one after the other. -/
theorem takes_many_map (each : ∀ x ∈ items, Takes rule (spell x) (item x) next)
    (begins : ∀ x ∈ items, Leads starts next (spell x)) :
    Takes (many starts rule) (items.flatMap spell) (items.map item) fun more => Stops starts more ∧ next more := by
  have rounds (n : Nat) (enough : (items.flatMap spell).length ≤ n) :
      Takes (repeatWhile starts rule n) (items.flatMap spell) (items.map item)
        fun more => Stops starts more ∧ next more := by
    induction items generalizing n with
    | nil => exact (takes_repeatWhile_nil n).mono fun _ => And.left
    | cons x rest ih =>
      obtain ⟨token, taken, spelled, start, -⟩ := begins x List.mem_cons_self
      have others : ∀ y ∈ rest, Leads starts next (spell y) := fun y hy => begins y (List.mem_cons_of_mem _ hy)
      rw [List.flatMap_cons, spelled] at enough ⊢
      obtain ⟨n, rfl⟩ := Nat.exists_eq_add_of_le' (Nat.le_trans (Nat.succ_pos _) enough)
      have remaining := ih (fun y hy => each y (List.mem_cons_of_mem _ hy)) others n
        (by rw [List.length_append, List.length_cons] at enough; omega)
      exact takes_repeatWhile_cons start (spelled ▸ each x List.mem_cons_self) remaining
        fun _ => next_of_leads others
  exact Takes.of_length fun tokens long => rounds tokens.length long

theorem takes_many1_map {x : ι} (each : ∀ y ∈ x :: items, Takes rule (spell y) (item y) next)
    (begins : ∀ y ∈ items, Leads starts next (spell y)) :
    Takes (many1 starts rule) ((x :: items).flatMap spell) ((x :: items).map item)
      fun more => Stops starts more ∧ next more := by
  have others := takes_many_map (fun y hy => each y (List.mem_cons_of_mem _ hy)) begins
  have remaining : Takes (do
      let others ← many starts rule
      pure (item x :: others)) (items.flatMap spell ++ []) ((x :: items).map item)
      fun more => Stops starts more ∧ next more :=
    others.bind .pure fun _ fine => fine
  rw [List.append_nil] at remaining
  exact (each x List.mem_cons_self).bind remaining fun _ => next_of_leads begins

end Items

variable {spell : α → List Token} {next : List Token → Prop} {items : List α}

/-- Items that are spelled by themselves. -/
theorem takes_many (each : ∀ x ∈ items, Takes rule (spell x) x next)
    (begins : ∀ x ∈ items, Leads starts next (spell x)) :
    Takes (many starts rule) (items.flatMap spell) items fun more => Stops starts more ∧ next more := by
  have listed : Takes (many starts rule) (items.flatMap spell) (items.map id) _ := takes_many_map each begins
  rwa [List.map_id] at listed

theorem takes_many1 {x : α} (each : ∀ y ∈ x :: items, Takes rule (spell y) y next)
    (begins : ∀ y ∈ items, Leads starts next (spell y)) :
    Takes (many1 starts rule) ((x :: items).flatMap spell) (x :: items)
      fun more => Stops starts more ∧ next more := by
  have listed : Takes (many1 starts rule) ((x :: items).flatMap spell) ((x :: items).map id) _ :=
    takes_many1_map each begins
  rwa [List.map_id] at listed

end Repeating

end Fixtures.Sdl
