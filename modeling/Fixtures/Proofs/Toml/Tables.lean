import Fixtures.Proofs.Runs
import Fixtures.Toml.Document

/-!
# The table of a settings text

Whatever statements a text has, the names of its table are distinct, so that a name has one item, and an integer
under a name is one of 64 bits with a sign. Both are kept by every statement that is carried out (`step_sound`),
and so they hold of the table of every text that can be read (`parse_sound`).

## Shape of the proof

* `Yields P r` says that a reader gives only values with a property. There is one lemma for each combinator, and
  then one for each reader from `integer` up to `statements`.
* `Keeps change` says that a change of a table keeps it sound. `within_keeps` carries it along a path: only the end
  of the path is changed, and on the way a table takes the place of a table.
-/

namespace Fixtures.Toml

/-! ## What readers give -/

/-- A reader gives only values with a property. -/
def Yields {α : Type} (P : α → Prop) (r : Outcome α) : Prop := ∀ a left, r = .ok (a, left) → P a

namespace Yields

variable {α β : Type} {P : α → Prop} {Q : β → Prop} {r : Outcome α}

theorem ok {a : α} (h : P a) (left : List Char) : Yields P (.ok (a, left)) := by
  rintro _ _ ⟨⟩
  exact h

theorem error (e : Refusal) : Yields P (.error e) := by
  rintro _ _ ⟨⟩

theorem mapError (h : Yields P r) (f : Refusal → Refusal) : Yields P (r.mapError f) := by
  intro a left given
  cases r with
  | error e => cases given
  | ok read =>
    cases given
    exact h a left rfl

theorem andThen (h : Yields P r) {next : α → List Char → Outcome β}
    (hnext : ∀ a left, P a → Yields Q (next a left)) : Yields Q (andThen r next) := by
  cases r with
  | error e => exact error e
  | ok read => exact hnext read.1 read.2 (h read.1 read.2 rfl)

theorem firmly (h : Yields P r) : Yields P (firmly r) := h.mapError _

theorem labelled (h : Yields P r) (label : String) : Yields P (labelled label r) := h.mapError _

theorem expecting (h : Yields P r) (what : String) : Yields P (expecting what r) := h.mapError _

theorem expectingString (h : Yields P r) : Yields P (expectingString r) := ((h.labelled _).expecting _).expecting _

/-- What was read before does not matter. -/
theorem behind (r : Outcome α) {next : α → List Char → Outcome β}
    (hnext : ∀ a left, Yields Q (next a left)) : Yields Q (Toml.andThen r next) :=
  andThen (P := fun _ => True) (fun _ _ _ => trivial) fun a left _ => hnext a left

theorem map (h : Yields P r) {f : α → β} (hf : ∀ a, P a → Q (f a)) : Yields Q (mapOutcome f r) :=
  h.andThen fun a left ha => ok (hf a ha) left

theorem orElse (h : Yields P r) {other : Unit → Outcome α} (hother : Yields P (other ())) :
    Yields P (orElse r other) := by
  cases r with
  | ok read => exact h
  | error e =>
    rw [Toml.orElse]
    split
    · exact error e
    · exact hother

end Yields

/-! ## Integers -/

/-- The integers of 64 bits with a sign. -/
def IsWord (n : Int) : Prop := Text.leastInt ≤ n ∧ n ≤ Text.greatestInt

/-- An integer under a name is one of 64 bits. -/
def Item.Fits : Item → Prop
  | .integer n _ => IsWord n
  | _ => True

theorem isWord_of_toInteger {base : Nat} {negative : Bool} {ds : List Char} {n : Int}
    (h : toInteger base negative ds = .ok n) : IsWord n := by
  unfold toInteger at h
  unfold IsWord Text.leastInt Text.greatestInt at *
  dsimp only at h
  split at h <;> split at h <;> cases h <;> omega

theorem integer_done_yields (base : Nat) (negative : Bool) (ds left : List Char) (refusal : String → Refusal) :
    Yields IsWord (match toInteger base negative ds with
      | .ok n => .ok (n, left)
      | .error cause => .error (refusal cause)) := by
  cases h : toInteger base negative ds with
  | ok n => exact .ok (isWord_of_toInteger h) left
  | error cause => exact .error _

theorem basedInteger_yields (base : Nat) (label : String) (rest : List Char) :
    Yields IsWord (basedInteger base label rest) :=
  .behind _ fun ds left => integer_done_yields base false ds left _

theorem integer_yields (rest : List Char) : Yields IsWord (integer rest) := by
  unfold integer
  split
  · exact basedInteger_yields 16 _ rest
  · exact basedInteger_yields 8 _ rest
  · exact basedInteger_yields 2 _ rest
  · exact .behind _ fun (negative, ds) left => integer_done_yields 10 negative ds left _

theorem integerItem_yields (rest : List Char) (place : List Char → Span) :
    Yields Item.Fits (andThen (integer rest) fun n left => .ok (.integer n (place left), left)) :=
  (integer_yields rest).andThen fun n left fits => .ok (a := Item.integer n (place left)) fits left

/-- Items of other kinds have no bounds to be kept. -/
theorem otherItem_yields {α : Type} (r : Outcome α) (make : α → List Char → Item)
    (free : ∀ a left, (make a left).Fits) : Yields Item.Fits (andThen r fun a left => .ok (make a left, left)) :=
  .behind r fun a left => .ok (free a left) left

theorem numeric_yields (rest : List Char) (place : List Char → Span) : Yields Item.Fits (numeric rest place) :=
  .orElse (otherItem_yields _ (fun _ left => .dateTime (place left)) fun _ _ => trivial)
    (.orElse (otherItem_yields _ (fun x left => .float x (place left)) fun _ _ => trivial)
      (integerItem_yields rest place))

/-- An item that is read fits. -/
theorem item_yields (levels : Nat) (rest : List Char) : Yields Item.Fits (item levels rest) := by
  have word (r : Outcome Unit) (make : List Char → Item) (free : ∀ left, (make left).Fits) :
      Yields Item.Fits (expectingString (andThen r fun _ left => .ok (make left, left))) :=
    (otherItem_yields r (fun _ left => make left) fun _ left => free left).expectingString
  cases levels with
  | zero => exact .error _
  | succ levels =>
    -- In the order of the reader: strings, arrays, tables, numbers, and the words of truth and infinity.
    unfold item
    split
    · exact .error _
    next c more =>
    dsimp only
    split
    · exact otherItem_yields _ (fun s left => .string (String.ofList s) _) fun _ _ => trivial
    split
    · split
      · exact .error _
      · exact otherItem_yields _ (fun items left => .array items _) fun _ _ => trivial
    split
    · split
      · exact .error _
      · exact otherItem_yields _ (fun members left => .table .braces members _) fun _ _ => trivial
    split
    · exact numeric_yields _ _
    split
    · exact (integerItem_yields _ _).expecting _
    split
    · exact (otherItem_yields _ (fun x left => .float x _) fun _ _ => trivial).expecting _
    split
    · exact word _ (fun left => .boolean true _) fun _ => trivial
    split
    · exact word _ (fun left => .boolean false _) fun _ => trivial
    split
    · exact word _ (fun left => .float _ _) fun _ => trivial
    split
    · exact word _ (fun left => .float _ _) fun _ => trivial
    · exact (Yields.error _).expectingString

/-! ## Statements -/

/-- The item of a statement fits. -/
def Statement.Fits : Statement → Prop
  | .item _ _ value _ => value.Fits
  | .header .. | .tablesHeader .. => True

theorem assignment_yields {value : List Char → Outcome Item} (h : ∀ rest, Yields Item.Fits (value rest))
    (rest : List Char) : Yields (fun pair => pair.2.Fits) (assignment value rest) :=
  .behind _ fun _ _ => .firmly (.behind _ fun _ left => (h (skipBlanks left)).map fun _ fits => fits)

theorem itemStatement_yields (rest : List Char) : Yields Statement.Fits (itemStatement rest) := by
  have value (rest : List Char) : Yields Item.Fits (andThen (item nestingLimit rest) fun value left =>
      mapOutcome (fun _ => value) (trailing left)) :=
    (item_yields nestingLimit rest).andThen fun _ _ fits => .behind _ fun _ left => .ok fits left
  exact (assignment_yields value rest).andThen fun ((path, key), value) left fits =>
    .ok (a := Statement.item path key value rest) fits left

theorem headerStatement_yields (rest : List Char) : Yields Statement.Fits (headerStatement rest) := by
  unfold headerStatement
  refine .labelled ?_ _
  split
  · exact .behind _ fun _ left => .ok trivial left
  · exact .behind _ fun _ left => .ok trivial left
  · exact .error _

/-- The statements behind a statement that fits fit too. -/
theorem continued_fit {next : List Char → List Statement × Option Refusal}
    (behind : ∀ rest, ∀ s ∈ (next rest).1, s.Fits) {r : Outcome Statement}
    (first : Yields Statement.Fits r) :
    ∀ s ∈ (match r with
      | .ok (s, left) =>
        let (more, refusal) := next left
        (s :: more, refusal)
      | .error e => ([], some e) : List Statement × Option Refusal).1, s.Fits := by
  rcases r with e | ⟨s, left⟩
  · exact fun s hs => absurd hs List.not_mem_nil
  · intro other hother
    rcases List.mem_cons.mp hother with rfl | hother
    · exact first other left rfl
    · exact behind left other hother

/-- All statements that are read fit. -/
theorem statements_fit (fuel : Nat) (rest : List Char) : ∀ s ∈ (statements fuel rest).1, s.Fits := by
  induction fuel generalizing rest with
  | zero => exact fun s hs => absurd hs List.not_mem_nil
  | succ fuel ih =>
    unfold statements
    dsimp only
    split
    · exact fun s hs => absurd hs List.not_mem_nil
    · split
      · exact ih _
      · exact fun s hs => absurd hs List.not_mem_nil
    · exact continued_fit ih (headerStatement_yields _)
    · exact ih _
    · split
      · exact ih _
      · exact fun s hs => absurd hs List.not_mem_nil
    · exact continued_fit ih (itemStatement_yields _)

/-! ## Tables -/

/-- The names of a table are distinct, and its integers are of 64 bits. -/
structure Members.Sound (members : Members) : Prop where
  distinct : (members.map (·.1.name)).Nodup
  fits : ∀ m ∈ members, m.2.Fits

namespace Members.Sound

variable {members : Members}

theorem nil : Sound [] := ⟨List.nodup_nil, fun _ h => absurd h List.not_mem_nil⟩

/-- A name that is not there is added. -/
theorem snoc (h : members.Sound) {key : Key} {item : Item} (new : members.find? key.name = none)
    (fits : item.Fits) : Sound (members ++ [(key, item)]) where
  distinct := by
    rw [List.map_append, List.map_cons, List.map_nil, List.nodup_append]
    refine ⟨h.distinct, List.pairwise_singleton _ _, ?_⟩
    intro name hname other hother same
    obtain ⟨m, hm, rfl⟩ := List.mem_map.mp hname
    rw [List.mem_singleton.mp hother] at same
    rw [Members.find?, Option.map_eq_none_iff, List.find?_eq_none] at new
    exact new m hm (by simpa using same)
  fits := by
    intro m hm
    rcases List.mem_append.mp hm with hm | hm
    · exact h.fits m hm
    · rw [List.mem_singleton.mp hm]
      exact fits

/-- The item of a name that is there is replaced. -/
theorem put (h : members.Sound) {key : Key} {item : Item} (there : (members.find? key.name).isSome)
    (fits : item.Fits) : Sound (members.put key item) := by
  rw [Members.find?, Option.isSome_map, List.find?_isSome] at there
  rw [Members.put, if_pos (List.any_eq_true.mpr there)]
  refine ⟨?_, ?_⟩
  · rw [List.map_map]
    have same : members.map
        ((fun m => m.1.name) ∘ fun m => if m.1.name = key.name then (m.1, item) else (m.1, m.2)) =
        members.map (·.1.name) := by
      refine List.map_congr_left fun m _ => ?_
      dsimp only [Function.comp_apply]
      split <;> rfl
    exact (congrArg List.Nodup same).mpr h.distinct
  · intro m hm
    obtain ⟨old, hold, rfl⟩ := List.mem_map.mp hm
    dsimp only
    split
    · exact fits
    · exact h.fits old hold

theorem remove (h : members.Sound) (name : String) : Sound (members.remove name) where
  distinct := h.distinct.sublist (List.filter_sublist.map _)
  fits := fun m hm => h.fits m (List.mem_filter.mp hm).1

theorem find?_remove (members : Members) (name : String) : (members.remove name).find? name = none := by
  rw [Members.find?, Option.map_eq_none_iff, List.find?_eq_none]
  intro m hm
  simpa using (List.mem_filter.mp hm).2

end Members.Sound

namespace Document

/-- A change that leaves a sound table sound. -/
def Keeps (change : Change) : Prop :=
  ∀ ⦃form members span members' span'⦄, change form members span = .ok (members', span') →
    members.Sound → members'.Sound

/-- Only the end of a path is changed; on the way to it a table takes the place of a table. -/
theorem within_keeps {change : Change} (h : Keeps change) (isDotted : Bool) (done path : List Key) :
    Keeps (within isDotted change done path) := by
  cases path with
  | nil => exact h
  | cons key path =>
    -- The name on the way is new, or is that of a table or of a list of tables; nothing else has an inside.
    intro form members span members' span' changed sound
    rw [within] at changed
    dsimp only at changed
    split at changed
    · next new =>
      obtain ⟨⟨inner, place⟩, -, given⟩ := Runs.except_bind_eq_ok.mp changed
      cases given
      exact sound.snoc new trivial
    · next there =>
      split at changed
      · cases changed
      split at changed
      · cases changed
      obtain ⟨⟨inner, place⟩, -, given⟩ := Runs.except_bind_eq_ok.mp changed
      cases given
      exact sound.put (by rw [there]; rfl) trivial
    · next there =>
      obtain ⟨⟨inner, place⟩, -, given⟩ := Runs.except_bind_eq_ok.mp changed
      cases given
      exact sound.put (by rw [there]; rfl) trivial
    · cases changed

theorem addItem_keeps (header : List Key) (isReached : Bool) (key : Key) {item : Item} (fits : item.Fits) :
    Keeps (addItem header isReached key item) := by
  intro form members span members' span' changed sound
  unfold addItem at changed
  split at changed
  · cases changed
  split at changed
  · cases changed
  next new =>
  cases changed
  exact sound.snoc (by simpa using new) fits

theorem openTable_keeps (path : List Key) (key : Key) (place : Span) : Keeps (openTable path key place) := by
  intro form members span members' span' changed sound
  unfold openTable at changed
  split at changed
  · next new =>
    cases changed
    exact sound.snoc new trivial
  · cases changed
    exact (sound.remove key.name).snoc (Members.Sound.find?_remove members key.name) trivial
  · cases changed

theorem openNext_keeps (path : List Key) (key : Key) (place : Span) : Keeps (openNext path key place) := by
  intro form members span members' span' changed sound
  unfold openNext at changed
  dsimp only at changed
  split at changed
  · next new =>
    cases changed
    exact sound.snoc new trivial
  · next there =>
    cases changed
    exact sound.put (by rw [there]; rfl) trivial
  · cases changed

theorem change_sound {p p' : Progress} {path : List Key} {change : Change} (h : Keeps change)
    (changed : p.change path change = .ok p') (sound : p.members.Sound) : p'.members.Sound := by
  obtain ⟨⟨members, span⟩, reached, given⟩ := Runs.except_bind_eq_ok.mp changed
  cases given
  exact within_keeps h false [] path reached sound

theorem assign_keeps (header path : List Key) (key : Key) {item : Item} (fits : item.Fits) :
    Keeps (assign header path key item) :=
  fun _ _ _ _ _ changed => within_keeps (addItem_keeps header (!path.isEmpty) key fits) true [] path changed

/-- A statement that is carried out leaves a sound table sound. -/
theorem step_sound {p p' : Progress} {s : Statement} (fits : s.Fits) (stepped : p.step s = .ok p')
    (sound : p.members.Sound) : p'.members.Sound := by
  cases s with
  | item path key value start => exact change_sound (assign_keeps p.header path key fits) stepped sound
  | header path key place start =>
    obtain ⟨q, changed, given⟩ := Runs.except_bind_eq_ok.mp stepped
    cases given
    have kept : q.members.Sound := change_sound (openTable_keeps path key place) changed sound
    exact kept
  | tablesHeader path key place start =>
    obtain ⟨q, changed, given⟩ := Runs.except_bind_eq_ok.mp stepped
    cases given
    have kept : q.members.Sound := change_sound (openNext_keeps path key place) changed sound
    exact kept

/-- Statements that are carried out leave a sound table sound. -/
theorem build_sound {read : List Statement} (fit : ∀ s ∈ read, s.Fits) {p p' : Progress}
    (built : build p read = .ok p') (sound : p.members.Sound) : p'.members.Sound := by
  induction read generalizing p with
  | nil =>
    cases built
    exact sound
  | cons s rest ih =>
    rw [build] at built
    split at built
    · next stepped =>
      exact ih (fun s hs => fit s (List.mem_cons_of_mem _ hs)) built
        (step_sound (fit s List.mem_cons_self) stepped sound)
    · cases built

/-- The item of a text is a table, whose names are distinct and whose integers are of 64 bits. -/
theorem parse_sound {text : String} {table : Item} (h : parse text = .ok table) :
    ∃ members span, table = .table .header members span ∧ Members.Sound members := by
  unfold parse at h
  dsimp only at h
  split at h
  · cases h
  · cases h
  · next p built _ =>
    cases h
    exact ⟨p.members, p.span, rfl, build_sound (statements_fit _ _) built Members.Sound.nil⟩

end Document

end Fixtures.Toml
