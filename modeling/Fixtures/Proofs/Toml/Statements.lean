import Fixtures.Proofs.Toml.Hushing
import Fixtures.Proofs.Toml.Strings

/-!
# Items and statements of two settings texts

Items of two texts that differ in a secret are the same but for their strings, and so are the statements that are
read up to the end or up to the same refusal.
-/

namespace Fixtures.Toml

open Text (isGuarded)
open Runs (except_mapError_eq_ok)

variable {a b : List Char}

/-! ## Comments and line ends -/

theorem skipComment_rests (h : Rests a b) : Rests (skipComment a) (skipComment b) := by
  obtain ⟨rfl, rfl⟩ | ⟨c, a, b, rfl, rfl, -, rest⟩ := h.cases
  · exact h
  · by_cases hash : c = '#'
    · subst hash
      exact (run_alike (fun c guarded => (plain_of_isGuarded guarded).1) (rest (by decide))).2
    · have eq (x : List Char) : skipComment (c :: x) = c :: x := by
        simp only [skipComment, List.cons.injEq, hash, false_and, imp_self, implies_true]
      rw [eq, eq]
      exact h

theorem lineEnd_alike (h : Rests a b) : Same (lineEnd a) (lineEnd b) := by
  have empty : a.isEmpty = b.isEmpty := by
    rw [Bool.eq_iff_iff, List.isEmpty_iff_length_eq_zero, List.isEmpty_iff_length_eq_zero, h.length_eq]
  unfold lineEnd
  obtain ⟨_, a', _, b', ha, hb, same, rest⟩ | ⟨e, f, ha, hb, -⟩ := (newline_alike h).cases <;> rw [ha, hb]
  · exact ⟨same, rest⟩
  · dsimp only
    rw [empty]
    split
    · exact ⟨rfl, .alike [], h.keys.suffix List.nil_suffix⟩
    · exact soft_alike h.length_eq

theorem trailing_alike (h : Rests a b) : Same (trailing a) (trailing b) :=
  ((lineEnd_alike (skipComment_rests (skipBlanks_rests h))).expecting _).expectingMark _

theorem skipSpace_alike (h : Rests a b) : Same (skipSpace a) (skipSpace b) := by
  -- The loop over lines: blanks, then a comment, a line break, or the end of the space.
  have lines (fuel : Nat) {a b : List Char} (h : Rests a b) : Same (skipLines fuel a) (skipLines fuel b) := by
    induction fuel generalizing a b with
    | zero => exact ⟨rfl, h⟩
    | succ fuel ih =>
      have next : ∀ a b : List Char, Rests a b →
          Same (andThen (newline a) fun _ rest => skipLines fuel rest)
            (andThen (newline b) fun _ rest => skipLines fuel rest) :=
        fun a b h => (newline_alike h).andThen fun _ _ _ _ _ _ _ rest => ih rest
      have blanks := skipBlanks_rests h
      rw [skipLines, skipLines]
      obtain ⟨ha, hb⟩ | ⟨c, a', b', ha, hb, -, rest⟩ := blanks.cases
      · rw [ha, hb] at blanks ⊢
        exact ⟨rfl, blanks⟩
      · rw [ha, hb] at blanks ⊢
        split
        · next e =>
          cases e
          exact next _ _ (skipComment_rests blanks)
        · next e =>
          cases e
          exact ih (rest (by decide))
        · next e =>
          cases e
          exact next _ _ blanks
        · next hash line back =>
          have hash : c ≠ '#' := by simpa using hash
          have line : c ≠ '\n' := by simpa using line
          have back : c ≠ '\r' := by simpa using back
          simp only [List.cons.injEq, hash, line, back, false_and, imp_self, implies_true]
          exact ⟨rfl, blanks⟩
  unfold skipSpace
  rw [h.length_eq]
  exact lines _ h

/-! ## Items with marks between them -/

/-- As many values, and related ones if what is left tells so. -/
def Listed {α β : Type} (C : List Char → Prop) (W : α → β → Prop) (vs : List α) (ws : List β) (left : List Char) :
    Prop := vs.length = ws.length ∧ (C left → List.Forall₂ W vs ws)

theorem separated_alike {α β : Type} {C : List Char → Prop} {W : α → β → Prop} {mark : Char} (free : mark ≠ '/')
    (marked : ∀ more, C (mark :: more)) {item : List Char → Outcome α} {item' : List Char → Outcome β}
    (one : ∀ {a b : List Char}, Rests a b → Alike Rests (fun v w left => C left → W v w) (item a) (item' b))
    (fuel : Nat) (h : Rests a b) :
    Alike Rests (Listed C W) (separated item mark fuel a) (separated item' mark fuel b) := by
  induction fuel generalizing a b with
  | zero => exact soft_alike h.length_eq
  | succ fuel ih =>
    refine (one h).andThen ?_
    intro v a w b _ _ value rest
    -- If what follows the mark is no item, the list ends before the mark, unless the refusal is firm.
    have single : Listed C W [v] [w] a := ⟨rfl, fun more => .cons (value more) .nil⟩
    obtain ⟨rfl, rfl⟩ | ⟨c, a, b, rfl, rfl, -, behind⟩ := rest.cases
    · exact ⟨single, rest⟩
    · dsimp only
      split
      · next same =>
        subst same
        obtain ⟨vs, a', ws, b', ha, hb, others, left⟩ | ⟨e, f, ha, hb, refusal⟩ := (ih (behind free)).cases <;>
          rw [ha, hb]
        · refine ⟨⟨congrArg (· + 1) others.1, fun more => ?_⟩, left⟩
          exact .cons (value (marked _)) (others.2 more)
        · dsimp only
          rw [refusal.firm_eq]
          split
          · exact refusal
          · exact ⟨single, rest⟩
      · exact ⟨single, rest⟩

/-! ## Dotted keys -/

theorem splitLast_isSome (keys : List Key) : (splitLast keys).isSome = !keys.isEmpty := by
  cases keys with
  | nil => rfl
  | cons key more =>
    rw [splitLast]
    split <;> rfl

theorem dottedKey_alike (h : Rests a b) :
    Alike Rests (fun v w left => EndsKey left → v = w) (dottedKey a) (dottedKey b) := by
  have part {a b : List Char} (h : Rests a b) :
      Alike Rests (fun k l left => EndsKey left → k = l)
        (andThen (simpleKey (skipBlanks a)) fun key rest => .ok (key, skipBlanks rest))
        (andThen (simpleKey (skipBlanks b)) fun key rest => .ok (key, skipBlanks rest)) :=
    (simpleKey_alike (skipBlanks_rests h)).andThen fun _ _ _ _ _ _ same rest => ⟨same, skipBlanks_rests rest⟩
  unfold dottedKey
  dsimp only
  have parts := separated_alike (by decide) (fun more => ⟨'.', by decide, rfl⟩) part (a.length + 1) h
  rw [h.length_eq] at parts ⊢
  refine (parts.labelled "key").andThen ?_
  intro keys left keys' left' _ _ listed rest
  rw [listed.1]
  split
  · exact because_alike _ h.length_eq
  -- The parts are as many in both texts, so both or neither have a last one.
  · have empty : keys.isEmpty = keys'.isEmpty := by
      rw [Bool.eq_iff_iff, List.isEmpty_iff_length_eq_zero, List.isEmpty_iff_length_eq_zero, listed.1]
    have some := splitLast_isSome keys
    rw [empty, ← splitLast_isSome] at some
    rcases hk : splitLast keys with _ | split <;> rcases hl : splitLast keys' with _ | split' <;> rw [hk, hl] at some
    · exact soft_alike h.length_eq
    · cases some
    · cases some
    · refine ⟨fun ends => ?_, rest⟩
      have same : keys = keys' := List.forall₂_eq_eq_eq ▸ listed.2 ends
      rw [same, hl] at hk
      exact (Option.some.inj hk).symm

/-! ## Items -/

/-- The same items but for their strings. -/
def SameButStrings (i j : Item) (_ : List Char) : Prop := i.hushed = j.hushed

/-- The same keys, with the same items but for their strings. -/
def SamePairs (p q : (List Key × Key) × Item) : Prop := p.1 = q.1 ∧ p.2.hushed = q.2.hushed

/-- A reader of items that reads both texts alike. -/
def ReadsItems (value : List Char → Outcome Item) : Prop :=
  ∀ {a b : List Char}, Rests a b → Alike Rests SameButStrings (value a) (value b)

variable {value : List Char → Outcome Item}

theorem assignment_alike (hvalue : ReadsItems value) (h : Rests a b) :
    Alike Rests (fun p q _ => SamePairs p q) (assignment value a) (assignment value b) := by
  refine (dottedKey_alike h).andThen ?_
  intro key left key' left' _ _ same rest
  refine Alike.firmly ((((mark_alike (by decide) rest).expectingMark ".").expectingMark "=").andThen ?_)
  intro _ more _ more' hmark _ _ rest
  have ends : EndsKey left := by
    rw [eq_cons_of_mark (except_mapError_eq_ok.mp (except_mapError_eq_ok.mp hmark))]
    exact ⟨'=', by decide, rfl⟩
  rw [same ends]
  exact (hvalue (skipBlanks_rests rest)).map fun _ _ _ value => ⟨rfl, value⟩

theorem hushedItems_congr {items items' : List Item} (h : List.Forall₂ (fun i j => i.hushed = j.hushed) items items') :
    hushedItems items = hushedItems items' := by
  induction h with
  | nil => rfl
  | cons first _ ih => rw [hushedItems, hushedItems, first, ih]

/-! ## Arrays -/

/-- An item of an array and the space around it. -/
def arrayItem (value : List Char → Outcome Item) (rest : List Char) : Outcome Item :=
  andThen (skipSpace rest) fun _ rest =>
    andThen (value rest) fun item rest => mapOutcome (fun _ => item) (skipSpace rest)

/-- What is left behind the comma that may follow the last item of an array. -/
def pastComma (items : List Item) (rest : List Char) : List Char :=
  match items, rest with
  | _ :: _, ',' :: more => more
  | _, rest => rest

/-- The items of an array up to its closing bracket. -/
def arrayItems (value : List Char → Outcome Item) (rest : List Char) : Outcome (List Item) :=
  match rest with
  | ']' :: _ => .ok ([], rest)
  | _ =>
    andThen (optionally (separated (arrayItem value) ',' (rest.length + 1)) rest) fun items rest =>
      mapOutcome (fun _ => items.getD []) (skipSpace (pastComma (items.getD []) rest))

theorem arrayBody_eq (value : List Char → Outcome Item) (rest : List Char) : arrayBody value rest =
    andThen (firmly (arrayItems value rest)) fun items rest =>
      mapOutcome (fun _ => items) (expectingMark "]" (labelled "array" (firmly (mark ']' rest)))) := rfl

theorem arrayItem_alike (hvalue : ReadsItems value) : ReadsItems (arrayItem value) := by
  intro a b h
  refine (skipSpace_alike h).andThen ?_
  rintro - a - b - - - rest
  refine (hvalue rest).andThen ?_
  intro item a item' b _ _ same rest
  exact (skipSpace_alike rest).map fun _ _ _ _ => same

theorem pastComma_rests {items items' : List Item} (same : items.length = items'.length) (h : Rests a b) :
    Rests (pastComma items a) (pastComma items' b) := by
  obtain ⟨rfl, rfl⟩ | ⟨c, a, b, rfl, rfl, -, rest⟩ := h.cases
  · cases items <;> cases items' <;> exact h
  · by_cases comma : c = ','
    · subst comma
      cases items <;> cases items'
      · exact h
      · cases same
      · cases same
      · exact rest (by decide)
    · have eq (items : List Item) (x : List Char) : pastComma items (c :: x) = c :: x := by
        unfold pastComma
        split
        · next e =>
          cases e
          exact absurd rfl comma
        · rfl
      rw [eq, eq]
      exact h

/-- The items of two arrays, strings apart. -/
def SameItems (items items' : List Item) (_ : List Char) : Prop := hushedItems items = hushedItems items'

theorem length_eq_of_hushedItems_eq {items items' : List Item} (h : hushedItems items = hushedItems items') :
    items.length = items'.length := by
  have lengths := congrArg List.length h
  rwa [hushedItems_eq, hushedItems_eq, List.length_map, List.length_map] at lengths

theorem arrayItems_alike (hvalue : ReadsItems value) (h : Rests a b) :
    Alike Rests SameItems (arrayItems value a) (arrayItems value b) := by
  have items : Alike Rests (fun items items' : Option (List Item) => SameItems (items.getD []) (items'.getD []))
      (optionally (separated (arrayItem value) ',' (a.length + 1)) a)
      (optionally (separated (arrayItem value) ',' (b.length + 1)) b) := by
    rw [h.length_eq]
    refine Alike.optionally_of (separated_alike (C := fun _ => True) (W := fun i j : Item => i.hushed = j.hushed)
      (by decide) (fun _ => trivial) ?_ _ h) h ?_ ?_
    · intro a b rest
      exact (arrayItem_alike hvalue rest).mono (fun _ _ _ same _ => same) fun _ _ rest => rest
    · exact fun _ _ _ listed => hushedItems_congr (listed.2 trivial)
    · exact fun _ => rfl
  have read : Alike Rests SameItems
      (andThen (optionally (separated (arrayItem value) ',' (a.length + 1)) a) fun items rest =>
        mapOutcome (fun _ => items.getD []) (skipSpace (pastComma (items.getD []) rest)))
      (andThen (optionally (separated (arrayItem value) ',' (b.length + 1)) b) fun items rest =>
        mapOutcome (fun _ => items.getD []) (skipSpace (pastComma (items.getD []) rest))) := by
    refine items.andThen ?_
    intro items a items' b _ _ same rest
    exact (skipSpace_alike (pastComma_rests (length_eq_of_hushedItems_eq same) rest)).map fun _ _ _ _ => same
  -- An array that is closed at once is not read as items. No secret holds its bracket.
  unfold arrayItems
  obtain ⟨rfl, rfl⟩ | ⟨c, a, b, rfl, rfl, -, -⟩ := h.cases
  · exact read
  · split
    · next e =>
      cases e
      exact ⟨rfl, h⟩
    · next other =>
      have other : c ≠ ']' := by simpa using other
      simp only [List.cons.injEq, other, false_and, imp_self, implies_true]
      exact read

theorem arrayBody_alike (hvalue : ReadsItems value) (h : Rests a b) :
    Alike Rests SameItems (arrayBody value a) (arrayBody value b) := by
  rw [arrayBody_eq, arrayBody_eq]
  refine (arrayItems_alike hvalue h).firmly.andThen ?_
  intro items a items' b _ _ same rest
  exact (((mark_alike (by decide) rest).firmly.labelled _).expectingMark _).map fun _ _ _ _ => same

/-! ## Tables between braces -/

/-- A key with its item in a table between braces. -/
def tablePair (value : List Char → Outcome Item) (rest : List Char) : Outcome ((List Key × Key) × Item) :=
  andThen (assignment value rest) fun pair rest => .ok (pair, skipBlanks rest)

/-- The members of a table between braces up to the closing brace. -/
def tableMembers (value : List Char → Outcome Item) (rest : List Char) : Outcome Members :=
  andThen (optionally (separated (tablePair value) ',' (rest.length + 1)) rest) fun pairs left =>
    match (pairs.getD []).foldlM addPair [] with
    | .ok members => .ok (members, skipBlanks left)
    | .error e => .error (.because e.message rest)

theorem tableBody_eq (value : List Char → Outcome Item) (rest : List Char) : tableBody value rest =
    andThen (firmly (tableMembers value rest)) fun members rest =>
      mapOutcome (fun _ => members)
        (expectingMark "\x7d" (labelled "inline table" (firmly (mark '\x7d' rest)))) := rfl

/-- The members of two tables, strings apart. -/
def SameMembers (members members' : Members) (_ : List Char) : Prop := hushedMembers members = hushedMembers members'

theorem hushedPairs_congr {pairs pairs' : List ((List Key × Key) × Item)} (h : List.Forall₂ SamePairs pairs pairs') :
    (pairs.map fun p => (p.1, p.2.hushed)) = pairs'.map fun p => (p.1, p.2.hushed) := by
  induction h with
  | nil => rfl
  | cons first _ ih => rw [List.map_cons, List.map_cons, first.1, first.2, ih]

theorem tableMembers_alike (hvalue : ReadsItems value) (h : Rests a b) :
    Alike Rests SameMembers (tableMembers value a) (tableMembers value b) := by
  have pairs : Alike Rests (fun pairs pairs' _ => List.Forall₂ SamePairs (pairs.getD []) (pairs'.getD []))
      (optionally (separated (tablePair value) ',' (a.length + 1)) a)
      (optionally (separated (tablePair value) ',' (b.length + 1)) b) := by
    rw [h.length_eq]
    refine Alike.optionally_of (separated_alike (C := fun _ => True) (W := SamePairs)
      (by decide) (fun _ => trivial) ?_ _ h) h ?_ ?_
    · intro a b rest
      exact (assignment_alike hvalue rest).andThen fun _ _ _ _ _ _ same rest => ⟨fun _ => same, skipBlanks_rests rest⟩
    · exact fun _ _ _ listed => listed.2 trivial
    · exact fun _ => .nil
  refine pairs.andThen ?_
  intro pairs left pairs' left' _ _ same rest
  have hushed := addPairs_hushed (pairs.getD []) []
  rw [hushedPairs_congr same, addPairs_hushed] at hushed
  rcases hp : (pairs.getD []).foldlM addPair [] with e | members <;>
    rcases hq : (pairs'.getD []).foldlM addPair [] with f | members' <;> rw [hp, hq] at hushed
  · cases hushed
    exact because_alike _ h.length_eq
  · cases hushed
  · cases hushed
  · exact ⟨(Except.ok.inj hushed).symm, skipBlanks_rests rest⟩

theorem tableBody_alike (hvalue : ReadsItems value) (h : Rests a b) :
    Alike Rests SameMembers (tableBody value a) (tableBody value b) := by
  rw [tableBody_eq, tableBody_eq]
  refine (tableMembers_alike hvalue h).firmly.andThen ?_
  intro members a members' b _ _ same rest
  exact (((mark_alike (by decide) rest).firmly.labelled _).expectingMark _).map fun _ _ _ _ => same

/-! ## Any item -/

/-- Values of both texts as items at the place where they were read. -/
theorem Alike.placed {α : Type} {V : α → α → List Char → Prop} {x y : Outcome α} (h : Alike Rests V x y)
    (start : a.length = b.length) (make : α → Span → Item)
    (same : ∀ v w left place, V v w left → (make v place).hushed = (make w place).hushed) :
    Alike Rests SameButStrings (Toml.andThen x fun v left => .ok (make v ⟨a.length, left.length⟩, left))
      (Toml.andThen y fun v left => .ok (make v ⟨b.length, left.length⟩, left)) := by
  refine h.andThen fun v left w left' _ _ value rest => ⟨?_, rest⟩
  rw [SameButStrings, start, rest.length_eq]
  exact same v w left _ value

theorem Alike.placed_same {α : Type} {x y : Outcome α} (h : Same x y) (start : a.length = b.length)
    (make : α → Span → Item) :
    Alike Rests SameButStrings (Toml.andThen x fun v left => .ok (make v ⟨a.length, left.length⟩, left))
      (Toml.andThen y fun v left => .ok (make v ⟨b.length, left.length⟩, left)) :=
  h.placed start make fun _ _ _ _ value => by rw [value]

theorem numeric_alike (h : Rests a b) : Alike Rests SameButStrings
    (numeric a fun left => ⟨a.length, left.length⟩) (numeric b fun left => ⟨b.length, left.length⟩) :=
  ((dateTime_alike h).placed_same h.length_eq fun _ => .dateTime).orElse <|
    ((float_alike h).placed_same h.length_eq .float).orElse <|
    (integer_alike h).placed_same h.length_eq .integer

theorem item_alike (levels : Nat) : ReadsItems (item levels) := by
  induction levels with
  | zero => exact fun h => Refusal.Alike.settled (because_alike _ h.length_eq)
  | succ levels ih =>
    intro a b h
    have length := h.length_eq
    have deep : Alike Rests SameButStrings
        (.error (Refusal.because Refusal.tooDeep a).settled : Outcome Item)
        (.error (Refusal.because Refusal.tooDeep b).settled : Outcome Item) :=
      Refusal.Alike.settled (because_alike _ length)
    obtain ⟨rfl, rfl⟩ | ⟨c, more, more', rfl, rfl, -, rest⟩ := h.cases
    · exact soft_alike rfl
    · rw [item, item]
      -- One case a kind of item, in the order of the reader.
      refine .ite (fun _ => ?string) fun _ => .ite (fun bracket => .ite (fun _ => deep) fun _ => ?array) fun _ =>
        .ite (fun brace => .ite (fun _ => deep) fun _ => ?table) fun _ => .ite (fun _ => numeric_alike h) fun _ =>
        .ite (fun _ => ?underscore) fun _ => .ite (fun _ => ?point) fun _ => .ite (fun _ => ?true) fun _ =>
        .ite (fun _ => ?false) fun _ => .ite (fun _ => ?infinity) fun _ => .ite (fun _ => ?noNumber) fun _ =>
        Alike.expectingString (soft_alike length)
      case string =>
        exact (string_alike h).placed length (fun s => .string (String.ofList s)) fun _ _ _ _ _ => rfl
      case array =>
        have inner := rest (by rw [bracket]; decide)
        exact (arrayBody_alike ih inner).placed length .array fun _ _ _ place same => congrArg (Item.array · place) same
      case table =>
        have inner := rest (by rw [brace]; decide)
        exact (tableBody_alike ih inner).placed length (fun members place => .table .braces members (some place))
          fun _ _ _ place same => congrArg (Item.table .braces · (some place)) same
      case underscore => exact ((integer_alike h).placed_same length .integer).expecting _
      case point => exact ((float_alike h).placed_same length .float).expecting _
      case true =>
        have read := (word_alike "true" (by decide) h).firmly
        exact (read.placed_same length fun _ => .boolean true).expectingString
      case false =>
        have read := (word_alike "false" (by decide) h).firmly
        exact (read.placed_same length fun _ => .boolean false).expectingString
      case infinity =>
        have read := word_alike "inf" (by decide) h
        exact (read.placed_same length fun _ => .float (1.0 / 0.0)).expectingString
      case noNumber =>
        have read := word_alike "nan" (by decide) h
        exact (read.placed_same length fun _ => .float (0.0 / 0.0)).expectingString

/-! ## Statements -/

/-- The same statements, strings apart. -/
def SameStatement (s t : Statement) (_ : List Char) : Prop := s.hushed = t.hushed

theorem itemStatement_alike (h : Rests a b) : Alike Rests SameStatement (itemStatement a) (itemStatement b) := by
  have line : ReadsItems fun rest =>
      andThen (item nestingLimit rest) fun value left => mapOutcome (fun _ => value) (trailing left) := by
    intro a b h
    refine (item_alike nestingLimit h).andThen fun value left value' left' _ _ same rest => ?_
    exact (trailing_alike rest).map fun _ _ _ _ => same
  refine (assignment_alike line h).andThen fun p left q left' _ _ same rest => ⟨?_, rest⟩
  show Statement.item p.1.1 p.1.2 p.2.hushed _ = Statement.item q.1.1 q.1.2 q.2.hushed _
  rw [same.1, same.2, h.length_eq]

theorem endsKey_of_closed {brackets : Nat} (positive : 0 < brackets) {left more : List Char}
    (h : exactly (List.replicate brackets ']') left = .ok ((), more)) : EndsKey left := by
  obtain ⟨n, rfl⟩ := Nat.exists_eq_add_of_lt positive
  unfold exactly at h
  split at h
  · next found =>
    obtain ⟨rest, rfl⟩ := List.isPrefixOf_iff_prefix.1 found
    exact ⟨']', by decide, by simp [List.replicate_succ]⟩
  · cases h

theorem bracketed_alike (brackets : Nat) (positive : 0 < brackets) (length : a.length = b.length)
    (h : Rests (a.drop brackets) (b.drop brackets)) : Same (bracketed brackets a) (bracketed brackets b) := by
  have free : '/' ∉ List.replicate brackets ']' := by simp [List.mem_replicate]
  unfold bracketed
  refine (dottedKey_alike h).firmly.andThen fun key left key' left' _ _ same rest => ?_
  refine (((exactly_alike free rest).firmly.expectingMark ".").expectingMark _).andThen ?_
  rintro _ more - more' hclosed - - behind
  have closed := except_mapError_eq_ok.mp (except_mapError_eq_ok.mp (except_mapError_eq_ok.mp hclosed))
  have ends := endsKey_of_closed positive closed
  refine (trailing_alike behind).firmly.map fun _ _ _ _ => ?_
  rw [same ends, length, behind.length_eq]

theorem headerStatement_alike (h : Rests ('[' :: a) ('[' :: b)) :
    Alike Rests SameStatement (headerStatement ('[' :: a)) (headerStatement ('[' :: b)) := by
  have length := h.length_eq
  have inner : Rests a b := h.behind (by decide)
  unfold headerStatement
  refine Alike.labelled _ ?_
  obtain ⟨rfl, rfl⟩ | ⟨c, more, more', rfl, rfl, -, rest⟩ := inner.cases
  · exact soft_alike rfl
  -- Two brackets announce a list of tables, one a table; what is between them is a key either way.
  · by_cases second : c = '['
    · subst second
      refine (bracketed_alike 2 (by decide) length (rest (by decide))).andThen ?_
      intro key left key' left' _ _ same rest
      refine ⟨?_, rest⟩
      subst same
      show Statement.tablesHeader _ _ _ _ = Statement.tablesHeader _ _ _ _
      rw [length]
    · have eq (x : List Char) : ('[' :: c :: x).take 2 = ['[', c] := rfl
      rw [eq, eq]
      simp only [second, imp_self]
      refine (bracketed_alike 1 (by decide) length inner).andThen ?_
      intro key left key' left' _ _ same rest
      refine ⟨?_, rest⟩
      subst same
      show Statement.header _ _ _ _ = Statement.header _ _ _ _
      rw [length]

/-- The same statements, strings apart, and no refusal or alike ones. -/
def SameStatements (x y : List Statement × Option Refusal) : Prop :=
  x.1.map Statement.hushed = y.1.map Statement.hushed ∧ Option.Rel Refusal.Alike x.2 y.2

/-- The statements behind a statement are the same if those behind its end are. -/
theorem continued_alike {k l : List Char → List Statement × Option Refusal}
    (next : ∀ {a b : List Char}, Rests a b → SameStatements (k a) (l b)) (x y : Outcome Statement) :
    Alike Rests SameStatement x y → SameStatements
      (match x with
        | .ok (s, left) =>
          let (more, refusal) := k left
          (s :: more, refusal)
        | .error e => ([], some e))
      (match y with
        | .ok (s, left) =>
          let (more, refusal) := l left
          (s :: more, refusal)
        | .error e => ([], some e)) := by
  intro alike
  obtain ⟨s, left, t, left', rfl, rfl, same, rest⟩ | ⟨e, f, rfl, rfl, refusal⟩ := alike.cases
  · have others := next rest
    refine ⟨?_, others.2⟩
    show s.hushed :: _ = t.hushed :: _
    rw [show s.hushed = t.hushed from same, others.1]
  · exact ⟨rfl, .some refusal⟩

/-- What stands between statements is passed over alike, whatever is made of a refusal. -/
theorem passed_alike {k l : List Char → List Statement × Option Refusal}
    (next : ∀ {a b : List Char}, Rests a b → SameStatements (k a) (l b)) (r q : Refusal → Refusal)
    (refused : ∀ {e f : Refusal}, e.Alike f → (r e).Alike (q f)) (x y : Outcome Unit) :
    Same x y → SameStatements
      (match x with
        | .ok ((), left) => k left
        | .error e => ([], some (r e)))
      (match y with
        | .ok ((), left) => l left
        | .error e => ([], some (q e))) := by
  intro alike
  obtain ⟨_, left, _, left', rfl, rfl, same, rest⟩ | ⟨e, f, rfl, rfl, refusal⟩ := alike.cases
  · exact next rest
  · exact ⟨rfl, .some (refused refusal)⟩

theorem statements_alike (fuel : Nat) (h : Rests a b) : SameStatements (statements fuel a) (statements fuel b) := by
  -- The first character says what a line is: a comment, a header, a line break or an item.
  induction fuel generalizing a b with
  | zero => exact ⟨rfl, .some (soft_alike h.length_eq)⟩
  | succ fuel ih =>
    have blanks := skipBlanks_rests h
    unfold statements
    dsimp only
    obtain ⟨ha, hb⟩ | ⟨c, a', b', ha, hb, -, rest⟩ := blanks.cases
    · rw [ha, hb]
      exact ⟨rfl, .none⟩
    · rw [ha, hb] at blanks ⊢
      split
      · next e => cases e
      · next e =>
        cases e
        exact passed_alike ih id id id _ _ (lineEnd_alike (skipComment_rests blanks))
      · next e =>
        cases e
        exact continued_alike ih _ _ (headerStatement_alike blanks)
      · next e =>
        cases e
        exact ih (rest (by decide))
      · next e =>
        cases e
        exact passed_alike ih _ _ (fun _ => soft_alike blanks.length_eq) _ _ (newline_alike blanks)
      · next empty hash bracket line back =>
        have hash : c ≠ '#' := by simpa using hash
        have bracket : c ≠ '[' := by simpa using bracket
        have line : c ≠ '\n' := by simpa using line
        have back : c ≠ '\r' := by simpa using back
        simp only [List.cons.injEq, hash, bracket, line, back, false_and, imp_self, implies_true]
        exact continued_alike ih _ _ (itemStatement_alike blanks)

end Fixtures.Toml
