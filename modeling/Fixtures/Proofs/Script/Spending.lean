import Fixtures.Proofs.Runs
import Fixtures.Proofs.Script.Faults
import Fixtures.Proofs.Script.Spelling
import Fixtures.Script.Chain

/-!
# Runs within the limit of operations

Each operation is counted, and the count never passes the limit: an operation too many is a fault instead. A part
of a run `Spends` if it never takes the count back or past the limit, and blames the limit only when the limit is
reached; it does not leave a loop or a function, and `onward` says whether it may go on to the next round of a
loop. A part `Costs` if, unless it ends with a fault, it has counted an operation at least.

## Main results

* `Spends.bind`, `Costs.bind`: one part after another. It is enough that the first one costs.
* `Run.spends_repeating`: a loop whose rounds cost ends before its fuel does.
* `Call.spends_call`, `Chain.spends_walk`: calls and walks, given how the bodies of functions are run.
-/

namespace Fixtures.Script

/-- A word other than those that leave a loop or a function, and the function that runs a text as a script. -/
def Unending (word : String) : Prop := word ≠ "break" ∧ word ≠ "return" ∧ word ≠ "eval"

/-- A state within the limit of operations, whose functions are spelled without the words that leave them. -/
structure Machine.Bounded (m : Machine) : Prop where
  operations : m.operations ≤ Run.operationLimit
  functions : ∀ f ∈ m.functions, f.Spelled Unending

/-- A signal that stays in its loop, raised after so many operations: `onward` says whether it may be the next round.
A fault of the limit is raised only when the limit is reached. -/
def Signal.Stays (onward : Prop) (operations : Nat) : Signal → Prop
  | fault f => f.cause = .tooManyOperations → operations = Run.operationLimit
  | next => onward
  | leave _ | give _ => False
  | exit _ => True

/-- A good value, or a signal that stays in its loop. -/
def Halts {α : Type} (onward : Prop) (good : α → Prop) (operations : Nat) : Except Signal α → Prop
  | .ok a => good a
  | .error signal => signal.Stays onward operations

/-- What a part of a run comes to from a state within the limit. -/
structure Spent {α : Type} (onward : Prop) (good : α → Prop) (m : Machine) (r : Except Signal α × Machine) :
    Prop where
  bounded : r.2.Bounded
  counted : m.operations ≤ r.2.operations
  halts : Halts onward good r.2.operations r.1

/-- A part of a run that stays within the limit of operations and within its loop. -/
def Spends {α : Type} (onward : Prop) (good : α → Prop) (run : Run α) : Prop :=
  ∀ m : Machine, m.Bounded → Spent onward good m (run m)

/-- A part whose value does not matter. -/
abbrev Advances {α : Type} (run : Run α) : Prop := Spends True (fun _ => True) run

/-- A part that has counted an operation, unless it ends with a fault. -/
structure Costs {α : Type} (run : Run α) : Prop where
  advances : Advances run
  gains : ∀ m : Machine, m.Bounded → (∀ f, (run m).1 ≠ .error (.fault f)) → m.operations < (run m).2.operations

/-! ## One part after another -/

section Combining

variable {α β : Type} {onward : Prop} {good : α → Prop} {fine : β → Prop} {run : Run α}

theorem Spent.trans {m m' : Machine} {r : Except Signal α × Machine} (h : Spent onward good m' r)
    (before : m.operations ≤ m'.operations) : Spent onward good m r :=
  ⟨h.bounded, Nat.le_trans before h.counted, h.halts⟩

theorem Spends.pure {a : α} (h : good a) : Spends onward good (pure a) := fun _ hm => ⟨hm, Nat.le_refl _, h⟩

theorem advances_pure (a : α) : Advances (pure a) := .pure trivial

theorem spends_fail {cause : Cause} (h : cause ≠ .tooManyOperations) (place : Place) :
    Spends onward good (Run.fail cause place) := fun _ hm => ⟨hm, Nat.le_refl _, fun same => absurd same h⟩

/-- The second part is run on what the first one gives, and a signal of the first is one of both. -/
theorem Spends.bind {next : α → Run β} (first : Spends onward good run)
    (second : ∀ a, good a → Spends onward fine (next a)) : Spends onward fine (run >>= next) := by
  intro m hm
  rw [Runs.bind_apply]
  obtain ⟨bounded, counted, halts⟩ := first m hm
  rcases hrun : run m with ⟨signal | a, m'⟩ <;> rw [hrun] at bounded counted halts
  · exact ⟨bounded, counted, halts⟩
  · exact (second a halts m' bounded).trans counted

/-- Nothing is run behind a fault. -/
theorem spends_fail_bind {cause : Cause} (h : cause ≠ .tooManyOperations) {place : Place} {next : α → Run β} :
    Spends onward fine (Run.fail cause place >>= next) :=
  (spends_fail h place : Spends onward (fun _ : α => False) _).bind fun _ never => never.elim

theorem Spends.mono {forth : Prop} {better : α → Prop} (h : Spends onward better run) (further : onward → forth)
    (weaker : ∀ a, better a → good a) : Spends forth good run := by
  intro m hm
  obtain ⟨bounded, counted, halts⟩ := h m hm
  refine ⟨bounded, counted, ?_⟩
  rcases hrun : run m with ⟨signal | a, m'⟩ <;> rw [hrun] at halts
  · cases signal with
    | next => exact further halts
    | fault _ | leave _ | give _ | exit _ => exact halts
  · exact weaker a halts

theorem spends_get : Spends onward Machine.Bounded get := fun _ hm => ⟨hm, Nat.le_refl _, hm⟩

theorem spends_modify {f : Machine → Machine} (operations : ∀ m, (f m).operations = m.operations)
    (functions : ∀ m, (f m).functions = m.functions) :
    Spends onward (fun _ => True) (modify f : Run PUnit) := by
  refine fun m hm => ⟨⟨?_, ?_⟩, Nat.le_of_eq (operations m).symm, trivial⟩
  · exact Nat.le_trans (Nat.le_of_eq (operations m)) hm.operations
  · exact fun g hg => hm.functions g (functions m ▸ hg)

/-- A handler is run where the part ended, and knows of a fault of the limit that the limit is reached. -/
theorem Spends.tryCatch {handle : Signal → Run α} (h : Spends onward good run)
    (hhandle : ∀ (signal : Signal) (m : Machine), m.Bounded → signal.Stays onward m.operations →
      Spent onward good m (handle signal m)) : Spends onward good (tryCatch run handle) := by
  intro m hm
  rw [Runs.tryCatch_apply]
  obtain ⟨bounded, counted, halts⟩ := h m hm
  rcases hrun : run m with ⟨signal | a, m'⟩ <;> rw [hrun] at bounded counted halts
  · exact (hhandle signal m' bounded halts).trans counted
  · exact ⟨bounded, counted, halts⟩

theorem advances_mapM {as : List α} {f : α → Run β} (h : ∀ a ∈ as, Advances (f a)) : Advances (as.mapM f) := by
  induction as with
  | nil => exact advances_pure _
  | cons a as ih =>
    rw [List.forall_mem_cons] at h
    rw [List.mapM_cons]
    exact h.1.bind fun b _ => (ih h.2).bind fun bs _ => advances_pure _

/-- What the first of two parts costs, both cost. -/
theorem Costs.bind {next : α → Run β} (first : Costs run) (second : ∀ a, Advances (next a)) :
    Costs (run >>= next) where
  advances := first.advances.bind fun a _ => second a
  gains := by
    intro m hm
    rw [Runs.bind_apply]
    have gained := first.gains m hm
    have bounded := (first.advances m hm).bounded
    rcases hrun : run m with ⟨signal | a, m'⟩ <;> rw [hrun] at gained bounded
    -- A signal of the first part is the signal of both, so it is no fault either.
    · exact fun faultless => gained fun f same => faultless f (congrArg Except.error (Except.error.inj same))
    · exact fun _ => Nat.lt_of_lt_of_le (gained fun f => nofun) (second a m' bounded).counted

end Combining

namespace Run

variable {α : Type} {onward : Prop} {good : α → Prop}

/-- An operation is counted, or it is the one too many. -/
theorem charge_apply (place : Place) (m : Machine) :
    charge place m = if operationLimit < m.operations + 1 then fail .tooManyOperations place m
      else (.ok (), { m with operations := m.operations + 1 }) := by
  show (if _ then _ else _ : Run Unit) m = _
  split <;> rfl

theorem spends_charge (place : Place) : Spends onward (fun _ => True) (charge place) := by
  intro m hm
  rw [charge_apply]
  split
  · next reached => exact ⟨hm, Nat.le_refl _, fun _ => Nat.le_antisymm hm.operations (Nat.lt_succ_iff.mp reached)⟩
  · next within => exact ⟨⟨Nat.not_lt.mp within, hm.functions⟩, Nat.le_succ _, trivial⟩

theorem costs_charge (place : Place) : Costs (charge place) where
  advances := spends_charge place
  gains := by
    intro m _
    rw [charge_apply]
    split
    · exact fun faultless => absurd rfl (faultless _)
    · exact fun _ => Nat.lt_succ_self _

theorem advances_chargeEach (places : List Place) : Advances (chargeEach places) := by
  induction places with
  | nil => exact advances_pure _
  | cons place rest ih => exact (spends_charge place).bind fun _ _ => ih

theorem advances_print (line : String) : Advances (print line) := spends_modify (fun _ => rfl) fun _ => rfl

theorem spends_draw {d : Random.Draw α} (h : ∀ g, good (d g).1) : Spends onward good (draw d) :=
  fun m hm => ⟨⟨hm.operations, hm.functions⟩, Nat.le_refl _, h m.generator⟩

theorem advances_ofOutcome {o : Except Cause α} (h : Ordinary o) (place : Place) : Advances (ofOutcome place o) := by
  cases o with
  | ok a => exact advances_pure a
  | error cause =>
    refine spends_fail ?_ place
    rintro rfl
    cases h

/-! ### Variables -/

theorem advances_slot? (name : String) : Advances (slot? name) := spends_get.bind fun _ _ => advances_pure _

theorem advances_follow (v : Value) : Advances (follow v) := by
  unfold follow
  split
  · exact spends_get.bind fun _ _ => advances_pure _
  · exact advances_pure _

theorem advances_read (name : String) (place : Place) : Advances (read name place) := by
  refine (advances_slot? name).bind fun slot? _ => ?_
  split
  · exact advances_follow _
  · exact spends_fail (by nofun) place

theorem advances_write (name : String) (value : Value) : Advances (write name value) := by
  refine (advances_slot? name).bind fun slot? _ => ?_
  split <;> exact spends_modify (fun _ => rfl) fun _ => rfl

theorem advances_define (name : String) (value : Value) (constant : Bool) : Advances (define name value constant) :=
  spends_modify (fun _ => rfl) fun _ => rfl

theorem advances_share (name : String) (place : Place) : Advances (share name place) := by
  refine (advances_slot? name).bind fun slot? _ => ?_
  split
  · exact spends_fail (by nofun) place
  · exact advances_pure _
  · refine spends_get.bind fun m _ => ?_
    exact Spends.bind (spends_modify (fun _ => rfl) fun _ => rfl) fun _ _ => advances_pure _

/-! ### Parts of a run -/

theorem spends_block {part : Run α} (h : Spends onward good part) : Spends onward good (block part) := by
  intro m hm
  obtain ⟨bounded, counted, halts⟩ := h m hm
  exact ⟨⟨bounded.operations, bounded.functions⟩, counted, halts⟩

theorem spends_locking {part : Run α} (h : Spends onward good part) (v : Value) :
    Spends onward good (locking v part) := by
  unfold locking
  split
  · next address =>
    intro m hm
    obtain ⟨bounded, counted, halts⟩ := h { m with locked := address :: m.locked } ⟨hm.operations, hm.functions⟩
    exact ⟨⟨bounded.operations, bounded.functions⟩, counted, halts⟩
  · exact h

theorem spends_frame {part : Run α} (h : Spends onward good part) (slots : List Slot) :
    Spends onward good (frame slots part) := by
  intro m hm
  have entered : Machine.Bounded { m with scope := slots, calls := m.calls + 1 } := ⟨hm.operations, hm.functions⟩
  obtain ⟨bounded, counted, halts⟩ := h _ entered
  exact ⟨⟨bounded.operations, bounded.functions⟩, counted, halts⟩

/-- A block costs what its statements cost. -/
theorem costs_block {part : Run α} (h : Costs part) : Costs (block part) := ⟨spends_block h.advances, h.gains⟩

/-! ### Loops -/

/-- A round goes on to the next one, for nothing in its body leaves the loop. -/
theorem spends_round {body : Run Value} (h : Advances body) : Spends onward (· = none) (round body) := by
  intro m hm
  obtain ⟨bounded, counted, halts⟩ := h m hm
  unfold Run.round
  rcases hrun : body m with ⟨signal | v, m'⟩ <;> rw [hrun] at bounded counted halts
  · cases signal with
    | next => exact ⟨bounded, counted, rfl⟩
    | fault f => exact ⟨bounded, counted, halts⟩
    | leave v => exact halts.elim
    | give v => exact halts.elim
    | exit v => exact ⟨bounded, counted, trivial⟩
  · exact ⟨bounded, counted, rfl⟩

/-- A round that goes on has counted what its body costs. -/
theorem gains_round {body : Run Value} (h : Costs body) {m m' : Machine} (hm : m.Bounded)
    (goesOn : round body m = (.ok none, m')) : m.operations < m'.operations := by
  have gained := h.gains m hm
  unfold Run.round at goesOn
  rcases hrun : body m with ⟨(_ | _ | _ | _ | _) | v, m'⟩ <;> rw [hrun] at gained goesOn <;> cases goesOn
  · exact gained fun _ => nofun
  · exact gained fun _ => nofun

/-- A loop each of whose rounds counts an operation ends before there were more rounds than operations, so it
never comes to its last resort. -/
theorem spends_repeating {step : Run (Option α)} (resort : Run α)
    (hstep : Spends onward (fun a? => ∀ a ∈ a?, good a) step)
    (gains : ∀ m m', m.Bounded → step m = (.ok none, m') → m.operations < m'.operations) {fuel : Nat} {m : Machine}
    (hm : m.Bounded) (enough : operationLimit < m.operations + fuel) :
    Spent onward good m (repeating step resort fuel m) := by
  -- Operations and fuel together stay above the limit, for a round that takes one off the fuel adds to the others.
  induction fuel generalizing m with
  | zero => exact absurd enough (Nat.not_lt.mpr hm.operations)
  | succ fuel ih =>
    obtain ⟨bounded, counted, halts⟩ := hstep m hm
    rw [Run.repeating]
    dsimp only
    rcases hrun : step m with ⟨signal | _ | a, m'⟩ <;> rw [hrun] at bounded counted halts
    · exact ⟨bounded, counted, halts⟩
    · have gained := gains m m' hm hrun
      have left : operationLimit < m'.operations + fuel := by omega
      exact (ih bounded left).trans counted
    · exact ⟨bounded, counted, halts a rfl⟩

end Run

/-! ## Calls -/

/-- A runner of functions that advances on bodies spelled without the words that leave them. -/
def AdvancesBodies (run : Body) : Prop := ∀ body : List Stmt, (∀ s ∈ body, s.Spelled Unending) → Advances (run body)

namespace Call

open Run (spends_charge)

variable {run : Body}

theorem spends_function? {onward : Prop} (name : String) (arity : Nat) :
    Spends onward (fun f? => ∀ f ∈ f?, f.Spelled Unending) (function? name arity) :=
  spends_get.bind fun _ hm => .pure fun f hf => hm.functions f (List.mem_of_find?_eq_some hf)

theorem cause_leaving (f : Fault) (function : String) (place : Place) : (f.leaving function place).cause = f.cause := by
  rw [Fault.leaving]
  split <;> rfl

theorem advances_returned {body : Run Value} (h : Advances body) (f : Function) (place : Place) :
    Advances (returned f place body) := by
  refine h.tryCatch fun signal m hm stays => ?_
  split
  · exact stays.elim
  · next fault => exact ⟨hm, Nat.le_refl _, fun same => stays ((cause_leaving fault _ _).symm.trans same)⟩
  · exact ⟨hm, Nat.le_refl _, stays⟩

theorem advances_enter (hrun : AdvancesBodies run) {f : Function} (hf : f.Spelled Unending) (this : Option Value)
    (args : List Value) (place : Place) : Advances (enter run f this args place) := by
  unfold enter
  split
  · exact advances_pure _
  refine (spends_charge place).bind fun _ _ => spends_get.bind fun m _ => ?_
  extract_lets inside
  have entered (u : Unit) : Advances (inside u) := by
    refine Run.spends_frame ?_ _
    refine (advances_returned (hrun f.body hf) f place).bind fun v _ => (Run.advances_follow v).bind fun v _ => ?_
    split
    · exact advances_pure _
    · exact (Run.advances_slot? thisName).bind fun slot? _ => advances_pure _
  split
  · exact spends_fail_bind (by nofun)
  · exact entered ()

theorem advances_ensureFree (name : String) (args : List Value) (byReference : Bool) :
    Advances (ensureFree name args byReference) := by
  refine spends_get.bind fun m _ => ?_
  dsimp only
  split
  · exact spends_fail (by nofun) _
  · exact advances_pure _

/-- Only a function of the library with its name ends the whole script. -/
theorem advances_plain (name : String) (args : List Value) (place : Place) : Advances (plain name args place) := by
  have ends {v : Value} : Advances (throw (.exit v) : Run Reply) := fun _ hm => ⟨hm, Nat.le_refl _, trivial⟩
  unfold plain
  split
  · exact (Run.advances_print _).bind fun _ _ => advances_pure _
  · exact (Run.advances_print _).bind fun _ _ => advances_pure _
  · exact (Run.advances_print _).bind fun _ _ => advances_pure _
  · exact ends
  · exact ends
  · extract_lets goOn
    have answered (draw? : Option (Random.Draw (Except Cause Value)))
        (h : ∀ draw ∈ draw?, Binding.OrdinaryDraw draw) : Advances (goOn draw?) := by
      dsimp only [goOn]
      split
      · next draw =>
        refine (Run.spends_draw (h draw rfl)).bind fun outcome ordinary => ?_
        exact (Run.advances_ofOutcome ordinary place).bind fun v _ => advances_pure _
      · split
        · next outcome found => exact Run.advances_ofOutcome (Library.ordinary_call? name args outcome found) place
        · exact spends_fail (by nofun) place
    split
    · exact spends_get.bind fun m _ => answered _ (Binding.ordinary_call? _ _ _ _)
    · exact answered none nofun

theorem advances_forItem (hrun : AdvancesBodies run) (name : String) (given : List Value) (item : Value)
    (index : Nat) (place : Place) : Advances (forItem run name given item index place) := by
  have value (reply : Reply) (_ : True) : Advances (pure reply.value) := advances_pure _
  unfold forItem
  refine (spends_function? name _).bind fun f? hf => ?_
  dsimp only
  -- The function takes the item as an argument, as the object, or with its position; else it is the library's.
  split
  · next f => exact (advances_enter hrun (hf f rfl) _ _ place).bind value
  refine (spends_function? name _).bind fun f? hf => ?_
  split
  · next f => exact (advances_enter hrun (hf f rfl) _ _ place).bind value
  refine (spends_function? name _).bind fun f? hf => ?_
  split
  · next f => exact (advances_enter hrun (hf f rfl) _ _ place).bind value
  · exact (spends_charge place).bind fun _ _ => (advances_plain name _ place).bind value

theorem advances_mapItems (hrun : AdvancesBodies run) (name : String) (given items : List Value) (place : Place)
    (index : Nat) : Advances (mapItems run name given place index items) := by
  induction items generalizing index with
  | nil => exact advances_pure _
  | cons item rest ih =>
    exact (advances_forItem hrun name given item index place).bind fun v _ => (ih _).bind fun vs _ => advances_pure _

theorem advances_filterItems (hrun : AdvancesBodies run) (name : String) (given items : List Value) (place : Place)
    (index : Nat) : Advances (filterItems run name given place index items) := by
  induction items generalizing index with
  | nil => exact advances_pure _
  | cons item rest ih =>
    exact (advances_forItem hrun name given item index place).bind fun v _ => (ih _).bind fun vs _ => advances_pure _

theorem advances_native (hrun : AdvancesBodies run) (name : String) (args : List Value) (place : Place) :
    Advances (native run name args place) := by
  refine (spends_charge place).bind fun _ _ => ?_
  split
  · exact (advances_mapItems hrun _ _ _ place 0).bind fun vs _ => advances_pure _
  · exact (advances_filterItems hrun _ _ _ place 0).bind fun vs _ => advances_pure _
  · exact advances_plain name args place

theorem advances_call (hrun : AdvancesBodies run) (method : Bool) (name : String) (args : List Value)
    (byReference : Bool) (place : Place) : Advances (call run method name args byReference place) := by
  refine (advances_ensureFree name args _).bind fun _ _ => ?_
  split
  · exact advances_pure _
  · split
    all_goals
      refine (spends_function? name _).bind fun f? hf => ?_
      split
      · next f => exact advances_enter hrun (hf f rfl) _ _ place
      · exact advances_native hrun name _ place

theorem advances_method (hrun : AdvancesBodies run) (name : String) (object : Value) (args : List Value)
    (argument place : Place) : Advances (method run name object args argument place) := by
  unfold method
  split
  · exact (advances_call hrun false _ _ false place).bind fun reply _ => advances_pure _
  · exact spends_fail (by nofun) _
  · exact advances_call hrun true _ _ true place
  · exact spends_fail (by nofun) _
  · exact advances_pure _
  · exact spends_fail (by nofun) _
  · split <;> exact advances_call hrun true _ _ true place
  · exact advances_call hrun true _ _ true place

end Call

/-! ## Chains -/

namespace Chain

open Run (spends_charge)

variable {run : Body}

theorem advances_binary (op : Operator) (a b : Value) (place : Place) : Advances (binary op a b place) := by
  unfold binary
  split
  · next o found => exact Run.advances_ofOutcome (Operation.ordinary_basic? op a b o found) place
  · refine (spends_charge place).bind fun _ _ => ?_
    split
    · exact advances_pure _
    · exact spends_fail (by nofun) _

theorem advances_signed (sign : Sign) (v : Value) (place : Place) : Advances (signed sign v place) := by
  unfold signed
  split
  · exact advances_pure _
  · refine (spends_charge place).bind fun _ _ => ?_
    split
    · next o found => exact Run.advances_ofOutcome (Operation.ordinary_signed? sign v o found) place
    · exact spends_fail (by nofun) _

theorem advances_assigned (a : Assignment) (old : Value) : Advances (assigned a old) := by
  unfold assigned
  split
  · exact advances_pure _
  · exact advances_pure _
  · exact advances_pure _
  · exact advances_binary _ _ _ _

theorem advances_ensureKind {α : Type} (wanted : String) (place : Place) (v : Value) (a? : Option α) :
    Advances (ensureKind wanted place v a?) := by
  unfold ensureKind
  split
  · exact advances_pure _
  · exact spends_fail (by nofun) _

theorem advances_assignChar (a : Assignment) (chars : List Char) (n : Nat) (c : Char) :
    Advances (assignChar a chars n c) :=
  (advances_assigned a _).bind fun _ _ => (advances_ensureKind _ _ _ _).bind fun _ _ => advances_pure _

theorem advances_assignBit (a : Assignment) (whole : Int64) (n : Nat) : Advances (assignBit a whole n) :=
  (advances_assigned a _).bind fun _ _ => (advances_ensureKind _ _ _ _).bind fun _ _ => advances_pure _

theorem advances_assignProperty (a : Assignment) (name : String) (v : Value) (place : Place) :
    Advances (assignProperty a name v place) := by
  unfold assignProperty
  split
  · exact spends_fail (by nofun) _
  · exact spends_fail (by nofun) _
  · exact (advances_assigned a _).bind fun _ _ => spends_fail (by nofun) _

theorem advances_walk (hrun : AdvancesBodies run) (a : Option Assignment) (steps : List Step) (v : Value) :
    Advances (walk run a steps v) := by
  induction steps generalizing v with
  | nil =>
    unfold walk
    split
    · exact advances_pure _
    · exact (advances_assigned _ v).bind fun w _ => advances_pure _
  | cons step rest ih =>
    unfold walk
    extract_lets last? member
    clear_value last?
    have valueOnly (p : Value) : Advances (do
        let reply ← walk run a rest p
        pure (⟨reply.value, none⟩ : Reply)) := (ih p).bind fun reply _ => advances_pure _
    have within (members : List (String × Value)) (name : String) : Advances (member members name) :=
      (spends_charge _).bind fun _ _ => (ih _).bind fun reply _ => advances_pure _
    have refused {cause : Cause} (h : cause ≠ .tooManyOperations) (place : Place) :
        Advances (Run.charge Place.nowhere >>= fun _ => (Run.fail cause place : Run Reply)) :=
      (spends_charge _).bind fun _ _ => spends_fail h place
    split
    · exact advances_pure _
    -- One case a kind of step: a property, a method, and an index by the kinds of value and index.
    split
    · split
      · exact within _ _
      · refine (spends_charge _).bind fun _ _ => ?_
        cases last? with
        | some new => exact advances_assignProperty new _ _ _
        | none =>
          dsimp only
          split
          · exact valueOnly _
          · exact spends_fail (by nofun) _
    · refine (Call.advances_method hrun _ v _ _ _).bind fun called _ => ?_
      exact (ih _).bind fun reply _ => advances_pure _
    · split
      · exact within _ _
      · exact refused (by nofun) _
      · refine (spends_charge _).bind fun _ _ => ?_
        split
        · exact spends_fail (by nofun) _
        · exact (ih _).bind fun reply _ => advances_pure _
      · exact refused (by nofun) _
      · refine (spends_charge _).bind fun _ _ => ?_
        dsimp only
        split
        · exact spends_fail (by nofun) _
        · cases last? with
          | some new => exact advances_assignChar new _ _ _
          | none => exact valueOnly _
      · exact (spends_charge _).bind fun _ _ => valueOnly _
      · exact refused (by nofun) _
      · refine (spends_charge _).bind fun _ _ => ?_
        split
        · exact spends_fail (by nofun) _
        · cases last? with
          | some new => exact advances_assignBit new _ _
          | none => exact valueOnly _
      · exact refused (by nofun) _
      · exact refused (by nofun) _

end Chain

end Fixtures.Script
