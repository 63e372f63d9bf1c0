import Fixtures.Proofs.Runs
import Fixtures.Proofs.Script.Spelling
import Fixtures.Script.Chain

/-!
# Runs that cannot reach the random stream

Only a call of a topic draws from the random stream, and topics are properties of the binding. A machine is
sealed if no value in it is a fake value, apart from the variables with the name of the binding, and if its
functions neither read that name nor call `eval`. A part of a run `Keeps` the seal if from sealed machines it
reaches sealed machines that stand at the same place of the random stream.

## Main results

* `Keeps.bind`: the second of two parts is run on what the first one gives.
* `Call.keeps_call`: a call with harmless arguments keeps the seal.
* `Chain.keeps_walk`: so does a walk from a harmless value along harmless steps.
-/

namespace Fixtures.Script

/-- A word other than the name of the binding and the function that runs a text as a script. -/
def Unbound (word : String) : Prop := word ≠ Binding.name ∧ word ≠ "eval"

/-- A state that holds no fake value but under the name of the binding, and no function that could ask for it. -/
structure Machine.Sealed (m : Machine) : Prop where
  scope : ∀ slot ∈ m.scope, slot.name ≠ Binding.name → slot.value.Harmless
  cells : ∀ v ∈ m.cells, v.Harmless
  functions : ∀ f ∈ m.functions, f.Spelled Unbound

/-- A signal that carries no fake value. -/
def Signal.Harmless : Signal → Prop
  | fault f => f.cause.Harmless
  | next => True
  | leave v | give v | exit v => v.Harmless

/-- A good value, or a harmless signal. -/
def Ends {α : Type} (good : α → Prop) : Except Signal α → Prop
  | .ok a => good a
  | .error signal => signal.Harmless

/-- What a part of a run comes to from a sealed machine. -/
structure Kept {α : Type} (good : α → Prop) (m : Machine) (r : Except Signal α × Machine) : Prop where
  outcome : Ends good r.1
  sealed : r.2.Sealed
  generator : r.2.generator = m.generator

/-- A part of a run that keeps machines sealed, does not draw from the random stream, and gives good values. -/
def Keeps {α : Type} (good : α → Prop) (run : Run α) : Prop := ∀ m : Machine, m.Sealed → Kept good m (run m)

/-! ## One part after another -/

section Combining

variable {α β : Type} {good : α → Prop} {fine : β → Prop} {run : Run α}

theorem Keeps.pure {a : α} (h : good a) : Keeps good (pure a) := fun _ hm => ⟨h, hm, rfl⟩

theorem keeps_throw {signal : Signal} (h : signal.Harmless) : Keeps good (throw signal) := fun _ hm => ⟨h, hm, rfl⟩

theorem keeps_fail {cause : Cause} {place : Place} (h : cause.Harmless) : Keeps good (Run.fail cause place) :=
  keeps_throw h

/-- The second part is run on what the first one gives, and a signal of the first is one of both. -/
theorem Keeps.bind {next : α → Run β} (first : Keeps good run) (second : ∀ a, good a → Keeps fine (next a)) :
    Keeps fine (run >>= next) := by
  intro m hm
  rw [Runs.bind_apply]
  obtain ⟨outcome, sealed, generator⟩ := first m hm
  rcases hrun : run m with ⟨signal | a, m'⟩ <;> rw [hrun] at outcome sealed generator
  · exact ⟨outcome, sealed, generator⟩
  · have then' := second a outcome m' sealed
    exact ⟨then'.outcome, then'.sealed, then'.generator.trans generator⟩

/-- Nothing is run behind a fault. -/
theorem keeps_fail_bind {cause : Cause} {place : Place} {next : α → Run β} (h : cause.Harmless) :
    Keeps fine (Run.fail cause place >>= next) :=
  (keeps_fail h : Keeps (fun _ : α => False) _).bind fun _ never => never.elim

theorem keeps_get : Keeps Machine.Sealed get := fun _ hm => ⟨hm, hm, rfl⟩

theorem keeps_modify {f : Machine → Machine} (h : ∀ m : Machine, m.Sealed → (f m).Sealed)
    (same : ∀ m, (f m).generator = m.generator) : Keeps (fun _ => True) (modify f : Run PUnit) :=
  fun m hm => ⟨trivial, h m hm, same m⟩

/-- A handler is run on a harmless signal. -/
theorem Keeps.tryCatch {handle : Signal → Run α} (h : Keeps good run)
    (hhandle : ∀ signal : Signal, signal.Harmless → Keeps good (handle signal)) : Keeps good (tryCatch run handle) := by
  intro m hm
  rw [Runs.tryCatch_apply]
  obtain ⟨outcome, sealed, generator⟩ := h m hm
  rcases hrun : run m with ⟨signal | a, m'⟩ <;> rw [hrun] at outcome sealed generator
  · have handled := hhandle signal outcome m' sealed
    exact ⟨handled.outcome, handled.sealed, handled.generator.trans generator⟩
  · exact ⟨outcome, sealed, generator⟩

theorem keeps_mapM {as : List α} {f : α → Run β} (h : ∀ a ∈ as, Keeps fine (f a)) :
    Keeps (fun bs => ∀ b ∈ bs, fine b) (as.mapM f) := by
  induction as with
  | nil => exact .pure (List.forall_mem_nil _)
  | cons a as ih =>
    rw [List.forall_mem_cons] at h
    rw [List.mapM_cons]
    exact h.1.bind fun b hb => (ih h.2).bind fun bs hbs => .pure (List.forall_mem_cons.mpr ⟨hb, hbs⟩)

end Combining

namespace Run

variable {α : Type} {good : α → Prop}

/-- A part whose value does not matter. -/
abbrev KeepsOn {α : Type} (run : Run α) : Prop := Keeps (fun _ => True) run

theorem keeps_charge (place : Place) : KeepsOn (charge place) := by
  intro m hm
  have counted : charge place m =
      if operationLimit < m.operations + 1 then fail .tooManyOperations place m
      else (.ok (), { m with operations := m.operations + 1 }) := by
    show (if _ then _ else _ : Run Unit) m = _
    split <;> rfl
  rw [counted]
  split
  · exact ⟨trivial, hm, rfl⟩
  · exact ⟨trivial, ⟨hm.scope, hm.cells, hm.functions⟩, rfl⟩

theorem keeps_chargeEach (places : List Place) : KeepsOn (chargeEach places) := by
  induction places with
  | nil => exact .pure trivial
  | cons place rest ih => exact (keeps_charge place).bind fun _ _ => ih

theorem keeps_print (line : String) : KeepsOn (print line) :=
  keeps_modify (fun _ hm => ⟨hm.scope, hm.cells, hm.functions⟩) fun _ => rfl

theorem keeps_ofOutcome {o : Except Cause α} {place : Place} (hok : ∀ a, o = .ok a → good a)
    (herror : ∀ c, o = .error c → c.Harmless) : Keeps good (ofOutcome place o) := by
  cases o with
  | ok a => exact .pure (hok a rfl)
  | error c => exact keeps_fail (herror c rfl)

/-! ### Variables -/

theorem keeps_slot? (name : String) :
    Keeps (fun slot? => name ≠ Binding.name → ∀ slot ∈ slot?, slot.value.Harmless) (slot? name) := by
  refine keeps_get.bind fun m hm => .pure fun free slot hslot => ?_
  have named : slot.name = name := by simpa using List.find?_some hslot
  exact hm.scope slot (List.mem_of_find?_eq_some hslot) (named ▸ free)

theorem keeps_follow {v : Value} (h : v.Harmless) : Keeps Value.Harmless (follow v) := by
  unfold follow
  split
  · refine keeps_get.bind fun m hm => .pure (harmless_getD fun v hv => ?_)
    exact hm.cells v (Array.mem_of_getElem? hv)
  · exact .pure h

theorem keeps_read {name : String} (free : name ≠ Binding.name) (place : Place) :
    Keeps Value.Harmless (read name place) := by
  refine (keeps_slot? name).bind fun slot? h => ?_
  split
  · next slot => exact keeps_follow (h free slot rfl)
  · exact keeps_fail trivial

theorem harmless_writeSlots {slots : List Slot} (h : ∀ slot ∈ slots, slot.name ≠ Binding.name → slot.value.Harmless)
    (name : String) {value : Value} (hvalue : value.Harmless) :
    ∀ slot ∈ writeSlots name value slots, slot.name ≠ Binding.name → slot.value.Harmless := by
  induction slots with
  | nil => exact List.forall_mem_nil _
  | cons slot rest ih =>
    rw [List.forall_mem_cons] at h
    rw [writeSlots]
    split
    · exact List.forall_mem_cons.mpr ⟨fun _ => hvalue, h.2⟩
    · exact List.forall_mem_cons.mpr ⟨h.1, ih h.2⟩

theorem keeps_write (name : String) {value : Value} (h : value.Harmless) : KeepsOn (write name value) := by
  refine (keeps_slot? name).bind fun slot? _ => ?_
  split
  · refine keeps_modify (fun m hm => ⟨hm.scope, fun v hv => ?_, hm.functions⟩) fun _ => rfl
    rcases Array.mem_or_eq_of_mem_setIfInBounds hv with old | rfl
    · exact hm.cells v old
    · exact h
  · exact keeps_modify (fun m hm => ⟨harmless_writeSlots hm.scope name h, hm.cells, hm.functions⟩) fun _ => rfl

theorem keeps_define (name : String) {value : Value} (h : value.Harmless) (constant : Bool) :
    KeepsOn (define name value constant) :=
  keeps_modify (fun _ hm => ⟨List.forall_mem_cons.mpr ⟨fun _ => h, hm.scope⟩, hm.cells, hm.functions⟩) fun _ => rfl

theorem keeps_share {name : String} (free : name ≠ Binding.name) (place : Place) :
    Keeps Value.Harmless (share name place) := by
  refine (keeps_slot? name).bind fun slot? h => ?_
  split
  · exact keeps_fail trivial
  · exact .pure trivial
  · next slot _ =>
    refine keeps_get.bind fun m _ => ?_
    dsimp only
    refine Keeps.bind (keeps_modify (fun m hm => ?_) ?_) fun _ _ => .pure (Value.harmless_cell _)
    · refine ⟨harmless_writeSlots hm.scope name trivial, fun v hv => ?_, hm.functions⟩
      rcases Array.mem_push.mp hv with old | rfl
      · exact hm.cells v old
      · exact h free slot rfl
    · exact fun _ => rfl

/-! ### Parts of a run -/

theorem keeps_block {part : Run α} (h : Keeps good part) : Keeps good (block part) := by
  intro m hm
  obtain ⟨outcome, sealed, generator⟩ := h m hm
  exact ⟨outcome, ⟨fun slot hslot => sealed.scope slot (List.mem_of_mem_drop hslot), sealed.cells,
    sealed.functions⟩, generator⟩

theorem keeps_locking {part : Run α} (h : Keeps good part) (v : Value) : Keeps good (locking v part) := by
  unfold Run.locking
  split
  · next address =>
    intro m hm
    have locked : Machine.Sealed { m with locked := address :: m.locked } := ⟨hm.scope, hm.cells, hm.functions⟩
    obtain ⟨outcome, sealed, generator⟩ := h _ locked
    exact ⟨outcome, ⟨sealed.scope, sealed.cells, sealed.functions⟩, generator⟩
  · exact h

/-- The variables of a function are its own, and those of its caller come back. -/
theorem keeps_frame {part : Run α} (h : Keeps good part) {slots : List Slot}
    (hslots : ∀ slot ∈ slots, slot.value.Harmless) : Keeps good (frame slots part) := by
  intro m hm
  have entered : Machine.Sealed { m with scope := slots, calls := m.calls + 1 } :=
    ⟨fun slot hslot _ => hslots slot hslot, hm.cells, hm.functions⟩
  obtain ⟨outcome, sealed, generator⟩ := h _ entered
  exact ⟨outcome, ⟨hm.scope, sealed.cells, sealed.functions⟩, generator⟩

/-- A loop keeps what each of its rounds keeps. -/
theorem keeps_repeating {step : Run (Option α)} {resort : Run α}
    (hstep : Keeps (fun a? => ∀ a ∈ a?, good a) step) (hresort : Keeps good resort) (fuel : Nat) :
    Keeps good (repeating step resort fuel) := by
  induction fuel with
  | zero => exact hresort
  | succ fuel ih =>
    intro m hm
    obtain ⟨outcome, sealed, generator⟩ := hstep m hm
    rw [Run.repeating]
    dsimp only
    rcases hrun : step m with ⟨signal | _ | a, m'⟩ <;> rw [hrun] at outcome sealed generator
    · exact ⟨outcome, sealed, generator⟩
    · obtain ⟨outcome', sealed', generator'⟩ := ih m' sealed
      exact ⟨outcome', sealed', generator'.trans generator⟩
    · exact ⟨outcome a rfl, sealed, generator⟩

theorem keeps_round {body : Run Value} (h : Keeps Value.Harmless body) :
    Keeps (fun v? => ∀ v ∈ v?, v.Harmless) (round body) := by
  intro m hm
  obtain ⟨outcome, sealed, generator⟩ := h m hm
  unfold Run.round
  rcases hrun : body m with ⟨signal | v, m'⟩ <;> rw [hrun] at outcome sealed generator
  · cases signal with
    | next => exact ⟨by simp [Ends], sealed, generator⟩
    | leave v =>
      refine ⟨?_, sealed, generator⟩
      rintro _ ⟨⟩
      exact outcome
    | fault f => exact ⟨outcome, sealed, generator⟩
    | give v => exact ⟨outcome, sealed, generator⟩
    | exit v => exact ⟨outcome, sealed, generator⟩
  · exact ⟨by simp [Ends], sealed, generator⟩

end Run

/-! ## Calls -/

/-- A runner of functions that keeps the seal on bodies that neither name the binding nor call `eval`. -/
def KeepsBodies (run : Body) : Prop :=
  ∀ body : List Stmt, (∀ s ∈ body, s.Spelled Unbound) → Keeps Value.Harmless (run body)

namespace Call

open Run (KeepsOn keeps_charge)

variable {run : Body}

theorem keeps_function? (name : String) (arity : Nat) :
    Keeps (fun f? => ∀ f ∈ f?, f.Spelled Unbound) (function? name arity) :=
  keeps_get.bind fun _ hm => .pure fun f hf => hm.functions f (List.mem_of_find?_eq_some hf)

theorem harmless_slots (f : Function) {this : Option Value} {args : List Value} (hthis : ∀ v ∈ this, v.Harmless)
    (hargs : ∀ v ∈ args, v.Harmless) : ∀ slot ∈ slots f this args, slot.value.Harmless := by
  unfold slots
  rw [List.forall_mem_append]
  refine ⟨fun slot hslot => ?_, ?_⟩
  · obtain ⟨pair, hpair, rfl⟩ := List.mem_map.mp (List.mem_reverse.mp hslot)
    exact hargs _ (List.of_mem_zip hpair).2
  · split
    · next v => exact List.forall_mem_singleton.mpr (hthis v rfl)
    · exact List.forall_mem_nil _

theorem keeps_returned {body : Run Value} (h : Keeps Value.Harmless body) (f : Function) (place : Place) :
    Keeps Value.Harmless (returned f place body) := by
  refine h.tryCatch fun signal hsignal => ?_
  split
  · exact .pure hsignal
  · next fault => exact keeps_throw (Fault.harmless_leaving hsignal)
  · exact keeps_throw hsignal

theorem keeps_enter (hrun : KeepsBodies run) {f : Function} (hf : f.Spelled Unbound) {this : Option Value}
    {args : List Value} (hthis : ∀ v ∈ this, v.Harmless) (hargs : ∀ v ∈ args, v.Harmless) (place : Place) :
    Keeps HarmlessReply (enter run f this args place) := by
  unfold enter
  split
  · exact .pure ⟨trivial, by simp⟩
  refine (keeps_charge place).bind fun _ _ => keeps_get.bind fun m _ => ?_
  extract_lets inside
  have entered (u : Unit) : Keeps HarmlessReply (inside u) := by
    refine Run.keeps_frame ?_ (harmless_slots f hthis hargs)
    refine (keeps_returned (hrun f.body hf) f place).bind fun v hv => (Run.keeps_follow hv).bind fun v hv => ?_
    split
    · exact .pure ⟨hv, by simp⟩
    · refine (Run.keeps_slot? thisName).bind fun slot? hslot => .pure ⟨hv, fun w hw => ?_⟩
      obtain ⟨slot, found, rfl⟩ := Option.map_eq_some_iff.mp hw
      exact hslot (by decide) slot found
  split
  · exact keeps_fail_bind trivial
  · exact entered ()

theorem keeps_ensureFree (name : String) (args : List Value) (byReference : Bool) :
    KeepsOn (ensureFree name args byReference) := by
  refine keeps_get.bind fun m _ => ?_
  dsimp only
  split
  · exact keeps_fail trivial
  · exact .pure trivial

/-- A function of the library is given no topic, so it is none of the fake values' functions. -/
theorem keeps_plain (name : String) {args : List Value} (h : ∀ v ∈ args, v.Harmless) (place : Place) :
    Keeps HarmlessReply (plain name args place) := by
  have silent : HarmlessReply { value := .unit } := ⟨trivial, by simp⟩
  unfold plain
  split
  · exact (Run.keeps_print _).bind fun _ _ => .pure silent
  · exact (Run.keeps_print _).bind fun _ _ => .pure silent
  · exact (Run.keeps_print _).bind fun _ _ => .pure silent
  · exact keeps_throw trivial
  · next v => exact keeps_throw (h v List.mem_cons_self)
  · extract_lets goOn
    split
    · exact absurd (h _ List.mem_cons_self) (Value.not_harmless_topic _)
    · have fair := Library.fair_call? name h
      rw [pure_bind]
      dsimp only [goOn]
      split
      · next outcome found =>
        rw [found] at fair
        refine Run.keeps_ofOutcome ?_ ?_
        · rintro reply rfl
          exact fair
        · rintro cause rfl
          exact fair
      · exact keeps_fail trivial

theorem keeps_forItem (hrun : KeepsBodies run) (name : String) {given : List Value} {item : Value}
    (hgiven : ∀ v ∈ given, v.Harmless) (hitem : item.Harmless) (index : Nat) (place : Place) :
    Keeps Value.Harmless (forItem run name given item index place) := by
  have args {more : List Value} (hmore : ∀ v ∈ more, v.Harmless) : ∀ v ∈ given ++ more, v.Harmless :=
    List.forall_mem_append.mpr ⟨hgiven, hmore⟩
  have value (reply : Reply) (h : HarmlessReply reply) : Keeps Value.Harmless (pure reply.value) := .pure h.value
  unfold forItem
  refine (keeps_function? name _).bind fun f? hf => ?_
  dsimp only
  -- The function takes the item as an argument, as the object, or with its position; else it is the library's.
  split
  · next f => exact (keeps_enter hrun (hf f rfl) (by simp) (args (by simpa using hitem)) place).bind value
  refine (keeps_function? name _).bind fun f? hf => ?_
  split
  · next f => exact (keeps_enter hrun (hf f rfl) (by simpa using hitem) hgiven place).bind value
  refine (keeps_function? name _).bind fun f? hf => ?_
  split
  · next f => exact (keeps_enter hrun (hf f rfl) (by simp) (args (by simpa using hitem)) place).bind value
  · exact (keeps_charge place).bind fun _ _ => (keeps_plain name (args (by simpa using hitem)) place).bind value

theorem keeps_mapItems (hrun : KeepsBodies run) (name : String) {given items : List Value}
    (hgiven : ∀ v ∈ given, v.Harmless) (hitems : ∀ v ∈ items, v.Harmless) (place : Place) (index : Nat) :
    Keeps (fun vs => ∀ v ∈ vs, v.Harmless) (mapItems run name given place index items) := by
  induction items generalizing index with
  | nil => exact .pure (List.forall_mem_nil _)
  | cons item rest ih =>
    rw [List.forall_mem_cons] at hitems
    refine (keeps_forItem hrun name hgiven hitems.1 index place).bind fun v hv => ?_
    exact (ih hitems.2 _).bind fun vs hvs => .pure (List.forall_mem_cons.mpr ⟨hv, hvs⟩)

theorem keeps_filterItems (hrun : KeepsBodies run) (name : String) {given items : List Value}
    (hgiven : ∀ v ∈ given, v.Harmless) (hitems : ∀ v ∈ items, v.Harmless) (place : Place) (index : Nat) :
    Keeps (fun vs => ∀ v ∈ vs, v.Harmless) (filterItems run name given place index items) := by
  induction items generalizing index with
  | nil => exact .pure (List.forall_mem_nil _)
  | cons item rest ih =>
    rw [List.forall_mem_cons] at hitems
    refine (keeps_forItem hrun name hgiven hitems.1 index place).bind fun v _ => ?_
    refine (ih hitems.2 _).bind fun kept hkept => .pure ?_
    split
    · exact List.forall_mem_cons.mpr ⟨hitems.1, hkept⟩
    · exact hkept

theorem keeps_native (hrun : KeepsBodies run) (name : String) {args : List Value} (h : ∀ v ∈ args, v.Harmless)
    (place : Place) : Keeps HarmlessReply (native run name args place) := by
  refine (keeps_charge place).bind fun _ _ => ?_
  split
  · next items f given =>
    have hitems := Value.harmless_array.mp (h (.array items) List.mem_cons_self)
    have hgiven := Value.harmless_function.mp (h (.function f given) (List.mem_cons_of_mem _ List.mem_cons_self))
    refine (keeps_mapItems hrun f hgiven hitems place 0).bind fun vs hvs => .pure ⟨?_, by simp⟩
    exact Value.harmless_array.mpr hvs
  · next items f given =>
    have hitems := Value.harmless_array.mp (h (.array items) List.mem_cons_self)
    have hgiven := Value.harmless_function.mp (h (.function f given) (List.mem_cons_of_mem _ List.mem_cons_self))
    refine (keeps_filterItems hrun f hgiven hitems place 0).bind fun vs hvs => .pure ⟨?_, by simp⟩
    exact Value.harmless_array.mpr hvs
  · exact keeps_plain name h place

theorem keeps_call (hrun : KeepsBodies run) (method : Bool) (name : String) {args : List Value}
    (h : ∀ v ∈ args, v.Harmless) (byReference : Bool) (place : Place) :
    Keeps HarmlessReply (call run method name args byReference place) := by
  refine (keeps_ensureFree name args _).bind fun _ _ => ?_
  split
  · exact .pure ⟨trivial, by simp⟩
  · split
    · next this rest =>
      rw [List.forall_mem_cons] at h
      refine (keeps_function? name _).bind fun f? hf => ?_
      split
      · next f => exact keeps_enter hrun (hf f rfl) (by simpa using h.1) h.2 place
      · exact keeps_native hrun name (List.forall_mem_cons.mpr h) place
    · refine (keeps_function? name _).bind fun f? hf => ?_
      split
      · next f => exact keeps_enter hrun (hf f rfl) (by simp) h place
      · exact keeps_native hrun name h place

theorem keeps_method (hrun : KeepsBodies run) (name : String) {object : Value} {args : List Value}
    (hobject : object.Harmless) (hargs : ∀ v ∈ args, v.Harmless) (argument place : Place) :
    Keeps HarmlessReply (method run name object args argument place) := by
  unfold method
  split
  · next f given =>
    have hgiven := Value.harmless_function.mp hobject
    refine (keeps_call hrun false f (List.forall_mem_append.mpr ⟨hgiven, hargs⟩) false place).bind fun r hr => ?_
    exact .pure ⟨hr.value, by simp⟩
  · exact keeps_fail trivial
  · rw [List.forall_mem_cons] at hargs
    refine keeps_call hrun true _ (List.forall_mem_cons.mpr ⟨hobject, ?_⟩) true place
    exact List.forall_mem_append.mpr ⟨Value.harmless_function.mp hargs.1, hargs.2⟩
  · exact keeps_fail trivial
  · refine .pure ⟨Value.harmless_function.mpr ?_, by simp⟩
    exact List.forall_mem_append.mpr ⟨Value.harmless_function.mp hobject, hargs⟩
  · exact keeps_fail trivial
  · next members _ _ _ =>
    split
    · next f given found =>
      have hfunction := harmless_member? (Value.harmless_map.mp hobject) name _ found
      refine keeps_call hrun true f (List.forall_mem_cons.mpr ⟨hobject, ?_⟩) true place
      exact List.forall_mem_append.mpr ⟨Value.harmless_function.mp hfunction, hargs⟩
    · exact keeps_call hrun true name (List.forall_mem_cons.mpr ⟨hobject, hargs⟩) true place
  · exact keeps_call hrun true name (List.forall_mem_cons.mpr ⟨hobject, hargs⟩) true place

end Call

/-! ## Chains -/

/-- A step whose arguments are harmless. -/
def Step.Harmless : Step → Prop
  | property .. => True
  | method _ args .. => ∀ v ∈ args, v.Harmless
  | index v .. => v.Harmless

namespace Chain

open Run (keeps_charge)

variable {run : Body}

theorem keeps_binary (op : Operator) {a b : Value} (ha : a.Harmless) (hb : b.Harmless) (place : Place) :
    Keeps Value.Harmless (binary op a b place) := by
  unfold binary
  split
  · next o found =>
    have harmless := Operation.harmless_basic? op a b o found
    refine Run.keeps_ofOutcome ?_ ?_
    · rintro v rfl
      exact harmless
    · rintro c rfl
      exact harmless
  · refine (keeps_charge place).bind fun _ _ => ?_
    split
    · next v found => exact .pure (Operation.harmless_extended? op ha hb v found)
    · exact keeps_fail trivial

theorem keeps_signed (sign : Sign) (v : Value) (place : Place) : Keeps Value.Harmless (signed sign v place) := by
  unfold signed
  split
  · exact .pure trivial
  · refine (keeps_charge place).bind fun _ _ => ?_
    split
    · next o found =>
      have harmless := Operation.harmless_signed? sign v o found
      refine Run.keeps_ofOutcome ?_ ?_
      · rintro v rfl
        exact harmless
      · rintro c rfl
        exact harmless
    · exact keeps_fail trivial

theorem keeps_assigned {a : Assignment} {old : Value} (ha : a.value.Harmless) (hold : old.Harmless) :
    Keeps Value.Harmless (assigned a old) := by
  unfold assigned
  split
  · exact .pure ha
  · next more _ same =>
    rw [same] at ha
    refine .pure (Value.harmless_array.mpr (List.forall_mem_append.mpr ?_))
    exact ⟨Value.harmless_array.mp hold, Value.harmless_array.mp ha⟩
  · refine .pure (Value.harmless_array.mpr (List.forall_mem_append.mpr ?_))
    exact ⟨Value.harmless_array.mp hold, List.forall_mem_singleton.mpr ha⟩
  · exact keeps_binary _ hold ha _

theorem harmless_property? (name : String) {v : Value} (h : v.Harmless) : ∀ p ∈ property? name v, p.Harmless := by
  unfold property?
  split
  · exact absurd h Value.not_harmless_faker
  · exact Library.harmless_property? name v

theorem keeps_ensureKind {α : Type} (wanted : String) (place : Place) (v : Value) (a? : Option α) :
    Keeps (fun _ => True) (ensureKind wanted place v a?) := by
  unfold ensureKind
  split
  · exact .pure trivial
  · exact keeps_fail trivial

theorem keeps_assignChar {a : Assignment} (ha : a.value.Harmless) (chars : List Char) (n : Nat) (c : Char) :
    Keeps HarmlessReply (assignChar a chars n c) := by
  refine (keeps_assigned ha (Value.harmless_char c)).bind fun new _ => ?_
  exact (keeps_ensureKind _ _ _ _).bind fun d _ => .pure ⟨trivial, by simp⟩

theorem keeps_assignBit {a : Assignment} (ha : a.value.Harmless) (whole : Int64) (n : Nat) :
    Keeps HarmlessReply (assignBit a whole n) := by
  refine (keeps_assigned ha (Value.harmless_bool _)).bind fun new _ => ?_
  exact (keeps_ensureKind _ _ _ _).bind fun d _ => .pure ⟨trivial, by simp⟩

theorem keeps_assignProperty {a : Assignment} (ha : a.value.Harmless) (name : String) {v : Value}
    (hv : v.Harmless) (place : Place) : Keeps HarmlessReply (assignProperty a name v place) := by
  unfold assignProperty
  split
  · exact keeps_fail trivial
  · exact keeps_fail trivial
  · next found =>
    refine (keeps_assigned ha (harmless_property? name hv _ found)).bind fun new _ => ?_
    exact keeps_fail trivial

/-- A map whose member became what the rest of the walk leaves of it. -/
theorem harmless_memberReply {reply : Reply} (h : HarmlessReply reply) {members : List (String × Value)}
    (hmembers : ∀ m ∈ members, m.2.Harmless) (name : String) :
    HarmlessReply { reply with first := reply.first.map fun new => .map (insertMember members name new) } := by
  refine ⟨h.value, fun w hw => ?_⟩
  obtain ⟨new, hnew, rfl⟩ := Option.map_eq_some_iff.mp hw
  exact Value.harmless_map.mpr (harmless_insertMember hmembers name (h.first new hnew))

/-- An array whose item became what the rest of the walk leaves of it. -/
theorem harmless_itemReply {reply : Reply} (h : HarmlessReply reply) {items : List Value}
    (hitems : ∀ v ∈ items, v.Harmless) (position : Nat) :
    HarmlessReply { reply with first := reply.first.map fun new => .array (items.set position new) } := by
  refine ⟨h.value, fun w hw => ?_⟩
  obtain ⟨new, hnew, rfl⟩ := Option.map_eq_some_iff.mp hw
  refine Value.harmless_array.mpr fun u hu => ?_
  rcases List.mem_or_eq_of_mem_set hu with old | rfl
  · exact hitems u old
  · exact h.first u hnew

/-- A walk gives nothing that its start, its steps and what is assigned do not hold. -/
theorem keeps_walk (hrun : KeepsBodies run) {a : Option Assignment} (ha : ∀ new ∈ a, new.value.Harmless)
    {steps : List Step} (hsteps : ∀ step ∈ steps, step.Harmless) {v : Value} (hv : v.Harmless) :
    Keeps HarmlessReply (walk run a steps v) := by
  induction steps generalizing v with
  | nil =>
    unfold walk
    split
    · exact .pure ⟨hv, by simp⟩
    · next new =>
      refine (keeps_assigned (ha new rfl) hv).bind fun w hw => .pure ⟨trivial, ?_⟩
      simpa using hw
  | cons step rest ih =>
    rw [List.forall_mem_cons] at hsteps
    replace ih {v : Value} (hv : v.Harmless) := ih hsteps.2 hv
    unfold walk
    extract_lets last? member
    have hlast : ∀ new ∈ last?, new.value.Harmless := by
      intro new hnew
      dsimp only [last?] at hnew
      split at hnew
      · exact ha new hnew
      · cases hnew
    clear_value last?
    have valueOnly {p : Value} (hp : p.Harmless) : Keeps HarmlessReply (do
        let reply ← walk run a rest p
        pure { value := reply.value }) := (ih hp).bind fun reply hreply => .pure ⟨hreply.value, by simp⟩
    have within {members : List (String × Value)} (hmembers : ∀ m ∈ members, m.2.Harmless) (name : String) :
        Keeps HarmlessReply (member members name) := by
      refine (keeps_charge _).bind fun _ _ => (ih (harmless_getD (harmless_member? hmembers name))).bind ?_
      exact fun reply hreply => .pure (harmless_memberReply hreply hmembers name)
    have refused {cause : Cause} (h : cause.Harmless) (place : Place) :
        Keeps HarmlessReply (Run.charge Place.nowhere >>= fun _ => (Run.fail cause place : Run Reply)) :=
      (keeps_charge _).bind fun _ _ => keeps_fail h
    split
    · exact .pure ⟨trivial, by simp⟩
    -- One case a kind of step: a property, a method, and an index by the kinds of value and index.
    split
    · split
      · exact within (Value.harmless_map.mp hv) _
      · refine (keeps_charge _).bind fun _ _ => ?_
        cases last? with
        | some new => exact keeps_assignProperty (hlast new rfl) _ hv _
        | none =>
          dsimp only
          split
          · next p found => exact valueOnly (harmless_property? _ hv p found)
          · exact keeps_fail trivial
    · refine (Call.keeps_method hrun _ hv hsteps.1 _ _).bind fun called hcalled => ?_
      refine (ih hcalled.value).bind fun reply hreply => .pure ⟨hreply.value, hcalled.first⟩
    · split
      · exact within (Value.harmless_map.mp hv) _
      · exact refused (by trivial) _
      · next items n _ =>
        have hitems := Value.harmless_array.mp hv
        refine (keeps_charge _).bind fun _ _ => ?_
        split
        · exact keeps_fail trivial
        · next position _ =>
          refine (ih (harmless_getD (harmless_getElem? hitems position))).bind fun reply hreply => ?_
          exact .pure (harmless_itemReply hreply hitems position)
      · exact refused (by trivial) _
      · refine (keeps_charge _).bind fun _ _ => ?_
        dsimp only
        split
        · exact keeps_fail trivial
        · cases last? with
          | some new => exact keeps_assignChar (hlast new rfl) _ _ _
          | none => exact valueOnly trivial
      · exact (keeps_charge _).bind fun _ _ => valueOnly trivial
      · exact refused (by trivial) _
      · refine (keeps_charge _).bind fun _ _ => ?_
        split
        · exact keeps_fail trivial
        · cases last? with
          | some new => exact keeps_assignBit (hlast new rfl) _ _
          | none => exact valueOnly trivial
      · exact refused (by trivial) _
      · exact refused (by trivial) _

end Chain

end Fixtures.Script
