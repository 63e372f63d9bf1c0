import Fixtures.Proofs.Script.Spending
import Fixtures.Script.Eval

/-!
# Every part of a script counts

The evaluation of an expression or a statement counts an operation before it does anything else, whatever it does
then. So each round of a loop costs, and a loop that has no end of its own is ended by the limit: handlers see only
faults that can be caught, and no statement leaves the loop if its words do not occur.

## Main results

* `costs_expr`, `costs_stmt`: one step of evaluation for each construct; those with more than a few parts have a
  lemma of their own, about parts that cost.
* `spends_endless`: a loop without a condition comes to no value.
* `advancesBodies_body`: the bodies of functions, at any depth of calls.
-/

namespace Fixtures.Script

namespace Eval

open Run (spends_charge costs_charge)

variable {run : Body}

/-- An operation is counted, and then the rest is run. -/
theorem costs_charge_bind {α : Type} {place : Place} {next : Unit → Run α} (h : ∀ u, Advances (next u)) :
    Costs (Run.charge place >>= next) := (costs_charge place).bind h

/-! ## Loops -/

/-- A loop each of whose rounds counts an operation. -/
theorem spends_repeated {onward : Prop} {good : Value → Prop} {round : Run (Option Value)}
    (h : Spends onward (fun v? => ∀ v ∈ v?, good v) round)
    (gains : ∀ m m', m.Bounded → round m = (.ok none, m') → m.operations < m'.operations) (place : Place) :
    Spends onward good (repeated round place) := fun m hm =>
  Run.spends_repeating _ h gains hm (Nat.lt_add_left m.operations (by decide : Run.operationLimit < rounds))

/-- A round that goes on has counted what it costs. -/
theorem gains_of_costs {round : Run (Option Value)} (h : Costs round) (m m' : Machine) (hm : m.Bounded)
    (goesOn : round m = (.ok none, m')) : m.operations < m'.operations := by
  have gained := h.gains m hm
  rw [goesOn] at gained
  exact gained fun _ => nofun

theorem cause_movedTo (f : Fault) (place : Place) : (f.movedTo place).cause = f.cause := by
  rw [Fault.movedTo]
  split <;> rfl

theorem advances_truth (v : Value) (place : Place) : Advances (truth v place) := by
  unfold truth
  split
  · exact advances_pure _
  · exact spends_fail (by nofun) place

theorem advances_eachRound (size : Nat) {step : Nat → Run (Option Value)} (h : ∀ index, Advances (step index))
    (fuel index : Nat) : Advances (eachRound size step fuel index) := by
  induction fuel generalizing index with
  | zero => exact advances_pure _
  | succ fuel ih =>
    intro m hm
    rw [eachRound]
    dsimp only
    split
    · obtain ⟨bounded, counted, halts⟩ := h index m hm
      rcases hrun : step index m with ⟨signal | _ | v, m'⟩ <;> rw [hrun] at bounded counted halts
      · exact ⟨bounded, counted, halts⟩
      · exact (ih (index + 1) m' bounded).trans counted
      · exact ⟨bounded, counted, trivial⟩
    · exact ⟨hm, Nat.le_refl _, trivial⟩

/-! ## Variables -/

theorem advances_readThis (place : Place) : Advances (readThis place) := by
  refine (Run.advances_slot? Call.thisName).bind fun slot? _ => ?_
  split
  · exact Run.advances_follow _
  · exact spends_fail (by nofun) place

theorem advances_callWith (hrun : AdvancesBodies run) (function name : String) (here : Place)
    {rest : Run (List Value)} (hrest : Advances rest) (place : Place) :
    Advances (callWith run function name here rest place) := by
  refine (spends_charge here).bind fun _ _ => hrest.bind fun args _ => ?_
  refine (Run.advances_read name here).bind fun v _ => (Run.advances_slot? name).bind fun slot? _ => ?_
  refine (Call.advances_call hrun false function _ _ place).bind fun reply _ => ?_
  dsimp only
  split
  · exact (Run.advances_write name _).bind fun _ _ => advances_pure _
  · exact advances_pure _

theorem advances_walkFrom (hrun : AdvancesBodies run) (name : String) (here : Place) (a : Option Assignment)
    (steps : List Step) : Advances (walkFrom run name here a steps) := by
  refine (spends_charge here).bind fun _ _ => (Run.advances_read name here).bind fun v _ => ?_
  refine (Run.advances_slot? name).bind fun slot? _ => ?_
  extract_lets constant walked
  have goOn (u : Unit) : Advances (walked u) := by
    refine (Run.spends_locking (Chain.advances_walk hrun a steps v) _).bind fun reply _ => ?_
    dsimp only
    split
    · split
      · exact advances_pure _
      · exact (Run.advances_write name _).bind fun _ _ => advances_pure _
    · exact advances_pure _
  split
  · exact spends_fail_bind (by nofun)
  · exact goOn ()

theorem advances_chain (hrun : AdvancesBodies run) (root : Expr) (links : List Link) {evaluated : Run (List Step)}
    (hevaluated : Advances evaluated) {value : Run Value} (hvalue : Advances value) (a : Option Assignment) :
    Advances (chain run root links evaluated value a) := by
  unfold chain
  extract_lets walked
  have goOn (steps : List Step) : Advances (walked steps) := by
    dsimp only [walked]
    split
    · exact advances_walkFrom hrun _ _ a steps
    · exact (advances_readThis _).bind fun _ _ => advances_walkFrom hrun _ _ a steps
    · exact hvalue.bind fun v _ => (Chain.advances_walk hrun a steps v).bind fun reply _ => advances_pure _
  split
  · exact goOn _
  · exact hevaluated.bind fun steps _ => goOn steps

theorem advances_callValue (hrun : AdvancesBodies run) (v : Value) (args : List Value) (here place : Place) :
    Advances (callValue run v args here place) := by
  unfold callValue
  split
  · exact (Call.advances_call hrun false _ _ false place).bind fun reply _ => advances_pure _
  · exact spends_fail (by nofun) here

/-! ## Parts evaluated one after another -/

theorem advances_exprs {es : List Expr} (h : ∀ e ∈ es, Costs (expr run e)) : Advances (exprs run es) := by
  induction es with
  | nil => exact advances_pure _
  | cons e rest ih =>
    rw [List.forall_mem_cons] at h
    rw [exprs]
    exact h.1.advances.bind fun v _ => (ih h.2).bind fun vs _ => advances_pure _

theorem advances_memberValues {ms : List (String × Expr)} (h : ∀ m ∈ ms, Costs (expr run m.2)) :
    Advances (memberValues run ms) := by
  induction ms with
  | nil => exact advances_pure _
  | cons m rest ih =>
    obtain ⟨name, e⟩ := m
    rw [List.forall_mem_cons] at h
    rw [memberValues]
    exact h.1.advances.bind fun v _ => (ih h.2).bind fun vs _ => advances_pure _

theorem advances_textOf {es : List Expr} (h : ∀ e ∈ es, Costs (expr run e)) : Advances (textOf run es) := by
  induction es with
  | nil => exact advances_pure _
  | cons e rest ih =>
    rw [List.forall_mem_cons] at h
    rw [textOf]
    refine h.1.advances.bind fun v _ => ?_
    split
    · exact (ih h.2).bind fun _ _ => advances_pure _
    · exact (spends_charge _).bind fun _ _ => (ih h.2).bind fun _ _ => advances_pure _

/-- The index or the arguments of a link cost. -/
def CostsLink (run : Body) : Link → Prop
  | .property .. => True
  | .method _ args .. => ∀ e ∈ args, Costs (expr run e)
  | .index e .. => Costs (expr run e)

/-- What is evaluated to reach the place of an assignment costs. -/
def CostsTarget (run : Body) : Expr → Prop
  | .chain root links => Costs (expr run root) ∧ ∀ link ∈ links, CostsLink run link
  | _ => True

theorem advances_steps {links : List Link} (h : ∀ link ∈ links, CostsLink run link) : Advances (steps run links) := by
  induction links with
  | nil => exact advances_pure _
  | cons link rest ih =>
    rw [List.forall_mem_cons] at h
    have more (step : Step) : Advances (do pure (step :: (← steps run rest))) :=
      (ih h.2).bind fun steps _ => advances_pure _
    rw [steps]
    refine (spends_charge _).bind fun _ _ => ?_
    split
    · exact more _
    · exact (advances_exprs h.1).bind fun vs _ => more _
    · exact Spends.bind h.1.advances fun v _ => more _

theorem advances_stmts {ss : List Stmt} (h : ∀ s ∈ ss, Costs (stmt run s)) : Advances (stmts run ss) := by
  induction ss with
  | nil => exact advances_pure _
  | cons s rest ih =>
    rw [List.forall_mem_cons] at h
    cases rest with
    | nil => exact h.1.advances
    | cons t rest => exact h.1.advances.bind fun _ _ => ih h.2

theorem advances_scoped {ss : List Stmt} (h : ∀ s ∈ ss, Costs (stmt run s)) :
    Advances (Run.block (stmts run ss)) := Run.spends_block (advances_stmts h)

/-- Statements cost what the first of them costs. -/
theorem costs_stmts {s : Stmt} {rest : List Stmt} (h : ∀ t ∈ s :: rest, Costs (stmt run t)) :
    Costs (stmts run (s :: rest)) := by
  rw [List.forall_mem_cons] at h
  cases rest with
  | nil => exact h.1
  | cons t rest => exact h.1.bind fun _ => advances_stmts h.2

/-- The body of a loop, if it has one. -/
def bodyOf (run : Body) (ss : List Stmt) : Run Value := if ss.isEmpty then pure .unit else Run.block (stmts run ss)

theorem advances_bodyOf {ss : List Stmt} (h : ∀ s ∈ ss, Costs (stmt run s)) : Advances (bodyOf run ss) := by
  unfold bodyOf
  split
  · exact advances_pure _
  · exact advances_scoped h

theorem advances_firstCase (fits : List Value → Bool) {cases : List (List Value × Expr × Expr)}
    (hconditions : ∀ c ∈ cases, Costs (expr run c.2.1)) (hvalues : ∀ c ∈ cases, Costs (expr run c.2.2)) :
    Advances (firstCase run fits cases) := by
  induction cases with
  | nil => exact advances_pure _
  | cons c rest ih =>
    obtain ⟨labels, condition, e⟩ := c
    rw [List.forall_mem_cons] at hconditions hvalues
    rw [firstCase]
    extract_lets chosen
    have goOn (holds : Bool) : Advances (chosen holds) := by
      dsimp only [chosen]
      split
      · exact hvalues.1.advances.bind fun v _ => advances_pure _
      · exact ih hconditions.2 hvalues.2
    split
    · split
      · exact goOn _
      · exact hconditions.1.advances.bind fun v _ => (advances_truth v _).bind fun holds _ => goOn holds
    · exact ih hconditions.2 hvalues.2

/-! ## Loops that end only by the limit -/

/-- The rounds of a loop without a condition: an empty body is counted at its place. -/
def endless (run : Body) (body : List Stmt) (bodyPlace : Place) : Run (Option Value) := do
  if body.isEmpty then Run.charge bodyPlace
  Run.round (bodyOf run body)

theorem spends_endlessRound {ss : List Stmt} (h : ∀ s ∈ ss, Costs (stmt run s)) (place : Place) :
    Spends False (· = none) (endless run ss place) := by
  have round : Spends False (· = none) (Run.round (bodyOf run ss)) := Run.spends_round (advances_bodyOf h)
  unfold endless
  dsimp only
  split
  · exact (spends_charge place).bind fun _ _ => round
  · exact round

theorem gains_endlessRound {ss : List Stmt} (h : ∀ s ∈ ss, Costs (stmt run s)) (place : Place) (m m' : Machine)
    (hm : m.Bounded) (goesOn : endless run ss place m = (.ok none, m')) : m.operations < m'.operations := by
  cases ss with
  | nil =>
    have costs : Costs (endless run [] place) :=
      costs_charge_bind fun _ => (Run.spends_round (advances_bodyOf h)).mono id fun _ _ => trivial
    exact gains_of_costs costs m m' hm goesOn
  | cons s rest => exact Run.gains_round (Run.costs_block (costs_stmts h)) hm goesOn

/-- A loop without a condition comes to no value: it ends with a fault or with the whole script. -/
theorem spends_endless {ss : List Stmt} (h : ∀ s ∈ ss, Costs (stmt run s)) (place : Place) :
    Spends False (fun _ => False) (repeated (endless run ss place) place) :=
  spends_repeated ((spends_endlessRound h place).mono id fun v? none v hv => by simp [none] at hv)
    (gains_endlessRound h place) place

/-! ## Loops that ask -/

/-- A loop that asks before each round: each question costs. -/
theorem advances_asking {e : Expr} (he : Costs (expr run e)) {ss : List Stmt} (h : ∀ s ∈ ss, Costs (stmt run s))
    (here place : Place) : Advances (repeated (do
      if ← truth (← expr run e) here then Run.round (bodyOf run ss) else pure (some .unit)) place) := by
  have costs : Costs (do
      if ← truth (← expr run e) here then Run.round (bodyOf run ss) else pure (some .unit)) := by
    refine he.bind fun v => (advances_truth v here).bind fun holds _ => ?_
    split
    · exact (Run.spends_round (advances_bodyOf h)).mono id fun _ _ => trivial
    · exact advances_pure _
  exact spends_repeated (costs.advances.mono id fun _ _ _ _ => trivial) (gains_of_costs costs) place

/-- A loop that asks behind each round: no round leaves it, so each is followed by a question, which costs. -/
theorem advances_again {ss : List Stmt} (h : ∀ s ∈ ss, Costs (stmt run s)) {e : Expr} (he : Costs (expr run e))
    (wanted : Bool) (here place : Place) : Advances (repeated (do
      match ← Run.round (bodyOf run ss) with
      | some v => pure (some v)
      | none =>
        let b ← truth (← expr run e) here
        pure (if b = wanted then none else some .unit)) place) := by
  have round : Spends True (· = none) (Run.round (bodyOf run ss)) := Run.spends_round (advances_bodyOf h)
  have asking : Costs (do
      let b ← truth (← expr run e) here
      pure (if b = wanted then none else some .unit : Option Value)) :=
    he.bind fun v => (advances_truth v here).bind fun b _ => advances_pure _
  refine spends_repeated (round.bind ?_) ?_ place
  · rintro _ rfl
    exact asking.advances.mono id fun _ _ _ _ => trivial
  · intro m m' hm goesOn
    obtain ⟨v?, m₁, ran, asked⟩ := Runs.bind_eq_ok goesOn
    have spent := round m hm
    rw [ran] at spent
    obtain ⟨bounded, counted, rfl⟩ := spent
    exact Nat.lt_of_le_of_lt counted (gains_of_costs asking m₁ m' bounded asked)

/-- A fault that a handler throws again is the one it caught, which is not one of the limit. -/
theorem stays_rethrown {original : Fault} (h : original.cause.isFinal = false) {signal : Signal} {onward : Prop}
    {operations : Nat} (stays : signal.Stays onward operations) : (rethrown original signal).Stays onward operations := by
  unfold rethrown
  split
  · intro same
    rw [cause_movedTo] at same
    rw [same] at h
    cases h
  · exact stays

/-! ## Expressions, from their parts -/

theorem costs_junction (j : Junction) {left right : Expr} (hleft : Costs (expr run left))
    (hright : Costs (expr run right)) (place : Place) : Costs (expr run (.junction j left right place)) := by
  cases j with
  | and =>
    rw [expr]
    refine costs_charge_bind fun _ => hleft.advances.bind fun a _ => (advances_truth a _).bind fun holds _ => ?_
    split
    · exact hright.advances.bind fun b _ => (advances_truth b _).bind fun _ _ => advances_pure _
    · exact advances_pure _
  | or =>
    rw [expr]
    refine costs_charge_bind fun _ => hleft.advances.bind fun a _ => (advances_truth a _).bind fun holds _ => ?_
    split
    · exact advances_pure _
    · exact hright.advances.bind fun b _ => (advances_truth b _).bind fun _ _ => advances_pure _
  | coalesce =>
    rw [expr]
    refine costs_charge_bind fun _ => hleft.advances.bind fun a _ => ?_
    split
    · exact hright.advances
    · exact advances_pure _

theorem costs_within (hrun : AdvancesBodies run) (negated : Bool) {container item : Expr}
    (hcontainer : Costs (expr run container)) (hitem : Costs (expr run item)) (place : Place) :
    Costs (expr run (.within negated container item place)) := by
  rw [expr]
  refine costs_charge_bind fun _ => ?_
  extract_lets object answered asked
  have answer (b : Value) : Advances (answered b) := by
    dsimp only [answered]
    split
    · exact Chain.advances_signed _ _ _
    · exact advances_pure _
  have goOn (u : Unit) : Advances (asked u) := by
    dsimp only [asked]
    split
    · refine (advances_callWith hrun _ _ _ ?_ _).bind fun b _ => answer b
      exact hitem.advances.bind fun w _ => advances_pure _
    · refine hcontainer.advances.bind fun v _ => hitem.advances.bind fun w _ => ?_
      exact (Call.advances_call hrun false _ _ false _).bind fun reply _ => answer _
  split
  · exact (spends_charge _).bind fun _ _ => goOn ()
  · exact goOn ()

/-- A call of a function of the script or the library, of a value, or of what makes such values. -/
theorem costs_callTo (hrun : AdvancesBodies run) {name : String} (stays : name ≠ "eval") {args : List Expr}
    (each : ∀ e ∈ args, Costs (expr run e)) (place : Place) : Costs (expr run (.call name args place)) := by
  rw [expr]
  refine costs_charge_bind fun _ => ?_
  dsimp only
  -- In the order of evaluation: the four names it knows, then a variable or the object as first argument.
  split
  · refine (each _ List.mem_cons_self).advances.bind fun v _ => ?_
    split
    · exact advances_pure _
    · exact spends_fail (by nofun) _
  · rw [List.forall_mem_cons] at each
    refine each.1.advances.bind fun f _ => (advances_exprs each.2).bind fun args _ => ?_
    exact advances_callValue hrun f args _ _
  · simp only [List.forall_mem_cons] at each
    refine each.1.advances.bind fun f _ => ?_
    split
    · refine each.2.1.advances.bind fun v _ => ?_
      exact (advances_exprs each.2.2).bind fun vs _ => advances_pure _
    · exact spends_fail (by nofun) _
  · exact absurd rfl stays
  · rw [List.forall_mem_cons] at each
    exact advances_callWith hrun _ _ _ (advances_exprs each.2) _
  · rw [List.forall_mem_cons] at each
    exact advances_callWith hrun _ _ _ (advances_exprs each.2) _
  · refine (advances_exprs each).bind fun vs _ => ?_
    exact (Call.advances_call hrun false _ vs false _).bind fun reply _ => advances_pure _

/-! ## Statements, from their parts -/

theorem costs_loop {condition : Option Expr} (hcondition : ∀ e ∈ condition, Costs (expr run e)) {ss : List Stmt}
    (hbody : ∀ s ∈ ss, Costs (stmt run s)) (bodyPlace place : Place) :
    Costs (stmt run (.loop condition ss bodyPlace place)) := by
  have forever (place : Place) : Advances (repeated (endless run _ place) place) :=
    (spends_endless hbody place).mono (fun never => never.elim) fun _ _ => trivial
  rw [stmt]
  refine costs_charge_bind fun _ => ?_
  cases condition with
  | none => exact forever _
  | some e =>
    dsimp only
    split
    · exact forever _
    · exact advances_asking (hcondition e rfl) hbody _ _

theorem costs_each (name : String) (counter : Option String) {items : Expr} (hitems : Costs (expr run items))
    {ss : List Stmt} (hbody : ∀ s ∈ ss, Costs (stmt run s)) (bodyPlace place : Place) :
    Costs (stmt run (.each name counter items ss bodyPlace place)) := by
  rw [stmt]
  refine costs_charge_bind fun _ => hitems.advances.bind fun v _ => ?_
  split
  · exact spends_fail (by nofun) _
  · next size item _ =>
    refine Run.spends_block ?_
    extract_lets looped
    -- What follows is the same whether the position has a variable or not, in the loop and in each round.
    have goOn (u : Unit) : Advances (looped u) := by
      refine (Run.advances_define name _ false).bind fun _ _ => advances_eachRound size (fun index => ?_) _ _
      extract_lets round
      have goOn (u : Unit) : Advances (round u) := by
        refine (Run.advances_write name _).bind fun _ _ => (spends_charge _).bind fun _ _ => ?_
        split
        · exact advances_pure _
        · exact (Run.spends_round (advances_scoped hbody)).mono id fun _ _ => trivial
      cases counter with
      | none => exact goOn ()
      | some counter => exact (Run.advances_write counter _).bind fun _ _ => goOn ()
    cases counter with
    | none => exact goOn ()
    | some counter => exact (Run.advances_define counter _ false).bind fun _ _ => goOn ()

/-- An assignment to a variable, to the object of a call, or to the place that a chain leads to. -/
theorem costs_assign (hrun : AdvancesBodies run) {target : Expr} (parts : CostsTarget run target)
    (op : Option Operator) {e : Expr} (h : Costs (expr run e)) (place : Place) :
    Costs (stmt run (.assign target op e place)) := by
  rw [stmt.eq_def]
  refine costs_charge_bind fun _ => ?_
  have assigned (name : String) (new old : Value) : Advances (do
      Run.write name (← Chain.assigned ⟨op, new, place⟩ old)
      pure Value.unit) :=
    (Chain.advances_assigned _ old).bind fun v _ => (Run.advances_write name v).bind fun _ _ => advances_pure _
  dsimp only
  split
  · next name here =>
    refine h.advances.bind fun new _ => (spends_charge _).bind fun _ _ => ?_
    refine (Run.advances_read name here).bind fun old _ => (Run.advances_slot? name).bind fun slot? _ => ?_
    split
    · exact spends_fail_bind (by nofun)
    · exact assigned _ new old
  · refine (advances_readThis _).bind fun _ _ => h.advances.bind fun new _ => (spends_charge _).bind fun _ _ => ?_
    exact (advances_readThis _).bind fun old _ => assigned _ new old
  · refine h.advances.bind fun new _ => ?_
    exact (advances_chain hrun _ _ (advances_steps parts.2) parts.1.advances _).bind fun _ _ => advances_pure _
  · exact advances_pure _

theorem costs_attempt {ss : List Stmt} (hbody : ∀ s ∈ ss, Costs (stmt run s)) (caught : Option String)
    {handler : List Stmt} (hhandler : ∀ s ∈ handler, Costs (stmt run s)) (place : Place) :
    Costs (stmt run (.attempt ss caught handler place)) := by
  rw [stmt]
  refine costs_charge_bind fun _ => ?_
  refine Spends.tryCatch ((advances_scoped hbody).bind fun _ _ => advances_pure _) fun signal m hm stays => ?_
  split
  · next fault =>
    -- The fault of the limit is final and passes; the handler runs only for one that is not.
    split
    · exact ⟨hm, Nat.le_refl _, stays⟩
    · next caughtFault =>
      refine Run.spends_block ?_ m hm
      extract_lets handled
      have goOn (u : Unit) : Advances (handled u) := by
        refine Spends.bind (Spends.tryCatch (advances_scoped hhandler) fun signal m hm stays => ?_) fun _ _ => advances_pure _
        exact ⟨hm, Nat.le_refl _, stays_rethrown (by simpa using caughtFault) stays⟩
      cases caught with
      | none => exact goOn ()
      | some name => exact (Run.advances_define name _ false).bind fun _ _ => goOn ()
  · exact ⟨hm, Nat.le_refl _, stays⟩

/-! ## Expressions and statements -/

mutual

/-- An expression counts an operation before it does anything else. -/
theorem costs_expr (hrun : AdvancesBodies run) : ∀ {e : Expr}, e.Spelled Unending → Costs (expr run e)
  | _, .const _ => by
    rw [expr]
    exact costs_charge_bind fun _ => advances_pure _
  | _, .text h => by
    rw [expr]
    refine costs_charge_bind fun _ => ?_
    exact (advances_textOf fun e he => costs_expr hrun (h e he)).bind fun _ _ => advances_pure _
  | _, .array h => by
    rw [expr]
    refine costs_charge_bind fun _ => ?_
    exact (advances_exprs fun e he => costs_expr hrun (h e he)).bind fun _ _ => advances_pure _
  | _, .map h => by
    rw [expr]
    refine costs_charge_bind fun _ => ?_
    exact (advances_memberValues fun m hm => costs_expr hrun (h m hm)).bind fun _ _ => advances_pure _
  | _, .var _ => by
    rw [expr]
    exact costs_charge_bind fun _ => Run.advances_read _ _
  | _, .this => by
    rw [expr]
    exact costs_charge_bind fun _ => advances_readThis _
  | _, .qualified => by
    rw [expr]
    exact costs_charge_bind fun _ => spends_fail (by nofun) _
  | _, .signed h => by
    rw [expr]
    exact costs_charge_bind fun _ => (costs_expr hrun h).advances.bind fun v _ => Chain.advances_signed _ v _
  | _, .binary hleft hright => by
    rw [expr]
    refine costs_charge_bind fun _ => (costs_expr hrun hleft).advances.bind fun a _ => ?_
    exact (costs_expr hrun hright).advances.bind fun b _ => Chain.advances_binary _ a b _
  | _, .junction hleft hright => costs_junction _ (costs_expr hrun hleft) (costs_expr hrun hright) _
  | _, .within hcontainer hitem => costs_within hrun _ (costs_expr hrun hcontainer) (costs_expr hrun hitem) _
  | _, .call stays hargs => costs_callTo hrun stays.2.2 (fun e he => costs_expr hrun (hargs e he)) _
  | _, .chain hroot hlinks => by
    rw [expr]
    refine costs_charge_bind fun _ => ?_
    exact advances_chain hrun _ _ (advances_steps fun link hlink => costs_link hrun (hlinks link hlink))
      (costs_expr hrun hroot).advances none
  | _, .block h => by
    rw [expr]
    exact costs_charge_bind fun _ => advances_scoped fun s hs => costs_stmt hrun (h s hs)
  | _, .closure _ => by
    rw [expr]
    refine costs_charge_bind fun _ => (spends_charge _).bind fun _ _ => ?_
    refine (advances_mapM fun c _ => Run.advances_share c.1 c.2).bind fun cells _ => ?_
    refine (spends_charge _).bind fun _ _ => (spends_charge _).bind fun _ _ => ?_
    exact (Run.advances_chargeEach _).bind fun _ _ => advances_pure _

theorem costs_link (hrun : AdvancesBodies run) : ∀ {link : Link}, link.Spelled Unending → CostsLink run link
  | _, .property => trivial
  | _, .method _ hargs => fun e he => costs_expr hrun (hargs e he)
  | _, .index h => costs_expr hrun h

theorem costs_target (hrun : AdvancesBodies run) : ∀ {e : Expr}, e.Spelled Unending → CostsTarget run e
  | _, .chain hroot hlinks => ⟨costs_expr hrun hroot, fun link hlink => costs_link hrun (hlinks link hlink)⟩
  | _, .const _ | _, .text _ | _, .array _ | _, .map _ | _, .var _ | _, .this | _, .qualified => trivial
  | _, .signed _ | _, .binary _ _ | _, .junction _ _ | _, .within _ _ | _, .call _ _ => trivial
  | _, .block _ | _, .closure _ => trivial

/-- A statement costs, and never leaves the loop it stands in: those that would are spelled with a word that does not
occur. -/
theorem costs_stmt (hrun : AdvancesBodies run) : ∀ {s : Stmt}, s.Spelled Unending → Costs (stmt run s)
  | _, .nothing => by
    rw [stmt]
    exact costs_charge_bind fun _ => advances_pure _
  | _, .expr h => by
    rw [stmt]
    split
    · exact costs_expr hrun h
    · exact costs_charge_bind fun _ => (costs_expr hrun h).advances
  | _, .block h => by
    rw [stmt]
    exact costs_charge_bind fun _ => advances_scoped fun s hs => costs_stmt hrun (h s hs)
  | _, .choose hcondition hyes hno => by
    rw [stmt]
    refine costs_charge_bind fun _ => (costs_expr hrun hcondition).advances.bind fun v _ => ?_
    refine (advances_truth v _).bind fun holds _ => ?_
    split
    · exact advances_scoped fun s hs => costs_stmt hrun (hyes s hs)
    · exact advances_scoped fun s hs => costs_stmt hrun (hno s hs)
  | _, .switch hsubject hconditions hvalues => by
    have first (fits : List Value → Bool) := advances_firstCase fits
      (fun c hc => costs_expr hrun (hconditions c hc)) fun c hc => costs_expr hrun (hvalues c hc)
    rw [stmt]
    refine costs_charge_bind fun _ => (costs_expr hrun hsubject).advances.bind fun v _ => (first _).bind fun v? _ => ?_
    split
    · exact advances_pure _
    · exact (first _).bind fun v? _ => advances_pure _
  | _, .loop hcondition hbody =>
    costs_loop (fun e he => costs_expr hrun (hcondition e he)) (fun s hs => costs_stmt hrun (hbody s hs)) _ _
  | _, .again hbody hcondition => by
    have body := fun s hs => costs_stmt hrun (hbody s hs)
    rw [stmt]
    exact costs_charge_bind fun _ => advances_again body (costs_expr hrun hcondition) _ _ _
  | _, .each hitems hbody =>
    costs_each _ _ (costs_expr hrun hitems) (fun s hs => costs_stmt hrun (hbody s hs)) _ _
  | _, .define h => by
    rw [stmt]
    refine costs_charge_bind fun _ => (costs_expr hrun h).advances.bind fun v _ => ?_
    exact (Run.advances_define _ v _).bind fun _ _ => advances_pure _
  | _, .assign htarget h => costs_assign hrun (costs_target hrun htarget) _ (costs_expr hrun h) _
  | _, .next => by
    rw [stmt]
    exact costs_charge_bind fun _ => fun _ hm => ⟨hm, Nat.le_refl _, trivial⟩
  | _, .leave stays _ => absurd rfl stays.1
  | _, .give stays _ => absurd rfl stays.2.1
  | .throw none _, .throw _ => by
    rw [stmt]
    exact costs_charge_bind fun _ => spends_fail (by nofun) _
  | .throw (some e) _, .throw h => by
    rw [stmt]
    refine costs_charge_bind fun _ => (costs_expr hrun (h e rfl)).advances.bind fun v _ => ?_
    exact spends_fail (by nofun) _
  | _, .attempt hbody hhandler =>
    costs_attempt (fun s hs => costs_stmt hrun (hbody s hs)) _ (fun s hs => costs_stmt hrun (hhandler s hs)) _

end

/-- The bodies of functions, with calls nested to any depth. -/
theorem advancesBodies_body (depth : Nat) : AdvancesBodies (body depth) := by
  induction depth with
  | zero => exact fun _ _ => spends_fail (by nofun) _
  | succ depth ih => exact fun statements h => advances_stmts fun s hs => costs_stmt ih (h s hs)

end Eval

end Fixtures.Script
