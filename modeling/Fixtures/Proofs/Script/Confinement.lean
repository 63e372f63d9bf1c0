import Fixtures.Proofs.Script.Parsing
import Fixtures.Proofs.Script.Sealing
import Fixtures.Proofs.Script.Simplification
import Fixtures.Script.Session

/-!
# Scripts that do not name the binding

The evaluation of a tree that neither reads the binding nor calls `eval` keeps machines sealed: by recursion on
the tree, with one case for each construct, and then by recursion on the depth of calls. A session begins a
script with nothing but the binding, so a script in whose text neither name occurs leaves the random stream where
it was.

## Main results

* `keeps_expr`, `keeps_stmt`: one step of evaluation for each construct; those with more than a few parts have a
  lemma of their own, about parts that keep the seal.
* `keepsBodies_body`: the bodies of functions, at any depth of calls.
-/

namespace Fixtures.Script

namespace Eval

open Run (KeepsOn keeps_charge)

variable {run : Body}

/-! ## Loops -/

theorem keeps_repeated {round : Run (Option Value)} (h : Keeps (fun v? => ∀ v ∈ v?, v.Harmless) round)
    (place : Place) : Keeps Value.Harmless (repeated round place) :=
  Run.keeps_repeating h (keeps_fail (by trivial)) _

theorem keeps_truth (v : Value) (place : Place) : KeepsOn (truth v place) := by
  unfold truth
  split
  · exact .pure trivial
  · exact keeps_fail trivial

theorem harmless_items? {v : Value} (h : v.Harmless) : ∀ p ∈ items? v, ∀ n, (p.2 n).Harmless := by
  intro p hp n
  unfold items? at hp
  split at hp
  · cases hp
    refine harmless_getD fun w hw => Value.harmless_array.mp h w ?_
    exact List.mem_toArray.mp (Array.mem_of_getElem? hw)
  · cases hp
    trivial
  · cases hp
    trivial
  · cases hp

theorem keeps_eachRound (size : Nat) {step : Nat → Run (Option Value)}
    (h : ∀ index, Keeps (fun v? => ∀ v ∈ v?, v.Harmless) (step index)) (fuel index : Nat) :
    Keeps Value.Harmless (eachRound size step fuel index) := by
  induction fuel generalizing index with
  | zero => exact .pure trivial
  | succ fuel ih =>
    intro m hm
    rw [eachRound]
    dsimp only
    split
    · obtain ⟨outcome, sealed, generator⟩ := h index m hm
      rcases hrun : step index m with ⟨signal | _ | v, m'⟩ <;> rw [hrun] at outcome sealed generator
      · exact ⟨outcome, sealed, generator⟩
      · obtain ⟨outcome', sealed', generator'⟩ := ih (index + 1) m' sealed
        exact ⟨outcome', sealed', generator'.trans generator⟩
      · exact ⟨outcome v rfl, sealed, generator⟩
    · exact ⟨trivial, hm, rfl⟩

/-! ## Variables -/

theorem keeps_readThis (place : Place) : Keeps Value.Harmless (readThis place) := by
  refine (Run.keeps_slot? Call.thisName).bind fun slot? h => ?_
  split
  · next slot => exact Run.keeps_follow (h (by decide) slot rfl)
  · exact keeps_fail trivial

theorem keeps_callWith (hrun : KeepsBodies run) (function : String) {name : String} (free : name ≠ Binding.name)
    (here : Place) {rest : Run (List Value)} (hrest : Keeps (fun vs => ∀ v ∈ vs, v.Harmless) rest)
    (place : Place) : Keeps Value.Harmless (callWith run function name here rest place) := by
  refine (keeps_charge here).bind fun _ _ => hrest.bind fun args hargs => ?_
  refine (Run.keeps_read free here).bind fun v hv => (Run.keeps_slot? name).bind fun slot? _ => ?_
  refine (Call.keeps_call hrun false function (List.forall_mem_cons.mpr ⟨hv, hargs⟩) _ place).bind fun reply hreply => ?_
  dsimp only
  split
  · next new _ changed =>
    exact (Run.keeps_write name (hreply.first new changed)).bind fun _ _ => .pure hreply.value
  · exact .pure hreply.value

theorem keeps_walkFrom (hrun : KeepsBodies run) {name : String} (free : name ≠ Binding.name) (here : Place)
    {a : Option Assignment} (ha : ∀ new ∈ a, new.value.Harmless) {steps : List Step}
    (hsteps : ∀ step ∈ steps, step.Harmless) : Keeps Value.Harmless (walkFrom run name here a steps) := by
  refine (keeps_charge here).bind fun _ _ => (Run.keeps_read free here).bind fun v hv => ?_
  refine (Run.keeps_slot? name).bind fun slot? _ => ?_
  extract_lets constant walked
  have goOn (u : Unit) : Keeps Value.Harmless (walked u) := by
    refine (Run.keeps_locking (Chain.keeps_walk hrun ha hsteps hv) _).bind fun reply hreply => ?_
    dsimp only
    split
    · next new changed =>
      split
      · exact .pure hreply.value
      · exact (Run.keeps_write name (hreply.first new changed)).bind fun _ _ => .pure hreply.value
    · exact .pure hreply.value
  split
  · exact keeps_fail_bind trivial
  · exact goOn ()

theorem harmless_constStep {link : Link} (h : link.Spelled Unbound) : (constStep link).Harmless := by
  have value {e : Expr} (h : e.Spelled Unbound) : (constStep.constValue e).Harmless := by
    unfold constStep.constValue
    split
    · cases h
      assumption
    · trivial
  cases h with
  | property => trivial
  | method _ hargs => exact List.forall_mem_map.mpr fun e he => value (hargs e he)
  | index h => exact value h

theorem keeps_chain (hrun : KeepsBodies run) {root : Expr} {links : List Link} (hroot : root.Spelled Unbound)
    (hlinks : ∀ link ∈ links, link.Spelled Unbound) {evaluated : Run (List Step)}
    (hevaluated : Keeps (fun steps => ∀ step ∈ steps, step.Harmless) evaluated) {value : Run Value}
    (hvalue : Keeps Value.Harmless value) {a : Option Assignment} (ha : ∀ new ∈ a, new.value.Harmless) :
    Keeps Value.Harmless (chain run root links evaluated value a) := by
  unfold chain
  extract_lets walked
  have goOn {steps : List Step} (hsteps : ∀ step ∈ steps, step.Harmless) : Keeps Value.Harmless (walked steps) := by
    dsimp only [walked]
    split
    · cases hroot with
      | var free => exact keeps_walkFrom hrun free.1 _ ha hsteps
    · exact (keeps_readThis _).bind fun _ _ => keeps_walkFrom hrun (by decide) _ ha hsteps
    · exact hvalue.bind fun v hv => (Chain.keeps_walk hrun ha hsteps hv).bind fun reply hreply => .pure hreply.value
  split
  · exact goOn (List.forall_mem_map.mpr fun link hlink => harmless_constStep (hlinks link hlink))
  · exact hevaluated.bind fun steps hsteps => goOn hsteps

theorem keeps_callValue (hrun : KeepsBodies run) {v : Value} {args : List Value} (hv : v.Harmless)
    (hargs : ∀ w ∈ args, w.Harmless) (here place : Place) :
    Keeps Value.Harmless (callValue run v args here place) := by
  unfold callValue
  split
  · next name given =>
    refine (Call.keeps_call hrun false name ?_ false place).bind fun reply hreply => .pure hreply.value
    exact List.forall_mem_append.mpr ⟨Value.harmless_function.mp hv, hargs⟩
  · exact keeps_fail trivial

theorem harmless_rethrown {original : Fault} (h : original.cause.Harmless) {signal : Signal}
    (hsignal : signal.Harmless) : (rethrown original signal).Harmless := by
  unfold rethrown
  split
  · exact Fault.harmless_movedTo h _
  · exact hsignal

/-! ## Parts evaluated one after another -/

theorem keeps_exprs {es : List Expr} (h : ∀ e ∈ es, Keeps Value.Harmless (expr run e)) :
    Keeps (fun vs => ∀ v ∈ vs, v.Harmless) (exprs run es) := by
  induction es with
  | nil => exact .pure (List.forall_mem_nil _)
  | cons e rest ih =>
    rw [List.forall_mem_cons] at h
    rw [exprs]
    exact h.1.bind fun v hv => (ih h.2).bind fun vs hvs => .pure (List.forall_mem_cons.mpr ⟨hv, hvs⟩)

theorem keeps_memberValues {ms : List (String × Expr)} (h : ∀ m ∈ ms, Keeps Value.Harmless (expr run m.2)) :
    Keeps (fun vs => ∀ v ∈ vs, v.2.Harmless) (memberValues run ms) := by
  induction ms with
  | nil => exact .pure (List.forall_mem_nil _)
  | cons m rest ih =>
    obtain ⟨name, e⟩ := m
    rw [List.forall_mem_cons] at h
    rw [memberValues]
    exact h.1.bind fun v hv => (ih h.2).bind fun vs hvs => .pure (List.forall_mem_cons.mpr ⟨hv, hvs⟩)

theorem keeps_textOf {es : List Expr} (h : ∀ e ∈ es, Keeps Value.Harmless (expr run e)) :
    KeepsOn (textOf run es) := by
  induction es with
  | nil => exact .pure trivial
  | cons e rest ih =>
    rw [List.forall_mem_cons] at h
    rw [textOf]
    refine h.1.bind fun v _ => ?_
    split
    · exact (ih h.2).bind fun _ _ => .pure trivial
    · exact (keeps_charge _).bind fun _ _ => (ih h.2).bind fun _ _ => .pure trivial

/-- The index or the arguments of a link are evaluated under the seal. -/
def KeepsLink (run : Body) : Link → Prop
  | .property .. => True
  | .method _ args .. => ∀ e ∈ args, Keeps Value.Harmless (expr run e)
  | .index e .. => Keeps Value.Harmless (expr run e)

/-- What is evaluated to reach the place of an assignment is evaluated under the seal. -/
def KeepsTarget (run : Body) : Expr → Prop
  | .chain root links => Keeps Value.Harmless (expr run root) ∧ ∀ link ∈ links, KeepsLink run link
  | _ => True

theorem keeps_steps {links : List Link} (h : ∀ link ∈ links, KeepsLink run link) :
    Keeps (fun steps => ∀ step ∈ steps, step.Harmless) (steps run links) := by
  induction links with
  | nil => exact .pure (List.forall_mem_nil _)
  | cons link rest ih =>
    rw [List.forall_mem_cons] at h
    have more {step : Step} (hstep : step.Harmless) :
        Keeps (fun steps => ∀ step ∈ steps, step.Harmless) (do pure (step :: (← steps run rest))) :=
      (ih h.2).bind fun steps hsteps => .pure (List.forall_mem_cons.mpr ⟨hstep, hsteps⟩)
    rw [steps]
    refine (keeps_charge _).bind fun _ _ => ?_
    split
    · exact more trivial
    · exact (keeps_exprs h.1).bind fun vs hvs => more hvs
    · exact Keeps.bind h.1 fun v hv => more hv

theorem keeps_stmts {ss : List Stmt} (h : ∀ s ∈ ss, Keeps Value.Harmless (stmt run s)) :
    Keeps Value.Harmless (stmts run ss) := by
  induction ss with
  | nil => exact .pure trivial
  | cons s rest ih =>
    rw [List.forall_mem_cons] at h
    cases rest with
    | nil => exact h.1
    | cons t rest =>
      exact h.1.bind fun _ _ => ih h.2

theorem keeps_scoped {ss : List Stmt} (h : ∀ s ∈ ss, Keeps Value.Harmless (stmt run s)) :
    Keeps Value.Harmless (Run.block (stmts run ss)) := Run.keeps_block (keeps_stmts h)

/-- The body of a loop, as one round of it. -/
theorem keeps_rounds {ss : List Stmt} (h : ∀ s ∈ ss, Keeps Value.Harmless (stmt run s)) :
    Keeps (fun v? => ∀ v ∈ v?, v.Harmless)
      (Run.round (if ss.isEmpty then pure .unit else Run.block (stmts run ss))) := by
  refine Run.keeps_round ?_
  split
  · exact .pure trivial
  · exact keeps_scoped h

theorem keeps_firstCase (fits : List Value → Bool) {cases : List (List Value × Expr × Expr)}
    (hconditions : ∀ c ∈ cases, Keeps Value.Harmless (expr run c.2.1))
    (hvalues : ∀ c ∈ cases, Keeps Value.Harmless (expr run c.2.2)) :
    Keeps (fun v? => ∀ v ∈ v?, v.Harmless) (firstCase run fits cases) := by
  induction cases with
  | nil => exact .pure (by simp)
  | cons c rest ih =>
    obtain ⟨labels, condition, e⟩ := c
    rw [List.forall_mem_cons] at hconditions hvalues
    rw [firstCase]
    extract_lets chosen
    have goOn (holds : Bool) : Keeps (fun v? => ∀ v ∈ v?, v.Harmless) (chosen holds) := by
      dsimp only [chosen]
      split
      · exact hvalues.1.bind fun v hv => .pure (by simpa using hv)
      · exact ih hconditions.2 hvalues.2
    split
    · split
      · exact goOn _
      · exact hconditions.1.bind fun v _ => (keeps_truth v _).bind fun holds _ => goOn holds
    · exact ih hconditions.2 hvalues.2

/-! ## Expressions, from their parts -/

theorem keeps_junction (j : Junction) {left right : Expr} (hleft : Keeps Value.Harmless (expr run left))
    (hright : Keeps Value.Harmless (expr run right)) (place : Place) :
    Keeps Value.Harmless (expr run (.junction j left right place)) := by
  cases j with
  | and =>
    rw [expr]
    refine (keeps_charge _).bind fun _ _ => hleft.bind fun a _ => ?_
    refine (keeps_truth a _).bind fun holds _ => ?_
    split
    · exact hright.bind fun b _ => (keeps_truth b _).bind fun _ _ => .pure trivial
    · exact .pure trivial
  | or =>
    rw [expr]
    refine (keeps_charge _).bind fun _ _ => hleft.bind fun a _ => ?_
    refine (keeps_truth a _).bind fun holds _ => ?_
    split
    · exact .pure trivial
    · exact hright.bind fun b _ => (keeps_truth b _).bind fun _ _ => .pure trivial
  | coalesce =>
    rw [expr]
    refine (keeps_charge _).bind fun _ _ => hleft.bind fun a ha => ?_
    split
    · exact hright
    · exact .pure ha

theorem keeps_within (hrun : KeepsBodies run) (negated : Bool) {container item : Expr}
    (spelled : container.Spelled Unbound) (hcontainer : Keeps Value.Harmless (expr run container))
    (hitem : Keeps Value.Harmless (expr run item)) (place : Place) :
    Keeps Value.Harmless (expr run (.within negated container item place)) := by
  rw [expr]
  refine (keeps_charge _).bind fun _ _ => ?_
  extract_lets object answered asked
  have answer {b : Value} (hb : b.Harmless) : Keeps Value.Harmless (answered b) := by
    dsimp only [answered]
    split
    · exact Chain.keeps_signed _ _ _
    · exact .pure hb
  have goOn (u : Unit) : Keeps Value.Harmless (asked u) := by
    dsimp only [asked]
    split
    · cases spelled with
      | var free =>
        refine (keeps_callWith hrun _ free.1 _ ?_ _).bind fun b hb => answer hb
        exact hitem.bind fun w hw => .pure (List.forall_mem_singleton.mpr hw)
    · refine hcontainer.bind fun v hv => hitem.bind fun w hw => ?_
      refine (Call.keeps_call hrun false _ (by simp [hv, hw]) false _).bind fun reply hreply => ?_
      exact answer hreply.value
  split
  · exact (keeps_charge _).bind fun _ _ => goOn ()
  · exact goOn ()

/-- A call of a function of the script or the library, of a value, or of what makes such values. -/
theorem keeps_callTo (hrun : KeepsBodies run) {name : String} (free : name ≠ "eval") {args : List Expr}
    (spelled : ∀ e ∈ args, e.Spelled Unbound) (each : ∀ e ∈ args, Keeps Value.Harmless (expr run e)) (place : Place) :
    Keeps Value.Harmless (expr run (.call name args place)) := by
  rw [expr]
  refine (keeps_charge _).bind fun _ _ => ?_
  dsimp only
  -- In the order of evaluation: the four names it knows, then a variable or the object as first argument.
  split
  · refine (each _ List.mem_cons_self).bind fun v _ => ?_
    split
    · exact .pure (by simp)
    · exact keeps_fail trivial
  · rw [List.forall_mem_cons] at each
    refine each.1.bind fun f hf => (keeps_exprs each.2).bind fun args hargs => ?_
    exact keeps_callValue hrun hf hargs _ _
  · simp only [List.forall_mem_cons] at each
    refine each.1.bind fun f hf => ?_
    split
    · refine each.2.1.bind fun v hv => (keeps_exprs each.2.2).bind fun vs hvs => .pure ?_
      refine Value.harmless_function.mpr (List.forall_mem_append.mpr ⟨Value.harmless_function.mp hf, ?_⟩)
      exact List.forall_mem_cons.mpr ⟨hv, hvs⟩
    · exact keeps_fail trivial
  · exact absurd rfl free
  · rw [List.forall_mem_cons] at each spelled
    cases spelled.1 with
    | var read => exact keeps_callWith hrun _ read.1 _ (keeps_exprs each.2) _
  · rw [List.forall_mem_cons] at each
    exact keeps_callWith hrun _ (by decide) _ (keeps_exprs each.2) _
  · refine (keeps_exprs each).bind fun vs hvs => ?_
    exact (Call.keeps_call hrun false _ hvs false _).bind fun reply hreply => .pure hreply.value

/-! ## Statements, from their parts -/

theorem keeps_loop {condition : Option Expr} (hcondition : ∀ e ∈ condition, Keeps Value.Harmless (expr run e))
    {ss : List Stmt} (hbody : ∀ s ∈ ss, Keeps Value.Harmless (stmt run s)) (bodyPlace place : Place) :
    Keeps Value.Harmless (stmt run (.loop condition ss bodyPlace place)) := by
  have rounds := keeps_rounds hbody
  rw [stmt]
  refine (keeps_charge _).bind fun _ _ => ?_
  extract_lets part once endless
  have forever : Keeps (fun v? => ∀ v ∈ v?, v.Harmless) endless := by
    dsimp only [endless]
    split
    · exact (keeps_charge _).bind fun _ _ => rounds
    · exact rounds
  cases condition with
  | none => exact keeps_repeated forever _
  | some e =>
    dsimp only
    split
    · exact keeps_repeated forever _
    · refine keeps_repeated ((hcondition e rfl).bind fun v _ => ?_) _
      refine (keeps_truth v _).bind fun holds _ => ?_
      split
      · exact rounds
      · exact .pure (by simp)

theorem keeps_again {ss : List Stmt} (hbody : ∀ s ∈ ss, Keeps Value.Harmless (stmt run s)) (wanted : Bool)
    {condition : Expr} (hcondition : Keeps Value.Harmless (expr run condition)) (place : Place) :
    Keeps Value.Harmless (stmt run (.again ss wanted condition place)) := by
  have rounds := keeps_rounds hbody
  rw [stmt]
  refine (keeps_charge _).bind fun _ _ => keeps_repeated (rounds.bind fun v? hv => ?_) _
  split
  · exact .pure hv
  · refine hcondition.bind fun v _ => (keeps_truth v _).bind fun b _ => .pure ?_
    split <;> simp

theorem keeps_each (name : String) (counter : Option String) {items : Expr}
    (hitems : Keeps Value.Harmless (expr run items)) {ss : List Stmt}
    (hbody : ∀ s ∈ ss, Keeps Value.Harmless (stmt run s)) (bodyPlace place : Place) :
    Keeps Value.Harmless (stmt run (.each name counter items ss bodyPlace place)) := by
  rw [stmt]
  refine (keeps_charge _).bind fun _ _ => hitems.bind fun v hv => ?_
  split
  · exact keeps_fail trivial
  · next size item found =>
    have hitem := harmless_items? hv _ found
    refine Run.keeps_block ?_
    extract_lets looped
    -- What follows is the same whether the position has a variable or not, in the loop and in each round.
    have goOn (u : Unit) : Keeps Value.Harmless (looped u) := by
      refine (Run.keeps_define name Value.harmless_unit false).bind fun _ _ => ?_
      refine keeps_eachRound size (fun index => ?_) _ _
      extract_lets round
      have goOn (u : Unit) : Keeps (fun v? => ∀ v ∈ v?, v.Harmless) (round u) := by
        refine (Run.keeps_write name (hitem index)).bind fun _ _ => (keeps_charge _).bind fun _ _ => ?_
        split
        · exact .pure (by simp)
        · exact Run.keeps_round (keeps_scoped hbody)
      cases counter with
      | none => exact goOn ()
      | some counter => exact (Run.keeps_write counter (Value.harmless_int _)).bind fun _ _ => goOn ()
    cases counter with
    | none => exact goOn ()
    | some counter => exact (Run.keeps_define counter (Value.harmless_int _) false).bind fun _ _ => goOn ()

/-- An assignment to a variable, to the object of a call, or to the place that a chain leads to. -/
theorem keeps_assign (hrun : KeepsBodies run) {target : Expr} (spelled : target.Spelled Unbound)
    (parts : KeepsTarget run target) (op : Option Operator) {e : Expr} (h : Keeps Value.Harmless (expr run e))
    (place : Place) : Keeps Value.Harmless (stmt run (.assign target op e place)) := by
  rw [stmt.eq_def]
  refine (keeps_charge _).bind fun _ _ => ?_
  have assigned {name : String} {new old : Value} (hnew : new.Harmless) (hold : old.Harmless) :
      Keeps Value.Harmless (do
        Run.write name (← Chain.assigned ⟨op, new, place⟩ old)
        pure Value.unit) := by
    refine Keeps.bind (Chain.keeps_assigned ?_ hold) fun v hv => ?_
    · exact hnew
    · exact (Run.keeps_write name hv).bind fun _ _ => .pure trivial
  dsimp only
  split
  · next name here =>
    cases spelled with
    | var free =>
      refine h.bind fun new hnew => (keeps_charge _).bind fun _ _ => ?_
      refine (Run.keeps_read free.1 here).bind fun old hold => (Run.keeps_slot? name).bind fun slot? _ => ?_
      split
      · exact keeps_fail_bind trivial
      · exact assigned hnew hold
  · refine (keeps_readThis _).bind fun _ _ => h.bind fun new hnew => (keeps_charge _).bind fun _ _ => ?_
    exact (keeps_readThis _).bind fun old hold => assigned hnew hold
  · next root links =>
    cases spelled with
    | chain hroot hlinks =>
      refine h.bind fun new hnew => ?_
      refine (keeps_chain hrun hroot hlinks (keeps_steps parts.2) parts.1 ?_).bind fun _ _ => .pure trivial
      simpa using hnew
  · exact .pure trivial

theorem keeps_attempt {ss : List Stmt} (hbody : ∀ s ∈ ss, Keeps Value.Harmless (stmt run s)) (caught : Option String)
    {handler : List Stmt} (hhandler : ∀ s ∈ handler, Keeps Value.Harmless (stmt run s)) (place : Place) :
    Keeps Value.Harmless (stmt run (.attempt ss caught handler place)) := by
  rw [stmt]
  refine (keeps_charge _).bind fun _ _ => ?_
  refine Keeps.tryCatch ((keeps_scoped hbody).bind fun _ _ => .pure trivial) fun signal hsignal => ?_
  split
  · next fault =>
    split
    · exact keeps_throw hsignal
    · refine Run.keeps_block ?_
      extract_lets handled
      have goOn (u : Unit) : Keeps Value.Harmless (handled u) := by
        refine Keeps.bind (Keeps.tryCatch (keeps_scoped hhandler) fun signal h => ?_) fun _ _ => .pure trivial
        exact keeps_throw (harmless_rethrown hsignal h)
      cases caught with
      | none => exact goOn ()
      | some name => exact (Run.keeps_define name (Fault.harmless_caught hsignal) false).bind fun _ _ => goOn ()
  · exact keeps_throw hsignal

/-! ## Expressions and statements -/

mutual

theorem keeps_expr (hrun : KeepsBodies run) : ∀ {e : Expr}, e.Spelled Unbound → Keeps Value.Harmless (expr run e)
  | _, .const h => by
    rw [expr]
    exact (keeps_charge _).bind fun _ _ => .pure h
  | _, .text h => by
    rw [expr]
    refine (keeps_charge _).bind fun _ _ => ?_
    exact (keeps_textOf fun e he => keeps_expr hrun (h e he)).bind fun _ _ => .pure trivial
  | _, .array h => by
    rw [expr]
    refine (keeps_charge _).bind fun _ _ => (keeps_exprs fun e he => keeps_expr hrun (h e he)).bind fun vs hvs => ?_
    exact .pure (Value.harmless_array.mpr hvs)
  | _, .map h => by
    rw [expr]
    refine (keeps_charge _).bind fun _ _ => ?_
    refine (keeps_memberValues fun m hm => keeps_expr hrun (h m hm)).bind fun vs hvs => ?_
    exact .pure (Value.harmless_map.mpr (harmless_foldl_insertMember (List.forall_mem_nil _) hvs))
  | _, .var free => by
    rw [expr]
    exact (keeps_charge _).bind fun _ _ => Run.keeps_read free.1 _
  | _, .this => by
    rw [expr]
    exact (keeps_charge _).bind fun _ _ => keeps_readThis _
  | _, .qualified => by
    rw [expr]
    exact (keeps_charge _).bind fun _ _ => keeps_fail trivial
  | _, .signed h => by
    rw [expr]
    exact (keeps_charge _).bind fun _ _ => (keeps_expr hrun h).bind fun v _ => Chain.keeps_signed _ v _
  | _, .binary hleft hright => by
    rw [expr]
    refine (keeps_charge _).bind fun _ _ => (keeps_expr hrun hleft).bind fun a ha => ?_
    exact (keeps_expr hrun hright).bind fun b hb => Chain.keeps_binary _ ha hb _
  | _, .junction hleft hright => keeps_junction _ (keeps_expr hrun hleft) (keeps_expr hrun hright) _
  | _, .within hcontainer hitem =>
    keeps_within hrun _ hcontainer (keeps_expr hrun hcontainer) (keeps_expr hrun hitem) _
  | _, .call free hargs => keeps_callTo hrun free.2 hargs (fun e he => keeps_expr hrun (hargs e he)) _
  | _, .chain hroot hlinks => by
    rw [expr]
    refine (keeps_charge _).bind fun _ _ => ?_
    exact keeps_chain hrun hroot hlinks (keeps_steps fun link hlink => keeps_link hrun (hlinks link hlink))
      (keeps_expr hrun hroot) (by simp)
  | _, .block h => by
    rw [expr]
    exact (keeps_charge _).bind fun _ _ => keeps_scoped fun s hs => keeps_stmt hrun (h s hs)
  | _, .closure h => by
    rw [expr]
    refine (keeps_charge _).bind fun _ _ => (keeps_charge _).bind fun _ _ => ?_
    refine (keeps_mapM fun c hc => Run.keeps_share (h c hc).1 c.2).bind fun cells hcells => ?_
    refine (keeps_charge _).bind fun _ _ => (keeps_charge _).bind fun _ _ => ?_
    exact (Run.keeps_chargeEach _).bind fun _ _ => .pure (Value.harmless_function.mpr hcells)

theorem keeps_link (hrun : KeepsBodies run) : ∀ {link : Link}, link.Spelled Unbound → KeepsLink run link
  | _, .property => trivial
  | _, .method _ hargs => fun e he => keeps_expr hrun (hargs e he)
  | _, .index h => keeps_expr hrun h

theorem keeps_target (hrun : KeepsBodies run) : ∀ {e : Expr}, e.Spelled Unbound → KeepsTarget run e
  | _, .chain hroot hlinks => ⟨keeps_expr hrun hroot, fun link hlink => keeps_link hrun (hlinks link hlink)⟩
  | _, .const _ | _, .text _ | _, .array _ | _, .map _ | _, .var _ | _, .this | _, .qualified => trivial
  | _, .signed _ | _, .binary _ _ | _, .junction _ _ | _, .within _ _ | _, .call _ _ => trivial
  | _, .block _ | _, .closure _ => trivial

theorem keeps_stmt (hrun : KeepsBodies run) : ∀ {s : Stmt}, s.Spelled Unbound → Keeps Value.Harmless (stmt run s)
  | _, .nothing => by
    rw [stmt]
    exact (keeps_charge _).bind fun _ _ => .pure trivial
  | _, .expr h => by
    rw [stmt]
    split
    · exact keeps_expr hrun h
    · exact (keeps_charge _).bind fun _ _ => keeps_expr hrun h
  | _, .block h => by
    rw [stmt]
    exact (keeps_charge _).bind fun _ _ => keeps_scoped fun s hs => keeps_stmt hrun (h s hs)
  | _, .choose hcondition hyes hno => by
    rw [stmt]
    refine (keeps_charge _).bind fun _ _ => (keeps_expr hrun hcondition).bind fun v _ => ?_
    refine (keeps_truth v _).bind fun holds _ => ?_
    split
    · exact keeps_scoped fun s hs => keeps_stmt hrun (hyes s hs)
    · exact keeps_scoped fun s hs => keeps_stmt hrun (hno s hs)
  | _, .switch hsubject hconditions hvalues => by
    have first (fits : List Value → Bool) := keeps_firstCase fits (fun c hc => keeps_expr hrun (hconditions c hc))
      fun c hc => keeps_expr hrun (hvalues c hc)
    rw [stmt]
    refine (keeps_charge _).bind fun _ _ => (keeps_expr hrun hsubject).bind fun v _ => (first _).bind fun v? hv => ?_
    split
    · next v => exact .pure (hv v rfl)
    · exact (first _).bind fun v? hv => .pure (harmless_getD hv)
  | _, .loop hcondition hbody =>
    keeps_loop (fun e he => keeps_expr hrun (hcondition e he)) (fun s hs => keeps_stmt hrun (hbody s hs)) _ _
  | _, .again hbody hcondition =>
    keeps_again (fun s hs => keeps_stmt hrun (hbody s hs)) _ (keeps_expr hrun hcondition) _
  | _, .each hitems hbody =>
    keeps_each _ _ (keeps_expr hrun hitems) (fun s hs => keeps_stmt hrun (hbody s hs)) _ _
  | _, .define h => by
    rw [stmt]
    refine (keeps_charge _).bind fun _ _ => (keeps_expr hrun h).bind fun v hv => ?_
    exact (Run.keeps_define _ hv _).bind fun _ _ => .pure trivial
  | _, .assign htarget h => keeps_assign hrun htarget (keeps_target hrun htarget) _ (keeps_expr hrun h) _
  | _, .next => by
    rw [stmt]
    exact (keeps_charge _).bind fun _ _ => keeps_throw trivial
  | .leave none _, .leave _ _ => by
    rw [stmt]
    exact (keeps_charge _).bind fun _ _ => keeps_throw trivial
  | .leave (some e) _, .leave _ h => by
    rw [stmt]
    exact (keeps_charge _).bind fun _ _ => (keeps_expr hrun (h e rfl)).bind fun v hv => keeps_throw hv
  | .give none _, .give _ _ => by
    rw [stmt]
    exact (keeps_charge _).bind fun _ _ => keeps_throw trivial
  | .give (some e) _, .give _ h => by
    rw [stmt]
    exact (keeps_charge _).bind fun _ _ => (keeps_expr hrun (h e rfl)).bind fun v hv => keeps_throw hv
  | .throw none _, .throw _ => by
    rw [stmt]
    exact (keeps_charge _).bind fun _ _ => keeps_fail trivial
  | .throw (some e) _, .throw h => by
    rw [stmt]
    exact (keeps_charge _).bind fun _ _ => (keeps_expr hrun (h e rfl)).bind fun v hv => keeps_fail hv
  | _, .attempt hbody hhandler =>
    keeps_attempt (fun s hs => keeps_stmt hrun (hbody s hs)) _ (fun s hs => keeps_stmt hrun (hhandler s hs)) _

end

/-- The bodies of functions, with calls nested to any depth. -/
theorem keepsBodies_body (depth : Nat) : KeepsBodies (body depth) := by
  induction depth with
  | zero => exact fun _ _ => keeps_fail trivial
  | succ depth ih => exact fun statements h => keeps_stmts fun s hs => keeps_stmt ih (h s hs)

end Eval

namespace Session

theorem sealed_machine (s : Session) (now : Int) {functions : List Function}
    (h : ∀ f ∈ functions, f.Spelled Unbound) : (s.machine now functions).Sealed where
  scope := List.forall_mem_singleton.mpr fun named => absurd rfl named
  cells := by simp [machine]
  functions := h

/-- A script whose tree neither reads the binding nor calls `eval` does not move the random stream. -/
theorem generator_run (s : Session) (now : Int) {p : Program} (h : p.Spelled Unbound) :
    (s.run now p).2.generator = s.generator := by
  have whole : Keeps Value.Harmless (do Run.follow (← Eval.body Eval.depths p.body)) :=
    (Eval.keepsBodies_body Eval.depths p.body h.body).bind fun v hv => Run.keeps_follow hv
  exact (whole _ (s.sealed_machine now h.functions)).generator

/-- Evaluation leaves the random stream where it was unless the text names the binding or `eval`. -/
theorem generator_evaluate (s : Session) (now : Int) {text : String}
    (hbinding : ¬ Binding.name.toList <:+: text.toList) (heval : ¬ "eval".toList <:+: text.toList) :
    (s.evaluate now text).2.generator = s.generator := by
  unfold evaluate
  split
  · rfl
  · next p read =>
    have spelled : p.Spelled Unbound := by
      refine spelled_parse read fun w part => ⟨?_, ?_⟩
      · rintro rfl
        exact hbinding part
      · rintro rfl
        exact heval part
    exact generator_run s now (Simplify.spelled_program spelled)

end Session

end Fixtures.Script
