import Fixtures.Script.Chain
import Fixtures.Script.Grammar

/-!
# Evaluation

Expressions and statements are evaluated by recursion on them; loops repeat until the limit of
operations ends the script. The bodies of functions, and scripts read while a script runs, are not parts
of the expression that calls them, so evaluation takes the runner of bodies as an argument.

## Shape of an evaluation

`body depth` runs statements in which at most `depth` calls may be nested; it is what evaluation at the
next depth takes as its runner.
-/

namespace Fixtures.Script

namespace Eval

/-! ## Loops -/

/-- More rounds than the limit of operations allows. -/
def rounds : Nat := Run.operationLimit + 2

/-- Repeats the rounds of a loop. -/
def repeated (round : Run (Option Value)) (place : Place) : Run Value :=
  Run.repeating round (Run.fail .tooManyOperations place) rounds

/-- The truth of a value. -/
def truth (v : Value) (place : Place) : Run Bool :=
  match v with
  | .bool b => pure b
  | v => Run.fail (.wrongType v.fullTypeName "bool") place

/-- The number of items of a value and the item at a position, if it has items. -/
def items? : Value → Option (Nat × (Nat → Value))
  | .array items =>
    let items := items.toArray
    some (items.size, fun n => (items[n]?).getD .unit)
  | .string s =>
    let chars := s.toList.toArray
    some (chars.size, fun n => .char ((chars[n]?).getD ' '))
  | .range first last closed =>
    some ((last.toInt - first.toInt + if closed then 1 else 0).toNat,
      fun n => .int (Int64.ofInt (first.toInt + n)))
  | _ => none

/-- The rounds of a loop over items, from a position on. -/
def eachRound (size : Nat) (step : Nat → Run (Option Value)) :
    (fuel index : Nat) → Run Value
  | 0, _ => pure .unit
  | fuel + 1, index => fun m =>
    if index < size then
      match step index m with
      | (.ok none, m) => eachRound size step fuel (index + 1) m
      | (.ok (some v), m) => (.ok v, m)
      | (.error signal, m) => (.error signal, m)
    else (.ok .unit, m)

/-! ## Cases -/

/-- Whether a label is that of a value. -/
def fitsLabel (v label : Value) : Bool :=
  match label with
  | .range .. => false
  | label => Operation.sameType v label && v == label

/-- Whether a label is a range that holds a value. -/
def fitsRange (v label : Value) : Bool :=
  match v, label with
  | .int n, .range first last closed => first ≤ n && if closed then n ≤ last else n < last
  | _, _ => false

/-- Which labels make a case one for a value: those equal to it, and if no case has one, the ranges that
hold it. -/
def fitting (v : Value) (cases : List (List Value × Expr × Expr)) : List Value → Bool :=
  if cases.any (·.1.any (fitsLabel v)) then (·.any (fitsLabel v)) else (·.any (fitsRange v))

/-! ## Links -/

/-- Where the evaluation of the arguments of some links is counted. -/
def linkPlace : List Link → Place
  | [.property _ place _ _] => place
  | [.method _ _ place _ _] => place
  | [.index e _ _] => e.place
  | _ :: .property _ _ dot _ :: _ => dot
  | _ :: .method _ _ _ dot _ :: _ => dot
  | _ :: .index _ bracket _ :: _ => bracket
  | [] => Place.nowhere

/-- Whether an expression is a literal. -/
def isConst : Expr → Bool
  | .const .. => true
  | _ => false

/-- The truth of a literal. -/
def constBool? : Expr → Option Bool
  | .const (.bool b) _ => some b
  | _ => none

/-- Whether an expression that is a statement counts as one operation. -/
def countsOnce : Expr → Bool
  | .call .. | .binary .. | .signed .. | .within .. => true
  | _ => false

/-- Whether the arguments of a chain need no evaluation. -/
def isSimple : List Link → Bool
  | [.property ..] => true
  | [.method _ args _ _ _] => args.all isConst
  | [.index e _ _] => isConst e
  | _ => false

/-- The step of a link whose arguments are literals. -/
def constStep : Link → Step
  | .property name place _ optional => .property name place optional
  | .method name args place _ optional =>
    .method name (args.map constValue) ((args.head?.map Expr.start).getD Place.nowhere) place optional
  | .index e bracket optional => .index (constValue e) e.start bracket optional
where
  /-- The value of a literal. -/
  constValue : Expr → Value
    | .const v _ => v
    | _ => .unit

/-! ## Variables and scripts -/

/-- Whether a variable may be changed by a function that takes it as first argument. -/
def isChangeable (slot : Slot) : Bool :=
  match slot.value with
  | .cell _ => false
  | _ => !slot.constant

/-- Calls a function whose first argument is a variable; `name` is that of the variable. -/
def callWith (run : Body) (function name : String) (here : Place) (rest : Run (List Value))
    (place : Place) : Run Value := do
  Run.charge here
  let args ← rest
  let value ← Run.read name here
  let byReference := ((← Run.slot? name).map isChangeable).getD false
  let reply ← Call.call run false function (value :: args) byReference place
  match byReference, reply.first with
  | true, some new => Run.write name new
  | _, _ => pure ()
  pure reply.value

/-- Walks a chain from a variable, which may change. -/
def walkFrom (run : Body) (name : String) (here : Place) (a : Option Assignment) (steps : List Step) :
    Run Value := do
  Run.charge here
  let value ← Run.read name here
  let slot? ← Run.slot? name
  let constant := (slot?.map (·.constant)).getD false
  if constant && a.isSome then Run.fail (.constant name) here
  let reply ← Run.locking ((slot?.map (·.value)).getD .unit) (Chain.walk run a steps value)
  match reply.first with
  | some new => if constant then pure () else Run.write name new
  | none => pure ()
  pure reply.value

/-- The place of the object that a function is called on. -/
def readThis (place : Place) : Run Value := do
  match ← Run.slot? Call.thisName with
  | some slot => Run.follow slot.value
  | none => Run.fail .unboundThis place

/-- Walks a chain from its root: a variable, or what has a value of its own. -/
def chain (run : Body) (root : Expr) (links : List Link) (evaluated : Run (List Step))
    (value : Run Value) (a : Option Assignment) : Run Value := do
  let steps ← if isSimple links then pure (links.map constStep) else evaluated
  match root with
  | .var name here => walkFrom run name here a steps
  | .this here => do
    let _ ← readThis here
    walkFrom run Call.thisName here a steps
  | _ => do
    let v ← value
    pure (← Chain.walk run a steps v).value

/-- Runs a script that is the value of an argument. -/
def evalText (run : Body) (v : Value) (here place : Place) : Run Value := do
  match v with
  | .string text =>
    let part : Run Value := do
      match parse text (← get).functions.length with
      | .error refusal => Run.fail (.refused refusal) refusal.place
      | .ok program =>
        modify fun m => { m with functions := program.functions ++ m.functions }
        run program.body
    tryCatch part fun
      | .give v => pure v
      | .fault fault => throw (.fault (fault.leaving "eval" place))
      | signal => throw signal
  | v => Run.fail (.wrongType v.fullTypeName "string") here

/-- Calls a function value with arguments. -/
def callValue (run : Body) (v : Value) (args : List Value) (here place : Place) : Run Value := do
  match v with
  | .function name given => do pure (← Call.call run false name (given ++ args) false place).value
  | v => Run.fail (.wrongType v.typeName "Fn") here

/-- A fault as it is thrown again by the handler that caught it. -/
def rethrown (original : Fault) (signal : Signal) : Signal :=
  match signal with
  | .fault ⟨.thrown .unit, place, []⟩ => .fault (original.movedTo place)
  | signal => signal

/-! ## Expressions and statements -/

mutual

/-- Evaluates an expression. -/
def expr (run : Body) : Expr → Run Value
  | .const v place => do
    Run.charge place
    pure v
  | .text parts place => do
    Run.charge place
    pure (.string (← textOf run parts))
  | .array items place => do
    Run.charge place
    pure (.array (← exprs run items))
  | .map members place => do
    Run.charge place
    let members ← memberValues run members
    pure (.map (members.foldl (fun map (name, value) => insertMember map name value) []))
  | .var name place => do
    Run.charge place
    Run.read name place
  | .this place => do
    Run.charge place
    readThis place
  | .qualified path _ place => do
    Run.charge place
    Run.fail (.unknownModule path) place
  | .block body place => do
    Run.charge place
    Run.block (stmts run body)
  | .closure name captured place => do
    Run.charge place
    Run.charge place
    let cells ← captured.mapM fun (name, here) => Run.share name here
    Run.charge place
    Run.charge place
    Run.chargeEach (captured.map (·.2))
    pure (.function name cells)
  | .signed sign operand place => do
    Run.charge place
    Chain.signed sign (← expr run operand) place
  | .binary op left right place => do
    Run.charge place
    let a ← expr run left
    let b ← expr run right
    Chain.binary op a b place
  | .junction .and left right place => do
    Run.charge place
    if ← truth (← expr run left) left.place then
      pure (.bool (← truth (← expr run right) right.place))
    else pure (.bool false)
  | .junction .or left right place => do
    Run.charge place
    if ← truth (← expr run left) left.place then pure (.bool true)
    else pure (.bool (← truth (← expr run right) right.place))
  | .junction .coalesce left right place => do
    Run.charge place
    match ← expr run left with
    | .unit => expr run right
    | v => pure v
  | .within negated container item place => do
    Run.charge place
    if negated then Run.charge place
    let object : Run Value := expr run container
    let found ←
      match container with
      | .var name here =>
        callWith run "contains" name here (do pure [← expr run item]) place
      | _ => do
        let object ← object
        let v ← expr run item
        pure (← Call.call run false "contains" [object, v] false place).value
    if negated then Chain.signed .not found place else pure found
  | .call name args place => do
    Run.charge place
    let values : Run (List Value) := exprs run args
    match name, args with
    | "Fn", [e] =>
      match ← expr run e with
      | .string s => pure (.function s [])
      | v => Run.fail (.wrongType v.fullTypeName "string") e.start
    | "call", e :: rest => do
      let f ← expr run e
      let args ← exprs run rest
      callValue run f args e.start place
    | "curry", e :: next :: rest => do
      match ← expr run e with
      | .function f given =>
        let v ← expr run next
        pure (.function f (given ++ v :: (← exprs run rest)))
      | v => Run.fail (.wrongType v.typeName "Fn") e.start
    | "eval", [e] => do evalText run (← expr run e) e.start place
    | _, .var x here :: rest => callWith run name x here (exprs run rest) place
    | _, .this here :: rest => callWith run name Call.thisName here (exprs run rest) place
    | _, _ => do pure (← Call.call run false name (← values) false place).value
  | .chain root links => do
    Run.charge (linkPlace (.index root Place.nowhere false :: links))
    chain run root links (steps run links) (expr run root) none

/-- Evaluates expressions in order. -/
def exprs (run : Body) : List Expr → Run (List Value)
  | [] => pure []
  | e :: rest => do
    let v ← expr run e
    pure (v :: (← exprs run rest))

/-- Evaluates the members of a map in order. -/
def memberValues (run : Body) : List (String × Expr) → Run (List (String × Value))
  | [] => pure []
  | (name, e) :: rest => do
    let v ← expr run e
    pure ((name, v) :: (← memberValues run rest))

/-- Evaluates the parts of a text and joins them. -/
def textOf (run : Body) : List Expr → Run String
  | [] => pure ""
  | e :: rest => do
    let text ←
      match ← expr run e with
      | .string s => pure s
      | v => do
        Run.charge e.place
        pure v.display
    pure (text ++ (← textOf run rest))

/-- Evaluates the indices and arguments of links in order. -/
def steps (run : Body) : List Link → Run (List Step)
  | [] => pure []
  | link :: rest => do
    Run.charge (linkPlace (link :: rest))
    let step : Step ←
      match link with
      | .property name place _ optional => pure (.property name place optional)
      | .method name args place _ optional => do
        let values ← exprs run args
        pure (.method name values ((args.head?.map Expr.start).getD Place.nowhere) place optional)
      | .index e bracket optional => do pure (.index (← expr run e) e.start bracket optional)
    pure (step :: (← steps run rest))

/-- Finds the first case that has fitting labels and whose condition holds, and evaluates it. -/
def firstCase (run : Body) (fits : List Value → Bool) :
    List (List Value × Expr × Expr) → Run (Option Value)
  | [] => pure none
  | (labels, condition, e) :: rest => do
    if fits labels then
      let holds ←
        match constBool? condition with
        | some b => pure b
        | none => do truth (← expr run condition) condition.place
      if holds then do pure (some (← expr run e)) else firstCase run fits rest
    else firstCase run fits rest

/-- Runs statements in order; the value is that of the last. -/
def stmts (run : Body) : List Stmt → Run Value
  | [] => pure .unit
  | [s] => stmt run s
  | s :: rest => do
    let _ ← stmt run s
    stmts run rest

/-- Runs a statement. -/
def stmt (run : Body) : Stmt → Run Value
  | .nothing place => do
    Run.charge place
    pure .unit
  | .expr e => do
    if countsOnce e then expr run e
    else
      Run.charge e.start
      expr run e
  | .block body place => do
    Run.charge place
    Run.block (stmts run body)
  | .choose condition yes no place => do
    Run.charge place
    if ← truth (← expr run condition) condition.place then Run.block (stmts run yes)
    else Run.block (stmts run no)
  | .switch subject cases place => do
    Run.charge place
    let v ← expr run subject
    match ← firstCase run (fitting v cases) cases with
    | some v => pure v
    | none => do pure ((← firstCase run List.isEmpty cases).getD .unit)
  | .loop condition body bodyPlace place => do
    Run.charge place
    let part : Run Value := if body.isEmpty then pure .unit else Run.block (stmts run body)
    let endless : Run (Option Value) := do
      if body.isEmpty then Run.charge bodyPlace
      Run.round part
    match condition with
    | none => repeated endless bodyPlace
    | some e =>
      if constBool? e = some true then repeated endless bodyPlace
      else
        repeated
          (do
            if ← truth (← expr run e) e.place then Run.round part else pure (some .unit))
          bodyPlace
  | .again body wanted condition place => do
    Run.charge place
    let part : Run Value := if body.isEmpty then pure .unit else Run.block (stmts run body)
    repeated
      (do
        match ← Run.round part with
        | some v => pure (some v)
        | none =>
          let b ← truth (← expr run condition) condition.place
          pure (if b = wanted then none else some .unit))
      place
  | .each name counter items body bodyPlace place => do
    Run.charge place
    let v ← expr run items
    match items? v with
    | none => Run.fail .noItems items.start
    | some (size, item) =>
      Run.block do
        match counter with
        | some counter => Run.define counter (.int 0) false
        | none => pure ()
        Run.define name .unit false
        eachRound size
          (fun index => do
            match counter with
            | some counter => Run.write counter (.int (Int64.ofNat index))
            | none => pure ()
            Run.write name (item index)
            Run.charge bodyPlace
            if body.isEmpty then pure none else Run.round (Run.block (stmts run body)))
          rounds 0
  | .define name e constant place => do
    Run.charge place
    let v ← expr run e
    Run.define name v constant
    pure .unit
  | .assign target op e place => do
    Run.charge target.start
    match target with
    | .var name here => do
      let new ← expr run e
      Run.charge here
      let old ← Run.read name here
      if ((← Run.slot? name).map (·.constant)).getD false then Run.fail (.constant name) here
      Run.write name (← Chain.assigned ⟨op, new, place⟩ old)
      pure .unit
    | .this here => do
      let _ ← readThis here
      let new ← expr run e
      Run.charge here
      let old ← readThis here
      Run.write Call.thisName (← Chain.assigned ⟨op, new, place⟩ old)
      pure .unit
    | .chain root links => do
      let new ← expr run e
      let _ ← chain run root links (steps run links) (expr run root) (some ⟨op, new, place⟩)
      pure .unit
    | _ => pure .unit
  | .next place => do
    Run.charge place
    throw .next
  | .leave e place => do
    Run.charge place
    match e with
    | some e => do throw (.leave (← expr run e))
    | none => throw (.leave .unit)
  | .give e place => do
    Run.charge place
    match e with
    | some e => do throw (.give (← expr run e))
    | none => throw (.give .unit)
  | .throw e place => do
    Run.charge place
    match e with
    | some e => do Run.fail (.thrown (← expr run e)) place
    | none => Run.fail (.thrown .unit) place
  | .attempt body caught handler place => do
    Run.charge place
    tryCatch
      (do
        let _ ← Run.block (stmts run body)
        pure .unit)
      fun
        | .fault fault =>
          if fault.cause.isFinal then throw (.fault fault)
          else
            Run.block do
              match caught with
              | some name => Run.define name fault.caught false
              | none => pure ()
              let _ ← tryCatch (Run.block (stmts run handler)) fun signal =>
                throw (rethrown fault signal)
              pure .unit
        | signal => throw signal

end

/-- Runs statements in which so many calls may be nested. -/
def body : (depth : Nat) → Body
  | 0 => fun _ => Run.fail .tooManyCalls Place.nowhere
  | depth + 1 => fun statements => stmts (body depth) statements

/-- More nested calls than the limit allows. -/
def depths : Nat := 2 * Run.callLimit

end Eval

end Fixtures.Script
