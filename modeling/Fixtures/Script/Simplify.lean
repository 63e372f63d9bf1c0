import Fixtures.Script.Library
import Fixtures.Script.Tree

/-!
# Simplification

A script is simplified before it runs, and what is left out can no longer fail: a statement without
effect is dropped unless it is the last, so `nope; 1` gives 1 though there is no such variable. One sweep
from the leaves to the root applies every rule, since no rule makes a part that another could simplify.

## Shape of a sweep

`isPure` says which expressions have no effect. `fold?` evaluates operators between literals, and `tidy`
cleans up the statements of a block.
-/

namespace Fixtures.Script

namespace Simplify

/-! ## Parts without effect -/

/-- The value of a literal. -/
def const? : Expr → Option Value
  | .const v _ => some v
  | _ => none

/-- The values of expressions that are all literals. -/
def consts? : List Expr → Option (List Value)
  | [] => some []
  | e :: rest => do pure ((← const? e) :: (← consts? rest))

/-- The members of a map whose values are all literals. -/
def constMembers? : List (String × Expr) → Option (List (String × Value))
  | [] => some []
  | (name, e) :: rest => do pure ((name, ← const? e) :: (← constMembers? rest))

mutual

/-- Whether an expression has no effect, apart from a variable that does not exist. -/
def isPure : Expr → Bool
  | .const .. | .var .. => true
  | .text parts _ => arePure parts
  | .array items _ => arePure items
  | .map members _ => areMembersPure members
  | .junction _ left right _ => isPure left && isPure right
  | .block body _ => areStmtsPure body
  | _ => false

/-- Whether expressions have no effect. -/
def arePure : List Expr → Bool
  | [] => true
  | e :: rest => isPure e && arePure rest

/-- Whether the members of a map have no effect. -/
def areMembersPure : List (String × Expr) → Bool
  | [] => true
  | (_, e) :: rest => isPure e && areMembersPure rest

/-- Whether the cases of a switch have no effect. -/
def areCasesPure : List (List Value × Expr × Expr) → Bool
  | [] => true
  | (_, condition, e) :: rest => isPure condition && isPure e && areCasesPure rest

/-- Whether a statement has no effect. -/
def isStmtPure : Stmt → Bool
  | .nothing _ => true
  | .expr e => isPure e
  | .block body _ => areStmtsPure body
  | .choose condition yes no _ => isPure condition && areStmtsPure yes && areStmtsPure no
  | .switch subject cases _ => isPure subject && areCasesPure cases
  | .each _ _ items body _ _ => isPure items && areStmtsPure body
  | .attempt body _ handler _ => areStmtsPure body && areStmtsPure handler
  | _ => false

/-- Whether statements have no effect. -/
def areStmtsPure : List Stmt → Bool
  | [] => true
  | s :: rest => isStmtPure s && areStmtsPure rest

end

/-- Whether a statement has a value. -/
def hasValue : Stmt → Bool
  | .choose .. | .switch .. | .block .. | .expr _ => true
  | _ => false

/-- Whether nothing behind a statement is reached. -/
def endsFlow : Stmt → Bool
  | .next _ | .leave .. | .give .. | .throw .. => true
  | _ => false

/-! ## Blocks -/

/-- Whether a statement defines a variable of its block. -/
def defines : Stmt → Bool
  | .define .. => true
  | _ => false

/-- The statements that stand for a statement in its block: a block that defines no variables gives its
own. -/
def opened : Stmt → List Stmt
  | s@(.block body _) => if body.any defines then [s] else body
  | s => [s]

/-- The statements up to the first that ends the flow. -/
def reached : List Stmt → List Stmt
  | [] => []
  | s :: rest => if endsFlow s then [s] else s :: reached rest

/-- The statements without those that have no effect; the last is kept if its value counts. -/
def effective (keep : Bool) : List Stmt → List Stmt
  | [] => []
  | [s] => if isStmtPure s && !keep then [] else [s]
  | s :: rest => if isStmtPure s then effective keep rest else s :: effective keep rest

/-- The statements, the last first, without those at the end that have neither an effect nor a value. A
statement that does nothing stays behind one whose value does not count. -/
def trimmed : List Stmt → List Stmt
  | [] => []
  | [s] => if isStmtPure s && !hasValue s then [] else [s]
  | s :: before :: rest =>
    if isStmtPure s && !hasValue s then
      if hasValue before then .nothing s.place :: before :: rest else trimmed (before :: rest)
    else s :: before :: rest

/-- The statements of a block, simplified; the value of the last counts if `keep`. -/
def tidy (keep : Bool) (statements : List Stmt) : List Stmt :=
  let statements := effective keep (reached (statements.flatMap opened))
  if keep then (trimmed statements.reverse).reverse else statements

/-! ## Expressions -/

/-- The value of an operator between literals. -/
def fold? (op : Operator) (a b : Expr) : Option Value := do
  match ← Operation.basic? op (← const? a) (← const? b) with
  | .ok v => pure v
  | .error _ => none

/-- A junction, if one of its operands settles it or does not count. -/
def junction (j : Junction) (left right : Expr) (place : Place) : Expr :=
  match j, left, right with
  | .and, .const (.bool true) _, right => right
  | .and, .const (.bool false) _, _ => left
  | .and, left, .const (.bool true) _ => left
  | .or, .const (.bool false) _, right => right
  | .or, .const (.bool true) _, _ => left
  | .or, left, .const (.bool false) _ => left
  | .coalesce, .const .unit _, right => right
  | .coalesce, .const _ _, _ => left
  | j, left, right => .junction j left right place

/-- The item of an array literal whose items have no effect, or a member of such a map. -/
def selected? (root : Expr) (link : Link) : Option Expr :=
  let item (items : List Expr) (n : Int64) : Option Expr :=
    if arePure items then (Library.position? items.length n.toInt).bind fun p => items[p]? else none
  let member (members : List (String × Expr)) (name : String) (place : Place) : Option Expr :=
    if areMembersPure members then some ((members.lookup name).getD (.const .unit place)) else none
  match root, link with
  | .array items _, .index (.const (.int n) _) _ _ => item items n
  | .const (.array items) place, .index (.const (.int n) _) _ _ =>
    item (items.map (.const · place)) n
  | .map members place, .index (.const (.string name) _) _ _ => member members name place
  | .map members place, .property name _ _ _ => member members name place
  | .const (.map members) place, .index (.const (.string name) _) _ _ =>
    member (members.map fun (n, v) => (n, .const v place)) name place
  | .const (.map members) place, .property name _ _ _ =>
    member (members.map fun (n, v) => (n, .const v place)) name place
  | _, _ => none

/-- A chain, or what its only link selects from a literal. -/
def chain (root : Expr) (links : List Link) : Expr :=
  match links with
  | [link] => (selected? root link).getD (.chain root links)
  | links => .chain root links

/-- A block of statements as a statement. -/
def blockStmt (statements : List Stmt) (place : Place) : Stmt :=
  match statements with
  | [] => .nothing place
  | [s] => if defines s then .block [s] place else s
  | statements => .block statements place

/-- A choice, or the part of it that a literal condition leaves. -/
def choose (keep : Bool) (condition : Expr) (yes no : List Stmt) (place : Place) : Stmt :=
  match condition, yes, no with
  | .const (.bool true) _, yes, _ => blockStmt yes place
  | .const (.bool false) _, _, no => blockStmt no place
  | condition, [], [] =>
    if keep then .block (tidy false [.expr condition] ++ [.nothing place]) place else .expr condition
  | condition, yes, no => .choose condition yes no place

mutual

/-- Simplifies an expression. -/
def expr : Expr → Expr
  | .text parts place =>
    let parts := exprs parts
    match consts? parts with
    | some values =>
      .const (.string (values.foldl (fun text v => text ++ v.display) "")) place
    | none => .text parts place
  | .array items place =>
    let items := exprs items
    match consts? items with
    | some values => .const (.array values) place
    | none => .array items place
  | .map m place =>
    let m := members m
    match constMembers? m with
    | some values =>
      .const (.map (values.foldl (fun map (name, v) => insertMember map name v) [])) place
    | none => .map m place
  | .qualified path args place => .qualified path args place
  | .signed sign operand place => .signed sign (expr operand) place
  | .binary op left right place =>
    let left := expr left
    let right := expr right
    match fold? op left right with
    | some v => .const v place
    | none => .binary op left right place
  | .junction j left right place => junction j (expr left) (expr right) place
  | .within negated container item place => .within negated (expr container) (expr item) place
  | .call name args place => .call name (exprs args) place
  | .chain root parts => chain (expr root) (links parts)
  | .block body place =>
    match tidy true (stmts true body) with
    | [] => .const .unit place
    | [.expr e] => e
    | body => .block body place
  | .const v place => .const v place
  | .var name place => .var name place
  | .this place => .this place
  | .closure name captured place => .closure name captured place

/-- Simplifies expressions. -/
def exprs : List Expr → List Expr
  | [] => []
  | e :: rest => expr e :: exprs rest

/-- Simplifies the members of a map. -/
def members : List (String × Expr) → List (String × Expr)
  | [] => []
  | (name, e) :: rest => (name, expr e) :: members rest

/-- Simplifies the cases of a switch. -/
def cases : List (List Value × Expr × Expr) → List (List Value × Expr × Expr)
  | [] => []
  | (labels, condition, e) :: rest => (labels, expr condition, expr e) :: cases rest

/-- Simplifies the indices and arguments of links. -/
def links : List Link → List Link
  | [] => []
  | .property name place dot optional :: rest => .property name place dot optional :: links rest
  | .method name args place dot optional :: rest =>
    .method name (exprs args) place dot optional :: links rest
  | .index e bracket optional :: rest => .index (expr e) bracket optional :: links rest

/-- Simplifies statements one by one; the value of the last counts if `keep`. -/
def stmts (keep : Bool) : List Stmt → List Stmt
  | [] => []
  | [s] => [stmt keep s]
  | s :: rest => stmt false s :: stmts keep rest

/-- Simplifies a statement. -/
def stmt (keep : Bool) : Stmt → Stmt
  | .nothing place => .nothing place
  | .expr e => .expr (expr e)
  | .block body place => blockStmt (tidy keep (stmts keep body)) place
  | .choose condition yes no place =>
    choose keep (expr condition) (tidy keep (stmts keep yes)) (tidy keep (stmts keep no)) place
  | .switch subject parts place => .switch (expr subject) (cases parts) place
  | .loop none body bodyPlace place => .loop none (tidy false (stmts false body)) bodyPlace place
  | .loop (some condition) body bodyPlace place =>
    match expr condition with
    | .const (.bool false) _ => .nothing place
    | condition => .loop (some condition) (tidy false (stmts false body)) bodyPlace place
  | .again body wanted condition place =>
    .again (tidy false (stmts false body)) wanted (expr condition) place
  | .each name counter items body bodyPlace place =>
    .each name counter (expr items) (tidy false (stmts false body)) bodyPlace place
  | .define name e constant place => .define name (expr e) constant place
  | .assign target op e place => .assign (expr target) op (expr e) place
  | .next place => .next place
  | .leave none place => .leave none place
  | .leave (some e) place => .leave (some (expr e)) place
  | .give none place => .give none place
  | .give (some e) place => .give (some (expr e)) place
  | .throw none place => .throw none place
  | .throw (some e) place => .throw (some (expr e)) place
  | .attempt body caught handler place =>
    let body := tidy false (stmts false body)
    if areStmtsPure body then blockStmt body place
    else .attempt body caught (tidy false (stmts false handler)) place

end

/-- Simplifies a function. -/
def function (f : Function) : Function := { f with body := tidy true (stmts true f.body) }

/-- Simplifies a script. -/
def program (p : Program) : Program :=
  ⟨tidy true (stmts true p.body), p.functions.map function⟩

end Simplify

end Fixtures.Script
