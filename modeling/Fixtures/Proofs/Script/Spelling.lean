import Fixtures.Proofs.Script.Harmless

/-!
# The words of a tree

What a script can reach is a matter of the names that it reads and calls. A tree is spelled in some words if
these names are among them, as are the words by which it leaves loops and functions, and if no literal in it
holds a fake value. Names that are only defined, properties and labels of cases may be any.
-/

namespace Fixtures.Script

variable (words : String → Prop)

mutual

/-- An expression that reads and calls names among `words` only. -/
inductive Expr.Spelled : Expr → Prop
  | const {v : Value} {place : Place} : v.Harmless → Expr.Spelled (.const v place)
  | text {parts : List Expr} {place : Place} : (∀ e ∈ parts, Expr.Spelled e) → Expr.Spelled (.text parts place)
  | array {items : List Expr} {place : Place} : (∀ e ∈ items, Expr.Spelled e) → Expr.Spelled (.array items place)
  | map {members : List (String × Expr)} {place : Place} :
    (∀ m ∈ members, Expr.Spelled m.2) → Expr.Spelled (.map members place)
  | var {name : String} {place : Place} : words name → Expr.Spelled (.var name place)
  | this {place : Place} : Expr.Spelled (.this place)
  | qualified {path : String} {args : List Expr} {place : Place} : Expr.Spelled (.qualified path args place)
  | signed {sign : Sign} {operand : Expr} {place : Place} :
    Expr.Spelled operand → Expr.Spelled (.signed sign operand place)
  | binary {op : Operator} {left right : Expr} {place : Place} :
    Expr.Spelled left → Expr.Spelled right → Expr.Spelled (.binary op left right place)
  | junction {j : Junction} {left right : Expr} {place : Place} :
    Expr.Spelled left → Expr.Spelled right → Expr.Spelled (.junction j left right place)
  | within {negated : Bool} {container item : Expr} {place : Place} :
    Expr.Spelled container → Expr.Spelled item → Expr.Spelled (.within negated container item place)
  | call {name : String} {args : List Expr} {place : Place} :
    words name → (∀ e ∈ args, Expr.Spelled e) → Expr.Spelled (.call name args place)
  | chain {root : Expr} {links : List Link} :
    Expr.Spelled root → (∀ l ∈ links, Link.Spelled l) → Expr.Spelled (.chain root links)
  | block {body : List Stmt} {place : Place} : (∀ s ∈ body, Stmt.Spelled s) → Expr.Spelled (.block body place)
  | closure {name : String} {captured : List (String × Place)} {place : Place} :
    (∀ c ∈ captured, words c.1) → Expr.Spelled (.closure name captured place)

/-- A link that calls a name among `words`, if it calls one. -/
inductive Link.Spelled : Link → Prop
  | property {name : String} {place dot : Place} {optional : Bool} :
    Link.Spelled (.property name place dot optional)
  | method {name : String} {args : List Expr} {place dot : Place} {optional : Bool} :
    words name → (∀ e ∈ args, Expr.Spelled e) → Link.Spelled (.method name args place dot optional)
  | index {e : Expr} {bracket : Place} {optional : Bool} :
    Expr.Spelled e → Link.Spelled (.index e bracket optional)

/-- A statement that reads and calls names among `words` only, and leaves loops and functions by them. -/
inductive Stmt.Spelled : Stmt → Prop
  | nothing {place : Place} : Stmt.Spelled (.nothing place)
  | expr {e : Expr} : Expr.Spelled e → Stmt.Spelled (.expr e)
  | block {body : List Stmt} {place : Place} : (∀ s ∈ body, Stmt.Spelled s) → Stmt.Spelled (.block body place)
  | choose {condition : Expr} {yes no : List Stmt} {place : Place} :
    Expr.Spelled condition → (∀ s ∈ yes, Stmt.Spelled s) → (∀ s ∈ no, Stmt.Spelled s) →
      Stmt.Spelled (.choose condition yes no place)
  | switch {subject : Expr} {cases : List (List Value × Expr × Expr)} {place : Place} :
    Expr.Spelled subject → (∀ c ∈ cases, Expr.Spelled c.2.1) → (∀ c ∈ cases, Expr.Spelled c.2.2) →
      Stmt.Spelled (.switch subject cases place)
  | loop {condition : Option Expr} {body : List Stmt} {bodyPlace place : Place} :
    (∀ e ∈ condition, Expr.Spelled e) → (∀ s ∈ body, Stmt.Spelled s) →
      Stmt.Spelled (.loop condition body bodyPlace place)
  | again {body : List Stmt} {wanted : Bool} {condition : Expr} {place : Place} :
    (∀ s ∈ body, Stmt.Spelled s) → Expr.Spelled condition → Stmt.Spelled (.again body wanted condition place)
  | each {name : String} {counter : Option String} {items : Expr} {body : List Stmt} {bodyPlace place : Place} :
    Expr.Spelled items → (∀ s ∈ body, Stmt.Spelled s) →
      Stmt.Spelled (.each name counter items body bodyPlace place)
  | define {name : String} {value : Expr} {constant : Bool} {place : Place} :
    Expr.Spelled value → Stmt.Spelled (.define name value constant place)
  | assign {target : Expr} {op : Option Operator} {value : Expr} {place : Place} :
    Expr.Spelled target → Expr.Spelled value → Stmt.Spelled (.assign target op value place)
  | next {place : Place} : Stmt.Spelled (.next place)
  | leave {value : Option Expr} {place : Place} :
    words "break" → (∀ e ∈ value, Expr.Spelled e) → Stmt.Spelled (.leave value place)
  | give {value : Option Expr} {place : Place} :
    words "return" → (∀ e ∈ value, Expr.Spelled e) → Stmt.Spelled (.give value place)
  | throw {value : Option Expr} {place : Place} :
    (∀ e ∈ value, Expr.Spelled e) → Stmt.Spelled (.throw value place)
  | attempt {body : List Stmt} {caught : Option String} {handler : List Stmt} {place : Place} :
    (∀ s ∈ body, Stmt.Spelled s) → (∀ s ∈ handler, Stmt.Spelled s) →
      Stmt.Spelled (.attempt body caught handler place)

end

/-- A function whose statements are spelled in `words`. -/
def Function.Spelled (f : Function) : Prop := ∀ s ∈ f.body, Stmt.Spelled words s

/-- A script whose statements, and those of its functions, are spelled in `words`. -/
structure Program.Spelled (p : Program) : Prop where
  body : ∀ s ∈ p.body, Stmt.Spelled words s
  functions : ∀ f ∈ p.functions, f.Spelled words

end Fixtures.Script
