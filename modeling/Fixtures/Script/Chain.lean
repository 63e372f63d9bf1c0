import Fixtures.Script.Call

/-!
# Chains

A chain walks from a value along properties, indices and methods. Indices and arguments are evaluated
before the walk begins, so a walk is over a list of `Step`s. A walk may change the value it began with:
by an assignment at its end, or by a method on the way.

## Shape of a walk

`walk` gives a `Reply`: the value at the end and, if the value at the start changed, its new value. A
change goes back through members of maps and items of arrays; other properties and indices give copies,
so that a change of what they give is lost.
-/

namespace Fixtures.Script

/-- A link of a chain with its index or arguments evaluated. -/
inductive Step where
  | property (name : String) (place : Place) (optional : Bool)
  | method (name : String) (args : List Value) (argument place : Place) (optional : Bool)
  | index (index : Value) (start bracket : Place) (optional : Bool)
  deriving Inhabited

/-- Whether a step is not taken from the unit value. -/
def Step.optional : Step → Bool
  | property _ _ o | method _ _ _ _ o | index _ _ _ o => o

/-- A value to be assigned, joined to the old one by an operator if there is one. -/
structure Assignment where
  op : Option Operator
  value : Value
  place : Place

namespace Chain

/-! ## Operators -/

/-- The value of an operator between two values. -/
def binary (op : Operator) (a b : Value) (place : Place) : Run Value := do
  match Operation.basic? op a b with
  | some outcome => Run.ofOutcome place outcome
  | none =>
    Run.charge place
    match Operation.extended? op a b with
    | some v => pure v
    | none => Run.fail (.unknownFunction op.mark [a.signatureName, b.signatureName]) place

/-- The value of a sign before a value. -/
def signed (sign : Sign) (v : Value) (place : Place) : Run Value := do
  match sign, v with
  | .not, .bool b => pure (.bool !b)
  | _, _ =>
    Run.charge place
    match Operation.signed? sign v with
    | some outcome => Run.ofOutcome place outcome
    | none => Run.fail (.unknownFunction sign.mark [v.signatureName]) place

/-- The new value of what is assigned to. What is added to an array becomes an item of it, unless it is
an array too. -/
def assigned (a : Assignment) (old : Value) : Run Value :=
  match a.op, old, a.value with
  | none, _, new => pure new
  | some .add, .array items, .array more => pure (.array (items ++ more))
  | some .add, .array items, new => pure (.array (items ++ [new]))
  | some op, old, new => binary op old new a.place

/-! ## Reading -/

/-- The property of a value that is not a map. -/
def property? (name : String) (v : Value) : Option Value :=
  match v with
  | .faker => (Binding.topic? name).map .topic
  | v => Library.property? name v

/-- The bit of an integer. -/
def bit (n : Int64) (position : Nat) : Bool := ((n.toInt >>> position) % 2) != 0

/-- The integer with a bit set or not. -/
def setBit (n : Int64) (position : Nat) (value : Bool) : Int64 :=
  if bit n position = value then n
  else
    let mask := (1 : Int) <<< position
    Int64.ofInt (if value then n.toInt + mask else n.toInt - mask)

/-- The text of a range of the characters of a text. -/
def textRange (s : String) (first last : Int64) (closed : Bool) : Value :=
  .string (String.ofList (Library.sliceRange s.toList first.toInt last.toInt closed))

/-! ## Walking -/

/-- The value to be assigned must be of the wanted kind; its type is named otherwise. -/
def ensureKind {α : Type} (wanted : String) (place : Place) (v : Value) : Option α → Run α
  | some a => pure a
  | none => Run.fail (.wrongType v.fullTypeName wanted) place

/-- Assigns to a character of a text. -/
def assignChar (a : Assignment) (chars : List Char) (n : Nat) (c : Char) : Run Reply := do
  let new ← assigned a (.char c)
  let d ← ensureKind "char" a.place new
    (match new with
      | .char d => some d
      | _ => none)
  pure { value := .unit, first := some (.string (String.ofList (chars.set n d))) }

/-- Assigns to a bit of an integer. -/
def assignBit (a : Assignment) (whole : Int64) (n : Nat) : Run Reply := do
  let new ← assigned a (.bool (bit whole n))
  let b ← ensureKind "bool" a.place new
    (match new with
      | .bool b => some b
      | _ => none)
  pure { value := .unit, first := some (.int (setBit whole n b)) }

/-- Assigns to a property of a value that is not a map: values have none that can be set. -/
def assignProperty (a : Assignment) (name : String) (v : Value) (place : Place) : Run Reply := do
  match a.op, property? name v with
  | none, _ => Run.fail (.unwritable name v.typeName a.value.typeName) place
  | some _, none => Run.fail (.unreadable name v.typeName) place
  | some _, some old =>
    let new ← assigned a old
    Run.fail (.unwritable name v.typeName new.typeName) place

/-- Walks a chain from a value. -/
def walk (run : Body) (a : Option Assignment) : List Step → Value → Run Reply
  | [], v =>
    match a with
    | none => pure { value := v }
    | some a => do pure { value := .unit, first := some (← assigned a v) }
  | step :: rest, v =>
    let last? : Option Assignment := if rest.isEmpty then a else none
    let member (members : List (String × Value)) (name : String) : Run Reply := do
      Run.charge Place.nowhere
      let reply ← walk run a rest ((member? members name).getD .unit)
      pure { reply with first := reply.first.map fun new => .map (insertMember members name new) }
    if step.optional && v == .unit then pure { value := .unit }
    else
      match step with
      | .property name place _ =>
        match v with
        | .map members => member members name
        | v => do
          Run.charge place
          match last? with
          | some a => assignProperty a name v place
          | none =>
            match property? name v with
            | some p => do
              let reply ← walk run a rest p
              pure { value := reply.value }
            | none => Run.fail (.unreadable name v.typeName) place
      | .method name args argument place _ => do
        let called ← Call.method run name v args argument place
        let reply ← walk run a rest called.value
        pure { value := reply.value, first := called.first }
      | .index index start bracket _ =>
        match v, index with
        | .map members, .string name => member members name
        | .map _, index => do
          Run.charge Place.nowhere
          Run.fail (.wrongType index.fullTypeName "string") start
        | .array items, .int n => do
          Run.charge Place.nowhere
          match Library.position? items.length n.toInt with
          | none => Run.fail (.arrayBounds items.length n.toInt) start
          | some position => do
            let reply ← walk run a rest ((items[position]?).getD .unit)
            pure { reply with first := reply.first.map fun new => .array (items.set position new) }
        | .array _, index => do
          Run.charge Place.nowhere
          Run.fail (.wrongType index.fullTypeName "i64") start
        | .string s, .int n => do
          Run.charge Place.nowhere
          let chars := s.toList
          match Library.position? chars.length n.toInt with
          | none => Run.fail (.stringBounds chars.length n.toInt) start
          | some position =>
            let c := chars.getD position ' '
            match last? with
            | some a => assignChar a chars position c
            | none => do
              let reply ← walk run a rest (.char c)
              pure { value := reply.value }
        | .string s, .range first last closed => do
          Run.charge Place.nowhere
          let reply ← walk run a rest (textRange s first last closed)
          pure { value := reply.value }
        | .string _, index => do
          Run.charge Place.nowhere
          Run.fail (.wrongType index.fullTypeName "i64") start
        | .int whole, .int n => do
          Run.charge Place.nowhere
          match Library.position? 64 n.toInt with
          | none => Run.fail (.bitBounds n.toInt) start
          | some position =>
            match last? with
            | some a => assignBit a whole position
            | none => do
              let reply ← walk run a rest (.bool (bit whole position))
              pure { value := reply.value }
        | .int _, index => do
          Run.charge Place.nowhere
          Run.fail (.wrongType index.fullTypeName "i64") start
        | v, index => do
          Run.charge Place.nowhere
          Run.fail (.unindexable v.typeName index.typeName (last?.map (·.value.typeName))) bracket

end Chain

end Fixtures.Script
