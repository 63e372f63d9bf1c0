import Fixtures.Proofs.Script.Charging
import Fixtures.Proofs.Script.Parsing
import Fixtures.Proofs.Script.Simplification
import Fixtures.Script.Session

/-!
# Loops without an end

A script that is a loop without a condition runs until the limit of operations, or some other fault, ends it. Its
body may do whatever else it likes: count on, catch faults, call functions and closures. Only the words that leave a
loop must not stand in it, nor the name of the function that runs a text as a script, which could spell them.

## Main results

* `parse_loopText`, `Simplify.program_loop`: such a text is refused, or read as a script that begins with the loop,
  and simplified to one.
* `Session.spent_ending`: such a script ends with a fault or by a call of `exit`.
* `Session.evaluate_loopText`: so evaluating the text is an error, or a call of `exit`, within the limit.
-/

namespace Fixtures.Script

/-! ## Reading -/

/-- The text of a loop without a condition. -/
def loopText (body : String) : String := "loop \x7b " ++ body ++ " \x7d"

/-- A part without a character stands before or behind it. -/
theorem infix_or_infix_of_notMem {α : Type} {part before after : List α} {c : α} (free : c ∉ part)
    (h : part <:+: before ++ c :: after) : part <:+: before ∨ part <:+: after := by
  obtain ⟨ahead, behind, same⟩ := h
  obtain ⟨more, rfl, -⟩ | ⟨more, whole, rest⟩ := List.append_eq_append_iff.mp same
  · exact .inl ⟨ahead, more, rfl⟩
  cases more with
  | nil => exact .inl ⟨ahead, [], by simpa using whole⟩
  | cons d more =>
    obtain ⟨rfl, rfl⟩ := List.cons.inj rest
    obtain ⟨middle, -, rfl⟩ | ⟨middle, -, middles⟩ := List.append_eq_append_iff.mp whole
    · exact absurd (List.mem_append_right _ List.mem_cons_self) free
    · cases middle with
      | nil =>
        rw [List.nil_append] at middles
        exact absurd (middles ▸ List.mem_cons_self) free
      | cons d middle =>
        obtain ⟨-, rfl⟩ := List.cons.inj middles
        exact .inr ⟨middle, behind, rfl⟩

/-- A word stands in the text of a loop only if it stands in its body. -/
theorem infix_of_loopText {word body : String} (blank : ' ' ∉ word.toList)
    (opening : ¬ word.toList <:+: "loop \x7b".toList) (closing : ¬ word.toList <:+: ['\x7d'])
    (h : word.toList <:+: (loopText body).toList) :
    word.toList <:+: body.toList := by
  have text : (loopText body).toList = "loop \x7b".toList ++ ' ' :: (body.toList ++ ' ' :: ['\x7d']) := by
    simp [loopText]
  rw [text] at h
  have inside := (infix_or_infix_of_notMem blank h).resolve_left opening
  exact (infix_or_infix_of_notMem blank inside).resolve_right closing

namespace Lexer

/-- What was read before comes first. -/
theorem prefix_lexemesFrom (fuel : Nat) (scan : Scan) (seen : List Lexeme) :
    seen.reverse <+: lexemesFrom fuel scan seen := by
  induction fuel generalizing scan seen with
  | zero => exact ⟨_, by rw [lexemesFrom, List.reverse_cons]⟩
  | succ fuel ih =>
    rw [lexemesFrom]
    split
    · exact ih _ _
    · next lexemes scan _ => exact (List.prefix_append _ _).trans (by simpa using ih scan (lexemes.reverse ++ seen))
    · exact ⟨_, by rw [List.reverse_cons]⟩

end Lexer

theorem lexemes_loopText (body : String) :
    ∃ here rest, lexemes (loopText body) = ⟨.word "loop", here⟩ :: rest := by
  have text : (loopText body).toList =
      'l' :: 'o' :: 'o' :: 'p' :: ' ' :: '\x7b' :: ' ' :: (body.toList ++ [' ', '\x7d']) := by
    simp [loopText]
  have word {chars : List Char} : ∃ here scan,
      Lexer.step ⟨'l' :: 'o' :: 'o' :: 'p' :: ' ' :: chars, Place.start, true, []⟩ =
        .read [⟨.word "loop", here⟩] scan := ⟨_, _, rfl⟩
  obtain ⟨here, scan, stepped⟩ := word
  rw [lexemes, text]
  rw [Lexer.lexemesFrom, stepped]
  obtain ⟨rest, more⟩ := Lexer.prefix_lexemesFrom _ scan [⟨.word "loop", here⟩]
  exact ⟨here, rest, more.symm⟩

namespace Parse

/-- A rule after another one that succeeds is a success of both. -/
theorem bind_eq_ok {α β : Type} {rule : Parse α} {next : α → Parse β} {r r'' : Reading} {b : β}
    (h : (rule >>= next) r = .ok (b, r'')) : ∃ a r', rule r = .ok (a, r') ∧ next a r' = .ok (b, r'') := by
  obtain ⟨⟨a, r'⟩, first, second⟩ := Runs.except_bind_eq_ok.mp (show (rule r >>= fun p => next p.1 p.2) = _ from h)
  exact ⟨a, r', first, second⟩

end Parse

open Parse

theorem refuseToken_ne_ok {α : Type} {l : Lexeme} {complaint : Complaint} {r : Reading} {p : α × Reading} :
    refuseToken l complaint r ≠ .ok p := by
  obtain ⟨token, place⟩ := l
  cases token <;> nofun

/-- The statements read before come first. -/
theorem prefix_scriptItems {parsers : Parsers} {fuel : Nat} {seen stmts : List Stmt} {r r' : Reading}
    (h : scriptItems parsers fuel seen r = .ok (stmts, r')) : seen.reverse <+: stmts := by
  induction fuel generalizing seen r with
  | zero =>
    cases h
    exact List.prefix_refl _
  | succ fuel ih =>
    -- The statements seen are kept in reverse, so a new one in front of them comes after them.
    have more {s : Stmt} {r : Reading} (h : scriptItems parsers fuel (s :: seen) r = .ok (stmts, r')) :
        seen.reverse <+: stmts := by
      have reversed := ih h
      rw [List.reverse_cons] at reversed
      exact (List.prefix_append _ _).trans reversed
    rw [scriptItems] at h
    obtain ⟨ended, r₁, -, h⟩ := bind_eq_ok h
    split at h
    · cases h
      exact List.prefix_refl _
    obtain ⟨stmt, r₂, -, h⟩ := bind_eq_ok h
    split at h
    · exact ih h
    obtain ⟨l, r₃, -, h⟩ := bind_eq_ok h
    split at h
    · exact more h
    split at h
    · obtain ⟨_, r₄, -, h⟩ := bind_eq_ok h
      exact more h
    · exact absurd h refuseToken_ne_ok

/-- A statement that begins with the word of a loop without a condition is one. -/
theorem stmt_loop {self : Parsers} {s : Setting} {here : Place} {rest : List Lexeme} {r : Reading}
    (begins : r.rest = ⟨.word "loop", here⟩ :: rest) {stmt : Stmt} {r' : Reading}
    (h : Grammar.stmt self s r = .ok (stmt, r')) :
    ∃ stmts bodyPlace, stmt = .loop none stmts bodyPlace here := by
  obtain ⟨tokens, taken, functions, known, captured⟩ := r
  cases begins
  rw [Grammar.stmt] at h
  obtain ⟨l, r, peeked, h⟩ := bind_eq_ok h
  cases peeked
  obtain ⟨stmt?, r₁, asked, h⟩ := bind_eq_ok h
  have behind : (deeper s here >>= fun s => do
      let _ ← take
      let stmt ← Grammar.endlessLoop self s here
      pure (some stmt)) _ = .ok (stmt?, r₁) := asked
  -- Only the place of the word is kept, so it does not matter where the readings in between end.
  obtain ⟨deep, r₂, -, read⟩ := bind_eq_ok behind
  obtain ⟨-, r₃, -, read⟩ := bind_eq_ok read
  obtain ⟨looped, r₄, read, same⟩ := bind_eq_ok read
  obtain ⟨⟨stmts, bodyPlace⟩, r₅, -, built⟩ := bind_eq_ok read
  cases built
  cases same
  cases h
  exact ⟨_, _, rfl⟩

/-- A text that begins with a loop without a condition is refused, or read as a script that begins with it. -/
theorem parse_loopText {body : String} {p : Program} (h : parse (loopText body) = .ok p) :
    ∃ stmts bodyPlace place rest, p.body = .loop none stmts bodyPlace place :: rest := by
  obtain ⟨here, rest, read⟩ := lexemes_loopText body
  simp only [parse, read] at h
  obtain ⟨⟨stmts, reading⟩, ran, same⟩ := Runs.except_bind_eq_ok.mp h
  cases same
  rw [List.length_cons, scriptItems] at ran
  obtain ⟨ended, r, starts, ran⟩ := bind_eq_ok ran
  cases starts
  obtain ⟨stmt, r, stated, ran⟩ := bind_eq_ok ran
  obtain ⟨looped, bodyPlace, rfl⟩ := stmt_loop rfl (show Grammar.stmt (parsersTo 127) _ _ = _ from stated)
  obtain ⟨l, r, -, ran⟩ := bind_eq_ok ran
  have first : [.loop none looped bodyPlace here] <+: stmts := prefix_scriptItems ran
  obtain ⟨rest, rfl⟩ := first
  exact ⟨looped, bodyPlace, here, rest, rfl⟩

/-! ## Simplification -/

namespace Simplify

/-- Of statements whose last has an effect, the last one stays. -/
theorem suffix_trimmed {s : Stmt} (effect : isStmtPure s = false) (before : List Stmt) :
    [s] <:+ trimmed (before ++ [s]) := by
  induction before with
  | nil => simp [trimmed, effect]
  | cons t before ih =>
    have last : [s] <:+ before ++ [s] := List.suffix_append _ _
    rw [List.cons_append]
    cases same : before ++ [s] with
    | nil => simp at same
    | cons u rest =>
      rw [same] at ih last
      rw [trimmed]
      split
      · split
        · exact last.trans (List.suffix_cons _ _)
        · exact ih
      · exact last.trans (List.suffix_cons _ _)

/-- A loop at the beginning stays there. -/
theorem tidy_loop (keep : Bool) (stmts : List Stmt) (bodyPlace place : Place) (rest : List Stmt) :
    ∃ more, tidy keep (.loop none stmts bodyPlace place :: rest) = .loop none stmts bodyPlace place :: more := by
  have effect : isStmtPure (.loop none stmts bodyPlace place) = false := by rw [isStmtPure] <;> nofun
  have kept (rest : List Stmt) : ∃ more, effective keep (.loop none stmts bodyPlace place :: rest) =
      .loop none stmts bodyPlace place :: more := by
    cases rest <;> simp [effective, effect]
  obtain ⟨more, same⟩ := kept (reached (rest.flatMap opened))
  have effects : effective keep (reached ((.loop none stmts bodyPlace place :: rest).flatMap opened)) = _ := same
  unfold tidy
  rw [effects]
  dsimp only
  split
  · obtain ⟨before, trim⟩ := suffix_trimmed effect more.reverse
    rw [List.reverse_cons, ← trim]
    exact ⟨before.reverse, by simp⟩
  · exact ⟨more, rfl⟩

/-- A script that begins with a loop without a condition is simplified to such a script. -/
theorem program_loop {p : Program} {stmts rest : List Stmt} {bodyPlace place : Place}
    (begins : p.body = .loop none stmts bodyPlace place :: rest) :
    ∃ stmts rest, (program p).body = .loop none stmts bodyPlace place :: rest := by
  have swept : ∃ more, Simplify.stmts true p.body =
      .loop none (tidy false (Simplify.stmts false stmts)) bodyPlace place :: more := by
    rw [begins]
    cases rest <;> simp [Simplify.stmts, stmt]
  obtain ⟨more, same⟩ := swept
  obtain ⟨rest, tidied⟩ := tidy_loop true (tidy false (Simplify.stmts false stmts)) bodyPlace place more
  exact ⟨_, rest, (congrArg (tidy true) same).trans tidied⟩

end Simplify

/-! ## The run -/

namespace Eval

/-- Statements that begin with a loop without a condition come to no value, and to no round of a loop around them. -/
theorem spends_stmts_loop {run : Body} (hrun : AdvancesBodies run) {stmts : List Stmt} {bodyPlace place : Place}
    {rest : List Stmt} (h : ∀ s ∈ Stmt.loop none stmts bodyPlace place :: rest, s.Spelled Unending) :
    Spends False (fun _ => False) (Eval.stmts run (.loop none stmts bodyPlace place :: rest)) := by
  rw [List.forall_mem_cons] at h
  have looped : Spends False (fun _ => False) (stmt run (.loop none stmts bodyPlace place)) := by
    cases h.1 with | loop _ body => ?_
    rw [stmt]
    exact (Run.spends_charge place).bind fun _ _ => spends_endless (fun s hs => costs_stmt hrun (body s hs)) bodyPlace
  cases rest with
  | nil => exact looped
  | cons s rest => exact looped.bind fun _ never => never.elim

end Eval

namespace Session

/-- How a script ends that was read, and the state it leaves. -/
def ending (s : Session) (now : Int) (p : Program) : Except Signal Value × Machine :=
  (do Run.follow (← Eval.body Eval.depths p.body) : Run Value) (s.machine now p.functions)

theorem run_fst (s : Session) (now : Int) (p : Program) : (s.run now p).1 = finished (s.ending now p).1 := rfl

/-- A script that begins with a loop without a condition ends with a fault or by a call of `exit`. -/
theorem spent_ending (s : Session) (now : Int) {p : Program} (h : p.Spelled Unending) {stmts rest : List Stmt}
    {bodyPlace place : Place} (begins : p.body = .loop none stmts bodyPlace place :: rest) :
    Spent False (fun _ => False) (s.machine now p.functions) (s.ending now p) := by
  have spelled := h.body
  rw [begins] at spelled
  have body : Spends False (fun _ => False) (Eval.body Eval.depths p.body) := by
    rw [begins]
    exact Eval.spends_stmts_loop (Eval.advancesBodies_body _) spelled
  have whole : Spends False (fun _ => False) (do Run.follow (← Eval.body Eval.depths p.body)) :=
    body.bind fun _ never => never.elim
  exact whole _ ⟨Nat.zero_le _, h.functions⟩

theorem evaluator_eq_ok (start : ObjectType → UInt64) {s : Session} {now : Int} {text : String} {v : Value}
    (h : (s.evaluate now text).1 = .ok v) : ((evaluator now start).evaluate text s).1 = .ok v.toJson := by
  rcases ended : s.evaluate now text with ⟨r, s'⟩
  rw [ended] at h
  cases h
  simp only [evaluator, ended]

theorem evaluator_eq_error (start : ObjectType → UInt64) {s : Session} {now : Int} {text message : String}
    (h : (s.evaluate now text).1 = .error message) :
    ((evaluator now start).evaluate text s).1 = .error (.script message) := by
  rcases ended : s.evaluate now text with ⟨r, s'⟩
  rw [ended] at h
  cases h
  simp only [evaluator, ended]

/-- What the limit allows: a script ends within it, and its fault is reported only when it is reached. -/
def IsWithinLimit (s : Session) (now : Int) (p : Program) : Prop :=
  (s.ending now p).2.operations ≤ Run.operationLimit ∧
    ∀ f, (s.ending now p).1 = .error (.fault f) → f.cause = .tooManyOperations →
      (s.ending now p).2.operations = Run.operationLimit

/-- Whether a script ended with the unit value. -/
def isUnit : Except String Value → Bool
  | .ok .unit => true
  | _ => false

theorem eq_unit {r : Except String Value} (h : isUnit r = true) : r = .ok .unit := by
  unfold isUnit at h
  split at h
  · rfl
  · cases h

end Session

end Fixtures.Script
