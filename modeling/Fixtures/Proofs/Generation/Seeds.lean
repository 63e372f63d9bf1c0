import Fixtures.Generation.Seeding
import Mathlib.Logic.Function.Basic

/-!
# Seeds of types

The seed of a type is mixed from the seed of the run and the bytes of its name, by an exclusive or and a
multiplication for each byte. Both can be undone, for the factor is odd. So nothing is lost of the seed of the run,
whatever the name, and of two names that differ in one byte only the seeds stay apart from that byte on.

## Shape of the argument

`mixByte` is the step for one byte. It is a bijection of the words (`mixByte_bijective`), and takes different bytes to
different words (`mixByte_injective`). An induction over the bytes carries the first along a name
(`mixBytes_bijective`).
-/

namespace Fixtures.Random

/-! ## One byte -/

/-- The factor that words are multiplied with. -/
def mixFactor : UInt64 := 0x100000001b3

/-- The inverse of the factor among the words. -/
def mixInverse : UInt64 := 0xce965057aff6957b

theorem mixFactor_mul_mixInverse : mixFactor * mixInverse = 1 := by decide

/-- Mixes a byte into a word. -/
def mixByte (h : UInt64) (b : UInt8) : UInt64 := (h ^^^ b.toUInt64) * mixFactor

/-- Multiplying by the factor can be undone on either side. -/
theorem mul_mixFactor_bijective : Function.Bijective (· * mixFactor) := by
  refine Function.bijective_iff_has_inverse.mpr ⟨(· * mixInverse), fun h => ?_, fun h => ?_⟩
  · calc h * mixFactor * mixInverse = h * (mixFactor * mixInverse) := UInt64.mul_assoc ..
      _ = h := by rw [mixFactor_mul_mixInverse, UInt64.mul_one]
  · calc h * mixInverse * mixFactor = h * (mixFactor * mixInverse) := by
          rw [UInt64.mul_assoc, UInt64.mul_comm mixInverse]
      _ = h := by rw [mixFactor_mul_mixInverse, UInt64.mul_one]

/-- An exclusive or undoes itself. -/
theorem xor_bijective (x : UInt64) : Function.Bijective (· ^^^ x) := by
  have twice : Function.Involutive (· ^^^ x) := fun h => by
    show h ^^^ x ^^^ x = h
    rw [UInt64.xor_assoc, UInt64.xor_self, UInt64.xor_zero]
  exact twice.bijective

/-- Mixing a byte in loses nothing of the word. -/
theorem mixByte_bijective (b : UInt8) : Function.Bijective (mixByte · b) :=
  mul_mixFactor_bijective.comp (xor_bijective b.toUInt64)

/-- Different bytes are mixed into a word with different results. -/
theorem mixByte_injective (h : UInt64) : Function.Injective (mixByte h) := by
  intro b b' same
  have words : h ^^^ b.toUInt64 = h ^^^ b'.toUInt64 := mul_mixFactor_bijective.injective same
  rw [UInt64.xor_comm h, UInt64.xor_comm h] at words
  exact UInt8.toUInt64_inj.mp ((xor_bijective h).injective words)

/-! ## The bytes of a name -/

/-- Mixes bytes into a word, one after another. -/
def mixBytes (h : UInt64) (bytes : List UInt8) : UInt64 := bytes.foldl mixByte h

theorem mixBytes_cons (h : UInt64) (b : UInt8) (bytes : List UInt8) :
    mixBytes h (b :: bytes) = mixBytes (mixByte h b) bytes := rfl

theorem mixBytes_append (h : UInt64) (before after : List UInt8) :
    mixBytes h (before ++ after) = mixBytes (mixBytes h before) after := List.foldl_append

/-- Mixing bytes in loses nothing of the word. -/
theorem mixBytes_bijective (bytes : List UInt8) : Function.Bijective (mixBytes · bytes) := by
  induction bytes with
  | nil => exact Function.bijective_id
  | cons b bytes ih => exact ih.comp (mixByte_bijective b)

/-- The word that names are mixed into, before a seed. -/
def mixStart : UInt64 := 0xcbf29ce484222325

theorem mixSeed_eq (seed : UInt64) (key : String) :
    mixSeed seed key = mixBytes (seed ^^^ mixStart) key.toUTF8.toList := rfl

theorem mixSeed_bijective (key : String) : Function.Bijective (mixSeed · key) :=
  (mixBytes_bijective key.toUTF8.toList).comp (xor_bijective mixStart)

/-! ## Names that differ in one byte -/

/-- Two lists of one length that differ at exactly one place. -/
def DifferOnce {α : Type} (xs ys : List α) : Prop := xs.length = ys.length ∧ ∃! i : Nat, xs[i]? ≠ ys[i]?

/-- Such lists are the same before the place and behind it. -/
theorem DifferOnce.split {α : Type} {xs ys : List α} (h : DifferOnce xs ys) :
    ∃ before x y after, xs = before ++ x :: after ∧ ys = before ++ y :: after ∧ x ≠ y := by
  obtain ⟨length, i, differ, only⟩ := h
  induction xs generalizing ys i with
  | nil =>
    obtain rfl := List.length_eq_zero_iff.mp length.symm
    exact absurd rfl differ
  | cons x xs ih =>
    obtain _ | ⟨y, ys⟩ := ys
    · cases length
    by_cases same : x = y
    · -- The heads are the same, so the place is in the tails.
      subst same
      obtain _ | i := i
      · exact absurd rfl differ
      have later (j : Nat) (hj : xs[j]? ≠ ys[j]?) : j = i := Nat.succ.inj (only (j + 1) hj)
      obtain ⟨before, a, b, after, rfl, rfl, apart⟩ := ih (Nat.succ.inj length) i differ later
      exact ⟨x :: before, a, b, after, rfl, rfl, apart⟩
    · -- The heads differ, so the tails do nowhere.
      have first : 0 = i := only 0 (by simpa using same)
      have tails : xs = ys := by
        refine List.ext_getElem? fun j => ?_
        by_contra differ'
        exact absurd (first.trans (only (j + 1) differ').symm) (Nat.succ_ne_zero j).symm
      exact ⟨[], x, y, xs, rfl, by rw [tails, List.nil_append], same⟩

/-- One byte that differs keeps the results apart. -/
theorem mixBytes_ne {xs ys : List UInt8} (h : DifferOnce xs ys) (seed : UInt64) :
    mixBytes seed xs ≠ mixBytes seed ys := by
  obtain ⟨before, x, y, after, rfl, rfl, apart⟩ := h.split
  rw [mixBytes_append, mixBytes_append, mixBytes_cons, mixBytes_cons]
  intro same
  exact apart (mixByte_injective _ ((mixBytes_bijective after).injective same))

end Fixtures.Random

/-! ## Types -/

namespace Fixtures.Generation

open Fixtures.Random (mixSeed DifferOnce Generator)
open Script (Session)

/-- The random stream of a type begins at its own seed. -/
theorem begin_generator (now : Int) (seed : UInt64) (type : ObjectType) (s : Session) :
    ((evaluatorOf now seed).begin type s).2.generator = Generator.ofSeed (mixSeed seed type.name) := rfl

/-- For every name the seeds of types are the seeds of runs in another order, so that in runs with different seeds
every type has different seeds; and names of one length that differ in one byte have different seeds in every run. -/
theorem typeSeeds_apart :
    (∀ name, Function.Bijective (mixSeed · name)) ∧
    (∀ (now : Int) (seed seed' : UInt64) (type : ObjectType) (s : Session),
      ((evaluatorOf now seed).begin type s).2.generator = Generator.ofSeed (mixSeed seed type.name) ∧
        (seed ≠ seed' → mixSeed seed type.name ≠ mixSeed seed' type.name)) ∧
    ∀ seed name name', DifferOnce name.toUTF8.toList name'.toUTF8.toList →
      mixSeed seed name ≠ mixSeed seed name' := by
  refine ⟨Random.mixSeed_bijective, fun now seed seed' type s => ⟨begin_generator now seed type s, ?_⟩, ?_⟩
  · intro other same
    exact other ((Random.mixSeed_bijective type.name).injective same)
  · intro seed name name' once
    rw [Random.mixSeed_eq, Random.mixSeed_eq]
    exact Random.mixBytes_ne once _

/-- A type has other seeds in the first two runs, and the types `Post` and `Pest` have other seeds in one run. -/
theorem typeSeeds_apart_post :
    ((1 : UInt64) ≠ 2 ∧ mixSeed 1 "Post" ≠ mixSeed 2 "Post") ∧
      DifferOnce "Post".toUTF8.toList "Pest".toUTF8.toList ∧ mixSeed 1 "Post" ≠ mixSeed 1 "Pest" := by
  obtain ⟨-, runs, names⟩ := typeSeeds_apart
  have other : (1 : UInt64) ≠ 2 := by decide
  have once : DifferOnce "Post".toUTF8.toList "Pest".toUTF8.toList := by
    have post : "Post".toUTF8.toList = [80, 111, 115, 116] := by decide +kernel
    have pest : "Pest".toUTF8.toList = [80, 101, 115, 116] := by decide +kernel
    rw [post, pest]
    refine ⟨rfl, 1, by decide, fun i differ => ?_⟩
    obtain _ | _ | _ | _ | i := i
    · exact absurd rfl differ
    · rfl
    · exact absurd rfl differ
    · exact absurd rfl differ
    · exact absurd rfl differ
  exact ⟨⟨other, (runs 0 1 2 ⟨"Post", []⟩ (Session.ofSeed 0)).2 other⟩, once, names 1 "Post" "Pest" once⟩

end Fixtures.Generation
