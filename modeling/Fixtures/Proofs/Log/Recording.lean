import Fixtures.Generation.Run
import Fixtures.Proofs.Files.Replacing

/-!
# Recording events

A journal changes nothing but its file, and that only by adding to its end. `Grown file t t'` says so of two
trees: at the location of `file` there is what was there or a file that begins with the bytes that were there,
and everywhere else nothing changed. Opening a journal and taking any number of events are instances of it, also
where an event cannot be written.
-/

namespace Fixtures.Files

open Runs (except_bind_eq_ok)

/-! ## Contents -/

theorem Content.toBytes_ofBytes (b : ByteArray) : (ofBytes b).toBytes = b := by
  rw [ofBytes]
  split
  · next s read =>
    rw [String.fromUTF8?] at read
    split at read
    · cases read
      rfl
    · cases read
  · rfl

/-- A text is added at the end of the bytes. -/
theorem Content.toBytes_append (c : Content) (more : String) :
    (c.append more).toBytes = c.toBytes ++ more.toUTF8 := by
  cases c with
  | text s => exact String.toByteArray_append
  | bytes b => exact toBytes_ofBytes _

namespace Tree

/-! ## Trees in which a file has grown -/

/-- At a location there is what was there, or a file that is new or begins with the bytes of the old one. -/
def GrownAt (t t' : Tree) (location : Location) : Prop :=
  t'.get? location = t.get? location ∨
    ∃ content, t'.get? location = some (.file content) ∧
      (t.get? location = none ∨
        ∃ old more, t.get? location = some (.file old) ∧ content.toBytes = old.toBytes ++ more)

theorem GrownAt.trans {t t' t'' : Tree} {location : Location} (h : GrownAt t t' location)
    (h' : GrownAt t' t'' location) : GrownAt t t'' location := by
  rcases h with same | ⟨content, there, old⟩
  · rcases h' with same' | ⟨content', there', old'⟩
    · exact .inl (same'.trans same)
    · rw [same] at old'
      exact .inr ⟨content', there', old'⟩
  · rcases h' with same' | ⟨content', there', old'⟩
    · exact .inr ⟨content, same'.trans there, old⟩
    · refine .inr ⟨content', there', ?_⟩
      rcases old' with absent | ⟨middle, more', hmiddle, bytes'⟩
      · rw [there] at absent
        cases absent
      · rw [there] at hmiddle
        cases hmiddle
        rcases old with absent | ⟨first, more, hfirst, bytes⟩
        · exact .inl absent
        · exact .inr ⟨first, more ++ more', hfirst, by rw [bytes', bytes, ByteArray.append_assoc]⟩

/-- The tree with at most one file changed, the one of a path, to which something was added. -/
structure Grown (file : Option String) (t t' : Tree) : Prop where
  here : t'.here = t.here
  elsewhere : ∀ location, (∀ path ∈ file, location ≠ t.place path) → t'.get? location = t.get? location
  grown : ∀ path ∈ file, GrownAt t t' (t.place path)

namespace Grown

variable {file : Option String}

theorem refl (file : Option String) (t : Tree) : Grown file t t :=
  ⟨rfl, fun _ _ => rfl, fun _ _ => .inl rfl⟩

theorem trans {t t' t'' : Tree} (h : Grown file t t') (h' : Grown file t' t'') : Grown file t t'' := by
  refine ⟨h'.here.trans h.here, fun location other => ?_, fun path named => ?_⟩
  · have other' : ∀ path ∈ file, location ≠ t'.place path := fun path named => by
      rw [place_congr h.here]
      exact other path named
    rw [h'.elsewhere location other', h.elsewhere location other]
  · have next := h'.grown path named
    rw [place_congr h.here] at next
    exact (h.grown path named).trans next

end Grown

/-- A text is added at the end of the file that a path spells. -/
theorem append_eq {t t' : Tree} {path more : String} (h : t.append path more = .ok t') :
    ∃ content, t' = t.set (t.place path) (.file content) ∧ (∃ name dir, t.place path = name :: dir) ∧
      (t.get? (t.place path) = none ∨
        ∃ old, t.get? (t.place path) = some (.file old) ∧ content.toBytes = old.toBytes ++ more.toUTF8) := by
  obtain ⟨location, hlocation, h⟩ := except_bind_eq_ok.1 h
  obtain ⟨reached, free⟩ := reaches_of_fileTarget hlocation
  obtain ⟨spelled, -, name, named, -⟩ := reached.spelled
  rw [← spelled]
  split at h
  · next old there =>
    cases h
    exact ⟨_, rfl, ⟨name, _, named⟩, .inr ⟨old, there, old.toBytes_append more⟩⟩
  · next other =>
    cases h
    refine ⟨_, rfl, ⟨name, _, named⟩, .inl ?_⟩
    cases there : t.get? location with
    | none => rfl
    | some entry =>
      cases entry with
      | directory => exact absurd there free
      | file old => exact absurd there (other old)

/-- Adding a text to a file is growth of this file. -/
theorem grown_of_append {t t' : Tree} {path more : String} (h : t.append path more = .ok t') :
    Grown (some path) t t' := by
  obtain ⟨content, rfl, ⟨name, dir, spelled⟩, old⟩ := append_eq h
  rw [spelled] at old ⊢
  refine ⟨rfl, fun location other => ?_, fun path' named => ?_⟩
  · rw [get?_set, if_neg]
    have apart := other path rfl
    rwa [spelled] at apart
  · cases named
    rw [spelled]
    refine .inr ⟨content, by rw [get?_set, if_pos rfl], ?_⟩
    rcases old with absent | ⟨old, there, bytes⟩
    · exact .inl absent
    · exact .inr ⟨old, _, there, bytes⟩

end Tree

end Fixtures.Files

namespace Fixtures.Log

open Files (Tree withFiles)
open Runs

/-! ## Journals -/

/-- The workspace after a journal was used: only its file has grown. -/
structure Recorded (file : Option String) (w w' : Workspace) : Prop where
  files : Tree.Grown file w.files w'.files
  rest : w' = withFiles w w'.files

namespace Recorded

variable {file : Option String} {w w' w'' : Workspace}

theorem refl (file : Option String) (w : Workspace) : Recorded file w w := ⟨.refl file w.files, rfl⟩

theorem trans (h : Recorded file w w') (h' : Recorded file w' w'') : Recorded file w w'' := by
  refine ⟨h.files.trans h'.files, ?_⟩
  rw [h'.rest, h.rest]

end Recorded

/-- The workspace in which the file of a journal is there. -/
def opened (file : Option String) (w : Workspace) : Except Files.Fault Workspace :=
  match file with
  | none => .ok w
  | some path => (w.files.append path "").map (withFiles w)

/-- Opening a journal adds nothing to its file, which is made if it is missing. -/
theorem opened_recorded {file : Option String} {w w' : Workspace} (h : opened file w = .ok w') :
    Recorded file w w' := by
  cases file with
  | none =>
    cases h
    exact .refl none w
  | some path =>
    cases added : w.files.append path "" with
    | error fault =>
      rw [opened, added] at h
      cases h
    | ok files =>
      rw [opened, added] at h
      cases h
      exact ⟨Files.Tree.grown_of_append added, rfl⟩

/-- A journal that cannot be opened changes nothing. -/
theorem start_apply (filter : Filter) (file : Option String) (w : Workspace) :
    (Journal.start (m := StateM Workspace) filter file) w =
      match opened file w with
      | .error fault => (.error fault, w)
      | .ok w' => (.ok ⟨filter, file⟩, w') := by
  cases file with
  | none => rfl
  | some path =>
    rw [Journal.start, opened]
    show (Workspace.change (·.append path "") >>= _ : ExceptT Files.Fault (StateM Workspace) Journal) w = _
    rw [bind_apply, Files.change_apply]
    cases w.files.append path "" <;> rfl

/-- An event is added to the file of its journal, or lost. -/
theorem record_recorded (journal : Journal) (event : Event) (w : Workspace) :
    Recorded journal.file w ((journal.record event : StateM Workspace Unit) w).2 := by
  obtain ⟨filter, file⟩ := journal
  cases file with
  | none => exact .refl none w
  | some path =>
    rw [Journal.record]
    dsimp only
    split
    · show Recorded (some path) w (Workspace.change (·.append path (event.line (Fake.Date.write w.clock))) w).2
      rw [Files.change_apply]
      cases added : w.files.append path (event.line (Fake.Date.write w.clock)) with
      | error fault => exact .refl (some path) w
      | ok files => exact ⟨Files.Tree.grown_of_append added, rfl⟩
    · exact .refl (some path) w

/-- Events are recorded one after another. -/
theorem recordAll_recorded (journal : Journal) (events : List Event) (w : Workspace) :
    Recorded journal.file w ((Generation.recordAll journal events : StateM Workspace Unit) w).2 := by
  induction events generalizing w with
  | nil => exact .refl journal.file w
  | cons event events ih => exact (record_recorded journal event w).trans (ih _)

end Fixtures.Log
