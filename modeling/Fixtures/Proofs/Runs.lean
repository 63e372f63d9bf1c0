import Fixtures.Host.Workspace

/-!
# Runs of computations that may fail

A computation over a state that may end with an error keeps the state reached there. The lemmas take such
computations apart: `bind_eq_ok` finds the parts of a run that succeeds, `bind_eq_error` finds the part at which
a run fails, and `adapt_apply` says that renaming an error changes neither the value nor the state. Those that
begin with `beside` are about computations over one state beside another, as an export has them: what its sink
holds beside the workspace.
-/

namespace Fixtures.Runs

/-- One computation without a state after another. -/
theorem except_bind_eq_ok {ε α β : Type} {x : Except ε α} {f : α → Except ε β} {b : β} :
    (x >>= f) = .ok b ↔ ∃ a, x = .ok a ∧ f a = .ok b := by
  cases x with
  | error e =>
    refine ⟨fun h => ?_, ?_⟩
    · cases h
    · rintro ⟨_, h, _⟩
      cases h
  | ok a =>
    refine ⟨fun h => ⟨a, rfl, h⟩, ?_⟩
    rintro ⟨_, h, hf⟩
    cases h
    exact hf

/-- A value stays where errors are renamed. -/
theorem except_mapError_eq_ok {ε ε' α : Type} {x : Except ε α} {f : ε → ε'} {a : α} :
    x.mapError f = .ok a ↔ x = .ok a := by
  cases x with
  | error e =>
    refine ⟨fun h => ?_, fun h => ?_⟩
    · cases h
    · cases h
  | ok b =>
    refine ⟨fun h => ?_, fun h => ?_⟩
    · cases h
      rfl
    · cases h
      rfl

theorem except_eq_ok_of_toOption {ε α : Type} {x : Except ε α} {a : α} (h : x.toOption = some a) :
    x = .ok a := by
  cases x with
  | error e => cases h
  | ok b =>
    cases h
    rfl

variable {σ ε ε' α β : Type}

/-- A run that has a value ends with it. -/
theorem eq_ok_of_toOption {run : Except ε α × σ} {a : α} (h : run.1.toOption = some a) :
    run = (.ok a, run.2) := Prod.ext (except_eq_ok_of_toOption h) rfl

/-- A run that has a failure ends with it. -/
theorem eq_error_of_fst {run : Except ε α × σ} {e : ε} (h : run.1 = .error e) : run = (.error e, run.2) :=
  Prod.ext h rfl

/-- One computation after another: an error of the first is the error of both. -/
theorem bind_apply (x : ExceptT ε (StateM σ) α) (f : α → ExceptT ε (StateM σ) β) (s : σ) :
    (x >>= f) s = match x s with
      | (.ok a, s') => f a s'
      | (.error e, s') => (.error e, s') := by
  show StateT.bind x (ExceptT.bindCont f) s = _
  rcases h : x s with ⟨_ | a, s'⟩ <;> simp only [StateT.bind, h] <;> rfl

/-- A function of the value changes neither the error nor the state. -/
theorem map_apply (f : α → β) (x : ExceptT ε (StateM σ) α) (s : σ) :
    (f <$> x) s = ((x s).1.map f, (x s).2) := by
  rw [map_eq_pure_bind, bind_apply]
  rcases x s with ⟨_ | a, s'⟩ <;> rfl

/-- A computation that succeeds is a success of its first part, and then one of the rest. -/
theorem bind_eq_ok {x : ExceptT ε (StateM σ) α} {f : α → ExceptT ε (StateM σ) β} {s s' : σ} {b : β}
    (h : (x >>= f) s = (.ok b, s')) : ∃ a s₁, x s = (.ok a, s₁) ∧ f a s₁ = (.ok b, s') := by
  rw [bind_apply] at h
  rcases hx : x s with ⟨e | a, s₁⟩
  · rw [hx] at h
    cases h
  · rw [hx] at h
    exact ⟨a, s₁, rfl, h⟩

/-- A computation that fails does so in its first part or, after it, in the rest. -/
theorem bind_eq_error {x : ExceptT ε (StateM σ) α} {f : α → ExceptT ε (StateM σ) β} {s s' : σ} {e : ε}
    (h : (x >>= f) s = (.error e, s')) :
    x s = (.error e, s') ∨ ∃ a s₁, x s = (.ok a, s₁) ∧ f a s₁ = (.error e, s') := by
  rw [bind_apply] at h
  rcases hx : x s with ⟨e' | a, s₁⟩
  · rw [hx] at h
    cases h
    exact .inl rfl
  · rw [hx] at h
    exact .inr ⟨a, s₁, rfl, h⟩

/-- A part that cannot fail only passes its value and state on. -/
theorem lift_bind (x : StateM σ α) (f : α → ExceptT ε (StateM σ) β) (s : σ) :
    ((liftM x : ExceptT ε (StateM σ) α) >>= f) s = f (x s).1 (x s).2 := rfl

/-- A failure is handed on together with the state that it left. -/
theorem tryCatch_apply (x : ExceptT ε (StateM σ) α) (handle : ε → ExceptT ε (StateM σ) α) (s : σ) :
    (tryCatch x handle) s = match x s with
      | (.ok a, s') => (.ok a, s')
      | (.error e, s') => handle e s' := by
  show ExceptT.tryCatch x handle s = _
  rcases h : x s with ⟨e | a, s'⟩
  · simp only [ExceptT.tryCatch, ExceptT.mk, bind, StateT.bind, h]
  · simp only [ExceptT.tryCatch, ExceptT.mk, bind, StateT.bind, h]
    rfl

/-- An error under another name. -/
theorem adapt_apply (f : ε → ε') (x : ExceptT ε (StateM σ) α) (s : σ) :
    (x.adapt f : ExceptT ε' (StateM σ) α) s = ((x s).1.mapError f, (x s).2) := rfl

/-! ## A state beside another one -/

variable {τ : Type}

/-- One computation after another, the first of which succeeds. -/
theorem beside_bind {x : ExceptT ε (StateT τ (StateM σ)) α} {a : α} {t t' : τ} {s s' : σ}
    (h : x t s = ((.ok a, t'), s')) (f : α → ExceptT ε (StateT τ (StateM σ)) β) :
    (x >>= f) t s = f a t' s' := by
  show StateT.bind x (ExceptT.bindCont f) t s = _
  simp only [StateT.bind, bind, h]
  rfl

/-- One computation after another, the first of which fails. -/
theorem beside_bind_error {x : ExceptT ε (StateT τ (StateM σ)) α} {e : ε} {t t' : τ} {s s' : σ}
    (h : x t s = ((.error e, t'), s')) (f : α → ExceptT ε (StateT τ (StateM σ)) β) :
    (x >>= f) t s = ((.error e, t'), s') := by
  show StateT.bind x (ExceptT.bindCont f) t s = _
  simp only [StateT.bind, bind, h]
  rfl

theorem beside_adapt {f : ε → ε'} {x : ExceptT ε (StateT τ (StateM σ)) α} {a : α} {t t' : τ} {s s' : σ}
    (h : x t s = ((.ok a, t'), s')) :
    (x.adapt f : ExceptT ε' (StateT τ (StateM σ)) α) t s = ((.ok a, t'), s') := by
  show StateT.map (Except.mapError f) x t s = _
  simp only [StateT.map, bind, StateT.bind, h]
  rfl

/-- Choosing by questions that change nothing is choosing by their answers. -/
theorem beside_filterM {p : α → ExceptT ε (StateT τ (StateM σ)) Bool} {q : α → Bool} {as : List α} {t : τ}
    {s : σ} (h : ∀ a ∈ as, p a t s = ((.ok (q a), t), s)) :
    (as.filterM p) t s = ((.ok (as.filter q), t), s) := by
  have collect (as acc : List α) (h : ∀ a ∈ as, p a t s = ((.ok (q a), t), s)) :
      (List.filterAuxM p as acc) t s = ((.ok ((as.filter q).reverse ++ acc), t), s) := by
    induction as generalizing acc with
    | nil => rfl
    | cons a as ih =>
      rw [List.filterAuxM, beside_bind (h a List.mem_cons_self),
        ih _ fun b hb => h b (List.mem_cons_of_mem _ hb)]
      cases hq : q a <;> simp [hq]
  rw [List.filterM, beside_bind (collect as [] h), List.append_nil, List.reverse_reverse]
  rfl

/-- A computation that only asks, beside another state as well as without it: it comes to the same answer and
leaves all as it is. -/
def Asks (x : ExceptT ε (StateT τ (StateM σ)) α) (y : ExceptT ε (StateM σ) α) : Prop :=
  ∀ t s, x t s = (((y s).1, t), s) ∧ (y s).2 = s

theorem Asks.pure (a : α) : Asks (τ := τ) (pure a : ExceptT ε (StateT τ (StateM σ)) α) (pure a) :=
  fun _ _ => ⟨rfl, rfl⟩

theorem Asks.throw (e : ε) :
    Asks (throw e : ExceptT ε (StateT τ (StateM σ)) α) (throw e : ExceptT ε (StateM σ) α) :=
  fun _ _ => ⟨rfl, rfl⟩

theorem Asks.bind {x : ExceptT ε (StateT τ (StateM σ)) α} {y : ExceptT ε (StateM σ) α}
    {f : α → ExceptT ε (StateT τ (StateM σ)) β} {g : α → ExceptT ε (StateM σ) β} (first : Asks x y)
    (second : ∀ a, Asks (f a) (g a)) : Asks (x >>= f) (y >>= g) := by
  intro t s
  obtain ⟨same, after⟩ := first t s
  rw [bind_apply]
  rcases hy : y s with ⟨e | a, s'⟩ <;> rw [hy] at same after <;> subst after
  · exact ⟨beside_bind_error same f, rfl⟩
  · rw [beside_bind same f]
    exact second a t s'

theorem Asks.adapt {x : ExceptT ε (StateT τ (StateM σ)) α} {y : ExceptT ε (StateM σ) α} (h : Asks x y)
    (f : ε → ε') : Asks (x.adapt f : ExceptT ε' (StateT τ (StateM σ)) α) (y.adapt f) := by
  intro t s
  refine ⟨?_, (h t s).2⟩
  show StateT.map (Except.mapError f) x t s = _
  simp only [StateT.map, Bind.bind, StateT.bind, (h t s).1]
  rfl

theorem Asks.filterM {p : α → ExceptT ε (StateT τ (StateM σ)) Bool} {q : α → ExceptT ε (StateM σ) Bool}
    (h : ∀ a, Asks (p a) (q a)) (as : List α) : Asks (as.filterM p) (as.filterM q) := by
  have collect (as acc : List α) : Asks (List.filterAuxM p as acc) (List.filterAuxM q as acc) := by
    induction as generalizing acc with
    | nil => exact Asks.pure acc
    | cons a as ih => exact (h a).bind fun _ => ih _
  exact (collect as []).bind fun _ => Asks.pure _

end Fixtures.Runs
