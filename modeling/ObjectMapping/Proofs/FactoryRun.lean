import ObjectMapping.Mapper.Read

/-!
# Running factory operations

A factory operation runs in `FactoryM`: an exception over the factory's state, which is kept
also when the operation fails. This module gives the outcome of each way an operation is put
together, so that later proofs follow an operation step by step without unfolding the monad.

* `run_bind`: a step that succeeds hands its result and the factory to the next, and one that
  fails ends the operation with the factory it left. `run_bind_ok`, `run_bind_error` and
  `run_bind_eq_ok` are its three uses.
* `run_tryCatch_ok`, `run_tryCatch_error`, `run_map`, `run_lift`: handlers, maps and checks
  lifted from `Except`; a handler that only attributes an error and throws it again commutes
  with maps and with an outer handler (`tryCatch_map_rethrow`,
  `tryCatch_map_tryCatch_rethrow`).
* `Yields x P`: every result `x` succeeds with satisfies `P`; it is built up along the steps
  of an operation like a postcondition.
* `mapM_congr_mem`, `foldlM_congr_mem`: a traversal depends on its step only at the members
  it visits, which is how a bound on the fuel reaches inside lists.
-/

namespace ObjectMapping

namespace Factory

variable {α β : Type}

@[simp] theorem run_pure (a : α) (f : Factory) : run (pure a : FactoryM α) f = (.ok a, f) := rfl

@[simp] theorem run_throw (e : MapError) (f : Factory) :
    run (throw e : FactoryM α) f = (.error e, f) :=
  rfl

@[simp] theorem run_get (f : Factory) : run (get : FactoryM Factory) f = (.ok f, f) := rfl

@[simp] theorem run_set (g f : Factory) : run (set g : FactoryM PUnit) f = (.ok ⟨⟩, g) := rfl

@[simp] theorem run_modify (g : Factory → Factory) (f : Factory) :
    run (modify g : FactoryM PUnit) f = (.ok ⟨⟩, g f) :=
  rfl

/-- A step followed by another: the second runs from where the first left the factory, unless
the first failed. -/
theorem run_bind (x : FactoryM α) (k : α → FactoryM β) (f : Factory) :
    run (x >>= k) f =
      match run x f with
      | (.ok a, f') => run (k a) f'
      | (.error e, f') => (.error e, f') := by
  simp only [run, ExceptT.run, bind, ExceptT.bind, ExceptT.mk, ExceptT.bindCont, StateT.run,
    StateT.bind]
  rcases x f with ⟨_ | _, _⟩ <;> rfl

theorem run_bind_ok {x : FactoryM α} {f f' : Factory} {a : α} (h : run x f = (.ok a, f'))
    (k : α → FactoryM β) : run (x >>= k) f = run (k a) f' := by
  rw [run_bind, h]

theorem run_bind_error {x : FactoryM α} {f f' : Factory} {e : MapError}
    (h : run x f = (.error e, f')) (k : α → FactoryM β) : run (x >>= k) f = (.error e, f') := by
  rw [run_bind, h]

/-- A step followed by another succeeds only when both do, the second from where the first
left the factory. -/
theorem run_bind_eq_ok {x : FactoryM α} {k : α → FactoryM β} {f f₂ : Factory} {b : β}
    (h : run (x >>= k) f = (.ok b, f₂)) :
    ∃ a f₁, run x f = (.ok a, f₁) ∧ run (k a) f₁ = (.ok b, f₂) := by
  rw [run_bind] at h
  rcases hx : run x f with ⟨_ | a, f₁⟩
  · rw [hx] at h
    cases h
  · rw [hx] at h
    exact ⟨a, f₁, rfl, h⟩

theorem run_map (g : α → β) (x : FactoryM α) (f : Factory) :
    run (g <$> x) f =
      match run x f with
      | (.ok a, f') => (.ok (g a), f')
      | (.error e, f') => (.error e, f') := by
  simp only [run, ExceptT.run, Functor.map, ExceptT.map, ExceptT.mk, StateT.run, bind,
    StateT.bind]
  rcases x f with ⟨_ | _, _⟩ <;> rfl

theorem run_tryCatch_ok {x : FactoryM α} {f f' : Factory} {a : α} (h : run x f = (.ok a, f'))
    (handler : MapError → FactoryM α) : run (tryCatch x handler) f = (.ok a, f') := by
  simp only [run, ExceptT.run, StateT.run] at h ⊢
  simp only [tryCatch, MonadExcept.tryCatch, tryCatchThe, MonadExceptOf.tryCatch,
    ExceptT.tryCatch, ExceptT.mk, bind, StateT.bind]
  rw [h]
  rfl

theorem run_tryCatch_error {x : FactoryM α} {f f' : Factory} {e : MapError}
    (h : run x f = (.error e, f')) (handler : MapError → FactoryM α) :
    run (tryCatch x handler) f = run (handler e) f' := by
  simp only [run, ExceptT.run, StateT.run] at h ⊢
  simp only [tryCatch, MonadExcept.tryCatch, tryCatchThe, MonadExceptOf.tryCatch,
    ExceptT.tryCatch, ExceptT.mk, bind, StateT.bind]
  rw [h]

@[simp] theorem run_lift (r : Except MapError α) (f : Factory) :
    run (Mapper.lift r) f = (r, f) := by
  cases r <;> rfl

@[simp] theorem lift_ok (a : α) : Mapper.lift (.ok a : Except MapError α) = pure a :=
  rfl

/-- Two operations are the same when they run the same from every factory. -/
theorem ext {x y : FactoryM α} (h : ∀ f, run x f = run y f) : x = y := funext h

/-- A handler that only attributes an error and throws it again commutes with a map. -/
theorem tryCatch_map_rethrow (g : α → β) (x : FactoryM α) (k : MapError → MapError) :
    tryCatch (g <$> x) (fun e => throw (k e)) = g <$> tryCatch x (fun e => throw (k e)) := by
  refine ext fun f => ?_
  rcases hx : run x f with ⟨_ | a, f'⟩
  · rw [run_tryCatch_error (by rw [run_map, hx]), run_map, run_tryCatch_error hx]
    rfl
  · rw [run_tryCatch_ok (by rw [run_map, hx]), run_map, run_tryCatch_ok hx]

@[simp] theorem tryCatch_pure (a : α) (h : MapError → FactoryM α) :
    tryCatch (pure a : FactoryM α) h = pure a :=
  ext fun _ => run_tryCatch_ok rfl h

/-- Attributing an error and then catching it is catching the attributed error. -/
theorem tryCatch_map_tryCatch_rethrow (g : α → β) (x : FactoryM α) (k : MapError → MapError)
    (h : MapError → FactoryM β) :
    tryCatch (g <$> tryCatch x (fun e => throw (k e))) h =
      tryCatch (g <$> x) (fun e => h (k e)) := by
  refine ext fun f => ?_
  rcases hx : run x f with ⟨_ | a, f'⟩
  · rename_i e
    have hinner : run (g <$> tryCatch x (fun e => throw (k e))) f = (.error (k e), f') := by
      rw [run_map, run_tryCatch_error hx]
      rfl
    rw [run_tryCatch_error hinner, run_tryCatch_error (by rw [run_map, hx])]
  · have hinner : run (g <$> tryCatch x (fun e => throw (k e))) f = (.ok (g a), f') := by
      rw [run_map, run_tryCatch_ok hx]
    rw [run_tryCatch_ok hinner, run_tryCatch_ok (by rw [run_map, hx])]

/-! ## What an operation yields -/

/-- Every result an operation succeeds with satisfies `P`, from whatever factory it starts. -/
def Yields (x : FactoryM α) (P : α → Prop) : Prop :=
  ∀ f a f', run x f = (.ok a, f') → P a

namespace Yields

variable {P Q : α → Prop}

theorem pure {a : α} (h : P a) : Yields (Pure.pure a) P := by
  intro f b f' hrun
  cases hrun
  exact h

theorem throw {e : MapError} : Yields (MonadExcept.throw e : FactoryM α) P := by
  intro f b f' hrun
  cases hrun

theorem trivial {x : FactoryM α} : Yields x fun _ => True := fun _ _ _ _ => True.intro

theorem bind {x : FactoryM α} {k : α → FactoryM β} {R : β → Prop} (hx : Yields x Q)
    (hk : ∀ a, Q a → Yields (k a) R) : Yields (x >>= k) R := by
  intro f b f₂ hrun
  obtain ⟨a, f₁, h₁, h₂⟩ := run_bind_eq_ok hrun
  exact hk a (hx f a f₁ h₁) f₁ b f₂ h₂

theorem throw_bind {e : MapError} {k : α → FactoryM β} {R : β → Prop} :
    Yields (MonadExcept.throw e >>= k) R :=
  bind (Q := fun _ => False) throw fun _ h => h.elim

/-- A traversal that succeeds gives one result for each element. -/
theorem mapM_length {g : α → FactoryM β} :
    ∀ xs : List α, Yields (xs.mapM g) fun ys => ys.length = xs.length
  | [] => pure rfl
  | x :: xs => by
    rw [List.mapM_cons]
    exact bind trivial fun _ _ => bind (mapM_length xs) fun ys h => pure (by simp [h])

end Yields

end Factory

/-! ## Traversals -/

@[simp] theorem Except.toOption_ok {ε α : Type} (a : α) : (Except.ok a : Except ε α).toOption = some a :=
  rfl

@[simp] theorem Except.toOption_error {ε α : Type} (e : ε) :
    (Except.error e : Except ε α).toOption = none :=
  rfl

section

variable {m : Type → Type} [Monad m] [LawfulMonad m] {α β γ : Type}

theorem mapM_congr_mem {g h : α → m β} :
    ∀ {xs : List α}, (∀ x ∈ xs, g x = h x) → xs.mapM g = xs.mapM h
  | [], _ => rfl
  | x :: xs, hx => by
    simp only [List.mapM_cons]
    rw [hx x List.mem_cons_self, mapM_congr_mem fun y hy => hx y (List.mem_cons_of_mem x hy)]

omit [LawfulMonad m] in
theorem foldlM_congr_mem {g h : γ → α → m γ} :
    ∀ {xs : List α} (init : γ), (∀ c, ∀ x ∈ xs, g c x = h c x) →
      xs.foldlM g init = xs.foldlM h init
  | [], _, _ => rfl
  | x :: xs, init, hx => by
    rw [List.foldlM_cons, List.foldlM_cons, hx init x List.mem_cons_self]
    congr 1
    funext c
    exact foldlM_congr_mem c fun c y hy => hx c y (List.mem_cons_of_mem x hy)

end

end ObjectMapping
