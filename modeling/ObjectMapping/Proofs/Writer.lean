import ObjectMapping.Mapper.Write

/-!
# Running a write

A write runs in `WriteM`, an exception over a state of a factory and an output. This module
gives the outcome of each way a write is put together, so that later proofs follow a write
step by step without unfolding the monad:

* `WriteM.run_bind_ok`, `WriteM.run_bind_error`, `WriteM.run_tryCatch_ok`,
  `WriteM.run_tryCatch_error`: a step that succeeds hands its result, factory and output to the
  next; a step that fails ends the write with the output written so far.
* `WriteM.run_factory`: a factory operation inside a write leaves the output alone;
  `WriteM.run_call`: a call of the format leaves the factory alone.
* `Piece.runAll` is what pieces with no nested object write: their outputs in order, up to
  the first failure. `run_writePieces_of_flat` says `Mapper.writePieces` does exactly that, and
  leaves the factory as it was.
-/

namespace ObjectMapping

namespace WriteM

variable {σ α β : Type}

@[simp] theorem run_pure (a : α) (f : Factory) (out : σ) :
    run (pure a : WriteM σ α) f out = (.ok a, f, out) :=
  rfl

@[simp] theorem run_throw (e : MapError) (f : Factory) (out : σ) :
    run (throw e : WriteM σ α) f out = (.error e, f, out) :=
  rfl

@[simp] theorem run_emit (g : σ → σ) (f : Factory) (out : σ) :
    run (emit g) f out = (.ok (), f, g out) :=
  rfl

@[simp] theorem run_get (f : Factory) (out : σ) :
    run (get : WriteM σ (Factory × σ)) f out = (.ok (f, out), f, out) :=
  rfl

@[simp] theorem run_set (s : Factory × σ) (f : Factory) (out : σ) :
    run (set s : WriteM σ PUnit) f out = (.ok ⟨⟩, s.1, s.2) :=
  rfl

theorem run_bind_ok {x : WriteM σ α} {f f' : Factory} {out out' : σ} {a : α}
    (h : run x f out = (.ok a, f', out')) (k : α → WriteM σ β) :
    run (x >>= k) f out = run (k a) f' out' := by
  simp only [run, ExceptT.run, bind, ExceptT.bind, ExceptT.mk, ExceptT.bindCont, StateT.run,
    StateT.bind] at h ⊢
  rw [h]

theorem run_bind_error {x : WriteM σ α} {f f' : Factory} {out out' : σ} {e : MapError}
    (h : run x f out = (.error e, f', out')) (k : α → WriteM σ β) :
    run (x >>= k) f out = (.error e, f', out') := by
  simp only [run, ExceptT.run, bind, ExceptT.bind, ExceptT.mk, ExceptT.bindCont, StateT.run,
    StateT.bind] at h ⊢
  rw [h]
  rfl

theorem run_tryCatch_ok {x : WriteM σ α} {f f' : Factory} {out out' : σ} {a : α}
    (h : run x f out = (.ok a, f', out')) (handler : MapError → WriteM σ α) :
    run (tryCatch x handler) f out = (.ok a, f', out') := by
  simp only [run, ExceptT.run, StateT.run] at h ⊢
  simp only [tryCatch, MonadExcept.tryCatch, tryCatchThe, MonadExceptOf.tryCatch,
    ExceptT.tryCatch, ExceptT.mk, bind, StateT.bind]
  rw [h]
  rfl

theorem run_tryCatch_error {x : WriteM σ α} {f f' : Factory} {out out' : σ} {e : MapError}
    (h : run x f out = (.error e, f', out')) (handler : MapError → WriteM σ α) :
    run (tryCatch x handler) f out = run (handler e) f' out' := by
  simp only [run, ExceptT.run, StateT.run] at h ⊢
  simp only [tryCatch, MonadExcept.tryCatch, tryCatchThe, MonadExceptOf.tryCatch,
    ExceptT.tryCatch, ExceptT.mk, bind, StateT.bind]
  rw [h]

theorem run_factory (x : FactoryM α) (f : Factory) (out : σ) :
    run (factory x : WriteM σ α) f out = ((Factory.run x f).1, (Factory.run x f).2, out) := by
  unfold factory
  rw [run_bind_ok (run_get f out)]
  generalize hx : Factory.run x f = p
  obtain ⟨r, f'⟩ := p
  simp only [hx]
  rw [run_bind_ok (run_set (f', out) f out)]
  cases r <;> rfl

/-- A call of the format leaves the factory alone and the output as the call leaves it. -/
@[simp] theorem run_call (c : FormatCall σ) (f : Factory) (out : σ) :
    run (call c) f out = ((c out).1, f, (c out).2) := by
  unfold call
  rw [run_bind_ok (run_get f out)]
  generalize hc : c out = p
  obtain ⟨r, out'⟩ := p
  simp only [hc]
  rw [run_bind_ok (run_set (f, out') f out)]
  cases r <;> rfl

theorem run_call_append (g : σ → σ) (f : Factory) (out : σ) :
    run (call (FormatCall.append g)) f out = (.ok (), f, g out) :=
  rfl

end WriteM

namespace Piece

variable {σ : Type}

/-- Whether the piece hands an object back to the mapper. -/
def isNested : Piece σ → Bool
  | .nested _ => true
  | _ => false

/-- What pieces with no nested object write from an output: their outputs in order, up to the
first failure. -/
def runAll : List (Piece σ) → σ → Except MapError Unit × σ
  | [], out => (.ok (), out)
  | .emit g :: ps, out => runAll ps (g out)
  | .fail e :: _, out => (.error e, out)
  | .nested _ :: ps, out => runAll ps out

@[simp] theorem runAll_nil (out : σ) : runAll ([] : List (Piece σ)) out = (.ok (), out) := rfl

@[simp] theorem runAll_emit (g : σ → σ) (ps : List (Piece σ)) (out : σ) :
    runAll (.emit g :: ps) out = runAll ps (g out) :=
  rfl

@[simp] theorem runAll_fail (e : MapError) (ps : List (Piece σ)) (out : σ) :
    runAll (.fail e :: ps) out = (.error e, out) :=
  rfl

/-- Pieces one after the other: the second list runs from where the first one stopped, unless
the first one failed. -/
theorem runAll_append (ps qs : List (Piece σ)) (out : σ) :
    runAll (ps ++ qs) out =
      match runAll ps out with
      | (.ok (), out') => runAll qs out'
      | (.error e, out') => (.error e, out') := by
  induction ps generalizing out with
  | nil => rfl
  | cons p ps ih =>
    cases p with
    | emit g => exact ih (g out)
    | fail e => rfl
    | nested r => exact ih out

theorem runAll_append_ok {ps : List (Piece σ)} {out out' : σ} (h : runAll ps out = (.ok (), out'))
    (qs : List (Piece σ)) : runAll (ps ++ qs) out = runAll qs out' := by
  rw [runAll_append, h]

theorem runAll_append_error {ps : List (Piece σ)} {out out' : σ} {e : MapError}
    (h : runAll ps out = (.error e, out')) (qs : List (Piece σ)) :
    runAll (ps ++ qs) out = (.error e, out') := by
  rw [runAll_append, h]

end Piece

namespace Mapper

variable {σ : Type}

/-- Pieces with no nested object are written as `Piece.runAll` says, and the factory is left as
it was. -/
theorem run_writePieces_of_flat (F : Format σ) (limit depth : Nat) {ps : List (Piece σ)}
    (h : ∀ p ∈ ps, p.isNested = false) (f : Factory) (out : σ) :
    WriteM.run (writePieces F limit depth ps) f out =
      ((Piece.runAll ps out).1, f, (Piece.runAll ps out).2) := by
  induction ps generalizing out with
  | nil => simp [writePieces]
  | cons p ps ih =>
    have hps : ∀ q ∈ ps, q.isNested = false := fun q hq => h q (List.mem_cons_of_mem p hq)
    cases p with
    | emit g =>
      rw [writePieces, WriteM.run_bind_ok (WriteM.run_emit g f out), ih hps]
      rfl
    | fail e => simp [writePieces]
    | nested r => exact absurd (h _ List.mem_cons_self) (by simp [Piece.isNested])

end Mapper

end ObjectMapping
