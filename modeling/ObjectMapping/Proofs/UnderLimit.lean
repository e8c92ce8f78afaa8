import ObjectMapping.Proofs.FactoryFrame
import ObjectMapping.Proofs.Writer

/-!
# Runs under another limit of nesting

The limit of nesting is read in two places: the reader asks the factory for it each time it
enters a record, and a write reads it once and hands it down. Either way, lowering the limit
changes nothing until some record or object goes past it, and there the run stops with
`DepthExceeded`. This module says so once for every way an operation is put together, so that
the reader and the writer each follow their own recursion and get the result by induction.

* `HoldsFactory`: the states operations run on, a factory (`FactoryM`) or a factory with an
  output (`WriteM`); either can be put under another limit.
* `LimitAgrees S D deep x y`: where `x` succeeds from a state, `y` run from that state under the
  limit `D` gives the same result and the same state under `D`, unless `deep` holds; then `y`
  fails and the cause is the limit `D`. `deep` is judged with the mappers kept by the end of the
  run of `x`, or with any list that keeps more after them.
* The rules for `pure`, `throw`, `bind`, handlers and traversals, then those of the factory
  (`enter_bind`, `mapperFor_bind`) and of writes (`emit`, `factory_mapperFor_bind`), and
  `dite_limit` for a test against the limit made by the operation itself.
-/

namespace ObjectMapping

@[simp] theorem MapError.root_within (e : MapError) (owner property : String) :
    (e.within owner property).root = e.root := by
  cases e <;> rfl

namespace Factory

/-- How a run leaves a factory: with its schema, and with the mappers kept before it still kept
first. -/
structure Grows (f f' : Factory) : Prop where
  schema : f'.schema = f.schema
  cache : f.cache <+: f'.cache

theorem Grows.refl (f : Factory) : f.Grows f := ⟨rfl, List.prefix_refl _⟩

theorem Grows.trans {f f' f'' : Factory} (h₁ : f.Grows f') (h₂ : f'.Grows f'') : f.Grows f'' :=
  ⟨h₂.schema.trans h₁.schema, h₁.cache.trans h₂.cache⟩

end Factory

/-- A state that holds a factory, and that can be put under another limit of nesting. -/
class HoldsFactory (ω : Type) where
  factory : ω → Factory
  withLimit : ω → Nat → ω

instance : HoldsFactory Factory := ⟨id, Factory.withLimit⟩

instance {σ : Type} : HoldsFactory (Factory × σ) := ⟨Prod.fst, fun s D => (s.1.withLimit D, s.2)⟩

namespace HoldsFactory

variable {ω α β : Type}

/-- Runs an operation on a state. -/
def run (x : ExceptT MapError (StateM ω) α) (s : ω) : Except MapError α × ω := x.run.run s

@[simp] theorem run_pure (a : α) (s : ω) :
    run (pure a : ExceptT MapError (StateM ω) α) s = (.ok a, s) :=
  rfl

@[simp] theorem run_throw (e : MapError) (s : ω) :
    run (throw e : ExceptT MapError (StateM ω) α) s = (.error e, s) :=
  rfl

theorem run_bind (x : ExceptT MapError (StateM ω) α) (k : α → ExceptT MapError (StateM ω) β)
    (s : ω) :
    run (x >>= k) s =
      match run x s with
      | (.ok a, s') => run (k a) s'
      | (.error e, s') => (.error e, s') := by
  simp only [run, ExceptT.run, bind, ExceptT.bind, ExceptT.mk, ExceptT.bindCont, StateT.run,
    StateT.bind]
  rcases x s with ⟨_ | _, _⟩ <;> rfl

theorem run_bind_ok {x : ExceptT MapError (StateM ω) α} {s s' : ω} {a : α}
    (h : run x s = (.ok a, s')) (k : α → ExceptT MapError (StateM ω) β) :
    run (x >>= k) s = run (k a) s' := by
  rw [run_bind, h]

theorem run_bind_error {x : ExceptT MapError (StateM ω) α} {s s' : ω} {e : MapError}
    (h : run x s = (.error e, s')) (k : α → ExceptT MapError (StateM ω) β) :
    run (x >>= k) s = (.error e, s') := by
  rw [run_bind, h]

theorem run_bind_eq_ok {x : ExceptT MapError (StateM ω) α} {k : α → ExceptT MapError (StateM ω) β}
    {s s₂ : ω} {b : β} (h : run (x >>= k) s = (.ok b, s₂)) :
    ∃ a s₁, run x s = (.ok a, s₁) ∧ run (k a) s₁ = (.ok b, s₂) := by
  rw [run_bind] at h
  rcases hx : run x s with ⟨_ | a, s₁⟩
  · rw [hx] at h
    cases h
  · rw [hx] at h
    exact ⟨a, s₁, rfl, h⟩

theorem run_tryCatch_ok {x : ExceptT MapError (StateM ω) α} {s s' : ω} {a : α}
    (h : run x s = (.ok a, s')) (handler : MapError → ExceptT MapError (StateM ω) α) :
    run (tryCatch x handler) s = (.ok a, s') := by
  simp only [run, ExceptT.run, StateT.run] at h ⊢
  simp only [tryCatch, MonadExcept.tryCatch, tryCatchThe, MonadExceptOf.tryCatch,
    ExceptT.tryCatch, ExceptT.mk, bind, StateT.bind]
  rw [h]
  rfl

theorem run_tryCatch_error {x : ExceptT MapError (StateM ω) α} {s s' : ω} {e : MapError}
    (h : run x s = (.error e, s')) (handler : MapError → ExceptT MapError (StateM ω) α) :
    run (tryCatch x handler) s = run (handler e) s' := by
  simp only [run, ExceptT.run, StateT.run] at h ⊢
  simp only [tryCatch, MonadExcept.tryCatch, tryCatchThe, MonadExceptOf.tryCatch,
    ExceptT.tryCatch, ExceptT.mk, bind, StateT.bind]
  rw [h]

theorem run_map (g : α → β) (x : ExceptT MapError (StateM ω) α) (s : ω) :
    run (g <$> x) s =
      match run x s with
      | (.ok a, s') => (.ok (g a), s')
      | (.error e, s') => (.error e, s') := by
  simp only [run, ExceptT.run, Functor.map, ExceptT.map, ExceptT.mk, StateT.run, bind,
    StateT.bind]
  rcases x s with ⟨_ | _, _⟩ <;> rfl

/-! The two kinds of state -/

@[simp] theorem run_factoryM (x : FactoryM α) (f : Factory) : run x f = Factory.run x f := rfl

@[simp] theorem factory_factory (f : Factory) : factory f = f := rfl

@[simp] theorem withLimit_factory (f : Factory) (D : Nat) : withLimit f D = f.withLimit D := rfl

theorem run_writeM {σ : Type} (x : WriteM σ α) (s : Factory × σ) :
    run x s = WriteM.run x s.1 s.2 :=
  rfl

@[simp] theorem factory_write {σ : Type} (s : Factory × σ) : factory s = s.1 := rfl

@[simp] theorem withLimit_write {σ : Type} (s : Factory × σ) (D : Nat) :
    withLimit s D = (s.1.withLimit D, s.2) :=
  rfl

end HoldsFactory

open HoldsFactory

section Limit

variable {ω : Type} [HoldsFactory ω] (S : Schema) (D : Nat) {α β : Type}

/-- Where `x` succeeds from a state with the schema `S`, `y` run from that state under the limit
`D` gives the same result and leaves the same state under `D`, unless the run goes past `D`
(`deep`, judged with any mappers kept after those the run of `x` leaves); then `y` fails, and its
cause is the limit. The run of `x` keeps the schema and the mappers kept before it. -/
def LimitAgrees (deep : List (Ty × Mapper) → Prop) (x y : ExceptT MapError (StateM ω) α) :
    Prop :=
  ∀ s a s', (factory s).schema = S → run x s = (.ok a, s') →
    (factory s).Grows (factory s') ∧ ∀ T, (factory s').cache <+: T →
      (¬ deep T → run y (withLimit s D) = (.ok a, withLimit s' D)) ∧
      (deep T → ∃ e s₀, run y (withLimit s D) = (.error e, s₀) ∧ e.root = .depthExceeded D)

/-- An operation that reads the limit from the factory: run under `D` it does what it did,
unless it goes past `D`. -/
abbrev LimitStable (deep : List (Ty × Mapper) → Prop) (x : ExceptT MapError (StateM ω) α) :
    Prop :=
  LimitAgrees S D deep x x

namespace LimitAgrees

variable {S D} {P Q : List (Ty × Mapper) → Prop}

theorem congr {x y : ExceptT MapError (StateM ω) α} (hx : LimitAgrees S D P x y)
    (h : ∀ T, P T ↔ Q T) : LimitAgrees S D Q x y := by
  intro s a s' hS hrun
  obtain ⟨hg, hT⟩ := hx s a s' hS hrun
  refine ⟨hg, fun T hc => ?_⟩
  obtain ⟨hsame, hdeep⟩ := hT T hc
  exact ⟨fun hq => hsame fun hp => hq ((h T).1 hp), fun hq => hdeep ((h T).2 hq)⟩

theorem pure (a : α) :
    LimitAgrees S D (fun _ => False) (Pure.pure a : ExceptT MapError (StateM ω) α)
      (Pure.pure a) := by
  intro s b s' _ hrun
  cases hrun
  exact ⟨Factory.Grows.refl _, fun _ _ => ⟨fun _ => rfl, False.elim⟩⟩

theorem throw (e : MapError) {y : ExceptT MapError (StateM ω) α} :
    LimitAgrees S D P (MonadExcept.throw e) y := by
  intro s a s' _ hrun
  cases hrun

theorem throw_bind {e : MapError} {k : α → ExceptT MapError (StateM ω) β}
    {y : ExceptT MapError (StateM ω) β} : LimitAgrees S D P (MonadExcept.throw e >>= k) y := by
  intro s a s' _ hrun
  cases hrun

theorem bind {x y : ExceptT MapError (StateM ω) α} {k k' : α → ExceptT MapError (StateM ω) β}
    (hx : LimitAgrees S D P x y) (hk : ∀ a, LimitAgrees S D Q (k a) (k' a)) :
    LimitAgrees S D (fun T => P T ∨ Q T) (x >>= k) (y >>= k') := by
  intro s b s₂ hS hrun
  obtain ⟨a, s₁, h₁, h₂⟩ := run_bind_eq_ok hrun
  obtain ⟨hg₁, hT₁⟩ := hx s a s₁ hS h₁
  obtain ⟨hg₂, hT₂⟩ := hk a s₁ b s₂ (hg₁.schema.trans hS) h₂
  refine ⟨hg₁.trans hg₂, fun T hc => ?_⟩
  obtain ⟨hsame₁, hdeep₁⟩ := hT₁ T (hg₂.cache.trans hc)
  obtain ⟨hsame₂, hdeep₂⟩ := hT₂ T hc
  refine ⟨fun hnot => ?_, fun hdeep => ?_⟩
  · rw [run_bind_ok (hsame₁ fun hp => hnot (.inl hp))]
    exact hsame₂ fun hq => hnot (.inr hq)
  · by_cases hp : P T
    · obtain ⟨e, s₀, hrun₀, he⟩ := hdeep₁ hp
      exact ⟨e, s₀, run_bind_error hrun₀ k', he⟩
    · rw [run_bind_ok (hsame₁ hp)]
      exact hdeep₂ (hdeep.resolve_left hp)

theorem map {x y : ExceptT MapError (StateM ω) α} (g : α → β) (hx : LimitAgrees S D P x y) :
    LimitAgrees S D P (g <$> x) (g <$> y) := by
  intro s b s' hS hrun
  rw [run_map] at hrun
  rcases h₁ : run x s with ⟨_ | a, s₁⟩
  · rw [h₁] at hrun
    cases hrun
  · rw [h₁] at hrun
    cases hrun
    obtain ⟨hg, hT⟩ := hx s a s' hS h₁
    refine ⟨hg, fun T hc => ?_⟩
    obtain ⟨hsame, hdeep⟩ := hT T hc
    refine ⟨fun hnot => by rw [run_map, hsame hnot], fun hp => ?_⟩
    obtain ⟨e, s₀, hrun₀, he⟩ := hdeep hp
    exact ⟨e, s₀, by rw [run_map, hrun₀], he⟩

/-- Attributing an error to a property keeps its cause. -/
theorem tryCatch_within {x y : ExceptT MapError (StateM ω) α} (hx : LimitAgrees S D P x y)
    (owner property : String) :
    LimitAgrees S D P (tryCatch x fun e => MonadExcept.throw (e.within owner property))
      (tryCatch y fun e => MonadExcept.throw (e.within owner property)) := by
  intro s a s' hS hrun
  rcases h₁ : run x s with ⟨_ | b, s₁⟩
  · rw [run_tryCatch_error h₁] at hrun
    cases hrun
  · rw [run_tryCatch_ok h₁] at hrun
    cases hrun
    obtain ⟨hg, hT⟩ := hx s a s' hS h₁
    refine ⟨hg, fun T hc => ?_⟩
    obtain ⟨hsame, hdeep⟩ := hT T hc
    refine ⟨fun hnot => run_tryCatch_ok (hsame hnot) _, fun hp => ?_⟩
    obtain ⟨e, s₀, hrun₀, he⟩ := hdeep hp
    exact ⟨e.within owner property, s₀, run_tryCatch_error hrun₀ _, by simpa using he⟩

theorem mapM {γ : Type} {g g' : γ → ExceptT MapError (StateM ω) β}
    {Q : γ → List (Ty × Mapper) → Prop} :
    ∀ (cs : List γ), (∀ c ∈ cs, LimitAgrees S D (Q c) (g c) (g' c)) →
      LimitAgrees S D (fun T => ∃ c ∈ cs, Q c T) (cs.mapM g) (cs.mapM g')
  | [], _ => (pure []).congr (by simp)
  | c :: cs, h => by
    rw [List.mapM_cons, List.mapM_cons]
    refine (bind (h c List.mem_cons_self) fun b =>
      bind (mapM cs fun c' hc' => h c' (List.mem_cons_of_mem c hc')) fun bs =>
        pure (b :: bs)).congr fun T => ?_
    simp

theorem foldlM {γ : Type} {step step' : β → γ → ExceptT MapError (StateM ω) β}
    {Q : γ → List (Ty × Mapper) → Prop} :
    ∀ (cs : List γ) (init : β), (∀ b, ∀ c ∈ cs, LimitAgrees S D (Q c) (step b c) (step' b c)) →
      LimitAgrees S D (fun T => ∃ c ∈ cs, Q c T) (cs.foldlM step init) (cs.foldlM step' init)
  | [], init, _ => (pure init).congr (by simp)
  | c :: cs, init, h => by
    rw [List.foldlM_cons, List.foldlM_cons]
    refine (bind (h init c List.mem_cons_self) fun b =>
      foldlM cs b fun b' c' hc' => h b' c' (List.mem_cons_of_mem c hc')).congr fun T => ?_
    simp

/-- A test against the limit made by the operation itself: the run that succeeded was within
its own limit, and the run under `D` stops here exactly when the level is deeper than `D`. -/
theorem dite_limit {L depth : Nat} {x y : ExceptT MapError (StateM ω) α}
    (hx : ¬ L < depth + 1 → LimitAgrees S D P x y) :
    LimitAgrees S D (fun T => D < depth + 1 ∨ P T)
      (if _ : L < depth + 1 then MonadExcept.throw (.depthExceeded L) else x)
      (if _ : D < depth + 1 then MonadExcept.throw (.depthExceeded D) else y) := by
  intro s a s' hS hrun
  by_cases hL : L < depth + 1
  · rw [dif_pos hL] at hrun
    cases hrun
  rw [dif_neg hL] at hrun
  obtain ⟨hg, hT⟩ := hx hL s a s' hS hrun
  refine ⟨hg, fun T hc => ?_⟩
  obtain ⟨hsame, hdeep⟩ := hT T hc
  by_cases hD : D < depth + 1
  · rw [dif_pos hD]
    exact ⟨fun hnot => absurd (.inl hD) hnot, fun _ => ⟨_, _, rfl, rfl⟩⟩
  · rw [dif_neg hD]
    exact ⟨fun hnot => hsame fun hp => hnot (.inr hp),
      fun hp => hdeep (hp.resolve_left hD)⟩

end LimitAgrees

end Limit

/-! ## Factory operations -/

namespace LimitAgrees

variable {S : Schema} {D : Nat} {α β : Type} {P Q : List (Ty × Mapper) → Prop}

theorem lift (r : Except MapError α) :
    LimitAgrees S D (fun _ => False) (Mapper.lift r) (Mapper.lift r) := by
  cases r with
  | error e => exact throw e
  | ok a => exact pure a

theorem schemaM_bind {k k' : Schema → FactoryM α} (hk : LimitAgrees S D P (k S) (k' S)) :
    LimitAgrees S D P (Factory.schemaM >>= k) (Factory.schemaM >>= k') := by
  intro f a f' hS hrun
  have hschema : ∀ g : Factory, Factory.run Factory.schemaM g = (.ok g.schema, g) := fun _ => rfl
  simp only [run_factoryM, factory_factory] at hrun hS ⊢
  rw [Factory.run_bind_ok (hschema f), hS] at hrun
  obtain ⟨hg, hT⟩ := hk f a f' hS hrun
  refine ⟨hg, fun T hc => ?_⟩
  simp only [withLimit_factory]
  rw [Factory.run_bind_ok (hschema _), Factory.withLimit_schema, hS]
  exact hT T hc

theorem freshIdentity_bind {k k' : Identity → FactoryM α}
    (hk : ∀ i, LimitAgrees S D P (k i) (k' i)) :
    LimitAgrees S D P (Factory.freshIdentity >>= k) (Factory.freshIdentity >>= k') := by
  intro f a f' hS hrun
  have hfresh : ∀ g : Factory, Factory.run Factory.freshIdentity g =
      (.ok (.created g.instances), { g with instances := g.instances + 1 }) := fun _ => rfl
  simp only [run_factoryM] at hrun
  rw [Factory.run_bind_ok (hfresh f)] at hrun
  obtain ⟨hg, hT⟩ := hk _ { f with instances := f.instances + 1 } a f' hS hrun
  have hgrow : f.Grows { f with instances := f.instances + 1 } := ⟨rfl, List.prefix_refl _⟩
  refine ⟨hgrow.trans hg, fun T hc => ?_⟩
  simp only [run_factoryM, withLimit_factory]
  rw [Factory.run_bind_ok (hfresh _)]
  exact hT T hc

theorem run_enter (d : Nat) (f : Factory) :
    Factory.run (Factory.enter d) f =
      if d + 1 > f.config.maxDepth then (.error (.depthExceeded f.config.maxDepth), f)
      else (.ok (d + 1), f) := by
  unfold Factory.enter
  rw [Factory.run_bind_ok (Factory.run_get f)]
  by_cases h : d + 1 > f.config.maxDepth
  · simp only [h, if_true]
    rfl
  · simp only [h, if_false]
    rfl

/-- Entering a level of nesting passes the limit `D` exactly when the level is deeper than
`D`; the run that succeeds stayed within its own limit. -/
theorem enter_bind {d : Nat} {k k' : Nat → FactoryM α}
    (hk : LimitAgrees S D P (k (d + 1)) (k' (d + 1))) :
    LimitAgrees S D (fun T => D < d + 1 ∨ P T) (Factory.enter d >>= k)
      (Factory.enter d >>= k') := by
  intro f a f' hS hrun
  simp only [run_factoryM] at hrun
  by_cases hover : d + 1 > f.config.maxDepth
  · rw [Factory.run_bind_error (by rw [run_enter, if_pos hover])] at hrun
    cases hrun
  rw [Factory.run_bind_ok (by rw [run_enter, if_neg hover])] at hrun
  obtain ⟨hg, hT⟩ := hk f a f' hS hrun
  refine ⟨hg, fun T hc => ?_⟩
  obtain ⟨hsame, hdeep⟩ := hT T hc
  simp only [run_factoryM, withLimit_factory] at hsame hdeep ⊢
  refine ⟨fun hnot => ?_, fun hp => ?_⟩
  · rw [Factory.run_bind_ok (by rw [run_enter, Factory.withLimit_maxDepth, if_neg (by omega)])]
    exact hsame fun hq => hnot (.inr hq)
  · by_cases hlt : d + 1 > D
    · exact ⟨_, _, Factory.run_bind_error
        (by rw [run_enter, Factory.withLimit_maxDepth, if_pos hlt]) k', rfl⟩
    · rw [Factory.run_bind_ok (by rw [run_enter, Factory.withLimit_maxDepth, if_neg hlt])]
      exact hdeep (hp.resolve_left (by omega))

/-- Looking up or building the mapper of a record: where it succeeds it keeps the mapper, so
what follows is judged with the mapper kept for the record's type. -/
theorem mapperFor_run {d : Descriptor} {f f₁ : Factory} {m : Mapper}
    (h : Factory.run (Factory.mapperFor d) f = (.ok m, f₁)) :
    f.Grows f₁ ∧ (∀ T, f₁.cache <+: T → T.lookup d.ops.ty = some m) ∧
      ∀ D, Factory.run (Factory.mapperFor d) (f.withLimit D) = (.ok m, f₁.withLimit D) := by
  obtain ⟨hcache, hkept⟩ := Factory.mapperFor_kept h
  have hschema : f₁.schema = f.schema := by simpa [h] using Factory.mapperFor_schema d f
  refine ⟨⟨hschema, hcache⟩, fun T hc => Factory.lookup_of_prefix hc hkept, fun D => ?_⟩
  rw [Factory.mapperFor_withLimit D d f, h]

theorem mapperFor_bind {d : Descriptor} {k k' : Mapper → FactoryM α}
    {Q : Mapper → List (Ty × Mapper) → Prop} (hk : ∀ m, LimitAgrees S D (Q m) (k m) (k' m)) :
    LimitAgrees S D (fun T => ∃ m, T.lookup d.ops.ty = some m ∧ Q m T)
      (Factory.mapperFor d >>= k) (Factory.mapperFor d >>= k') := by
  intro f a f₂ hS hrun
  simp only [run_factoryM] at hrun
  obtain ⟨m, f₁, h₁, h₂⟩ := Factory.run_bind_eq_ok hrun
  obtain ⟨hg₁, hkept, hlow⟩ := mapperFor_run h₁
  obtain ⟨hg, hT⟩ := hk m f₁ a f₂ (hg₁.schema.trans hS) h₂
  refine ⟨hg₁.trans hg, fun T hc => ?_⟩
  obtain ⟨hsame, hdeep⟩ := hT T hc
  have hlookup : T.lookup d.ops.ty = some m := hkept T (hg.cache.trans hc)
  simp only [run_factoryM, withLimit_factory] at hsame hdeep ⊢
  rw [Factory.run_bind_ok (hlow D)]
  refine ⟨fun hnot => hsame fun hq => hnot ⟨m, hlookup, hq⟩, fun ⟨m', hm', hq⟩ => ?_⟩
  rw [hlookup, Option.some.injEq] at hm'
  subst hm'
  exact hdeep hq

/-- A run that fails at once, as the reader does when its fuel is spent. -/
theorem get_throw (e : Factory → MapError) {y : FactoryM α} :
    LimitAgrees S D P (get >>= fun f => MonadExcept.throw (e f)) y := by
  intro f a f' _ hrun
  simp only [run_factoryM] at hrun
  rw [Factory.run_bind_ok (Factory.run_get f)] at hrun
  cases hrun

end LimitAgrees

/-! ## Writes -/

namespace LimitAgrees

variable {S : Schema} {D : Nat} {σ α β : Type} {P Q : List (Ty × Mapper) → Prop}

theorem emit (g : σ → σ) : LimitAgrees S D (fun _ => False) (WriteM.emit g) (WriteM.emit g) :=
  fun _ _ _ _ hrun => by
    cases hrun
    exact ⟨Factory.Grows.refl _, fun _ _ => ⟨fun _ => rfl, False.elim⟩⟩

/-- A call of the format does not read the limit. -/
theorem call (c : FormatCall σ) : LimitAgrees S D (fun _ => False) (WriteM.call c) (WriteM.call c) := by
  rintro ⟨f, out⟩ a s' _ hrun
  simp only [run_writeM, WriteM.run_call, Prod.mk.injEq] at hrun
  obtain ⟨hok, rfl⟩ := hrun
  refine ⟨Factory.Grows.refl _, fun _ _ => ⟨fun _ => ?_, False.elim⟩⟩
  simp only [run_writeM, withLimit_write, WriteM.run_call, hok]

/-- A write reads its state: the run under `D` reads the same state under `D`. -/
theorem get_bind {k k' : Factory × σ → WriteM σ α}
    (hk : ∀ s : Factory × σ, s.1.schema = S →
      LimitAgrees S D P (k s) (k' (s.1.withLimit D, s.2))) :
    LimitAgrees S D P (get >>= k) (get >>= k') := by
  rintro ⟨f, out⟩ a s' hS hrun
  simp only [run_writeM, factory_write] at hrun hS
  rw [WriteM.run_bind_ok (WriteM.run_get f out)] at hrun
  obtain ⟨hg, hT⟩ := hk (f, out) hS (f, out) a s' hS hrun
  refine ⟨hg, fun T hc => ?_⟩
  simp only [run_writeM, withLimit_write] at hT ⊢
  rw [WriteM.run_bind_ok (WriteM.run_get _ out)]
  exact hT T hc

theorem factory_mapperFor_bind {d : Descriptor} {k k' : Mapper → WriteM σ α}
    {Q : Mapper → List (Ty × Mapper) → Prop} (hk : ∀ m, LimitAgrees S D (Q m) (k m) (k' m)) :
    LimitAgrees S D (fun T => ∃ m, T.lookup d.ops.ty = some m ∧ Q m T)
      (WriteM.factory (Factory.mapperFor d) >>= k) (WriteM.factory (Factory.mapperFor d) >>= k') := by
  rintro ⟨f, out⟩ a s₂ hS hrun
  obtain ⟨m, s₁, h₁, h₂⟩ := run_bind_eq_ok hrun
  rw [run_writeM, WriteM.run_factory] at h₁
  rcases hmap : Factory.run (Factory.mapperFor d) f with ⟨_ | m₁, f₁⟩
  · rw [hmap] at h₁
    cases h₁
  rw [hmap] at h₁
  cases h₁
  obtain ⟨hg₁, hkept, hlow⟩ := mapperFor_run hmap
  obtain ⟨hg, hT⟩ := hk m (f₁, out) a s₂ (hg₁.schema.trans hS) h₂
  refine ⟨hg₁.trans hg, fun T hc => ?_⟩
  obtain ⟨hsame, hdeep⟩ := hT T hc
  have hlookup : T.lookup d.ops.ty = some m := hkept T (hg.cache.trans hc)
  have hlowrun : run (WriteM.factory (σ := σ) (Factory.mapperFor d)) (withLimit (f, out) D) =
      (.ok m, withLimit (f₁, out) D) := by
    rw [run_writeM, withLimit_write, WriteM.run_factory, hlow D]
    rfl
  rw [run_bind_ok hlowrun]
  refine ⟨fun hnot => hsame fun hq => hnot ⟨m, hlookup, hq⟩, fun ⟨m', hm', hq⟩ => ?_⟩
  rw [hlookup, Option.some.injEq] at hm'
  subst hm'
  exact hdeep hq

end LimitAgrees

end ObjectMapping
