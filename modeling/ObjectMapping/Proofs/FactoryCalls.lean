import ObjectMapping.Proofs.FactoryFrame
import ObjectMapping.Proofs.MapperBuild

/-!
# What each call of a factory does

A factory is a state machine: its calls change the kept mappers, the adapter registry, the
strategy and its lock, and the registered types. This module says what each call does to it.

* `Factory.Triple R x Q`: from a factory satisfying `R`, the operation leaves one satisfying
  `R`, and every result satisfies `Q`. It is built up along an operation step by step.
* `Factory.build_run`: a build locks the strategy and changes nothing else a caller sees; its
  mapper is of the type asked for, under the factory's strategy, with every property's adapters
  resolved by the factory's registry (`Mapper.ResolvedBy`).
* `Factory.cachedOrBuild_hit`, `cachedOrBuild_miss_ok`, `cachedOrBuild_miss_error`: a lookup
  gives the kept mapper, or builds one and keeps it only when the build succeeds.
* `Factory.Quiet`: registering, the adapter registry and fresh identities leave the kept
  mappers, the lock and the strategy as they were.
-/

namespace ObjectMapping

/-- Every property of the mapper has the adapters that a registry resolves for its declared
type. -/
def Mapper.ResolvedBy (m : Mapper) (S : Schema) (r : Registry) : Prop :=
  ∀ p ∈ m.properties, r.resolve S p.info.ops = .ok p.chain

namespace Factory

variable {α β : Type}

/-! ## Operations with a kept precondition -/

/-- From every factory that satisfies `R` the operation leaves a factory that satisfies `R`, and
every result it succeeds with satisfies `Q`. -/
structure Triple (R : Factory → Prop) (x : FactoryM α) (Q : α → Prop) : Prop where
  keeps : ∀ f, R f → R (run x f).2
  yields : ∀ f, R f → ∀ a, (run x f).1 = .ok a → Q a

namespace Triple

variable {R : Factory → Prop} {Q : α → Prop}

theorem pure {a : α} (h : Q a) : Triple R (Pure.pure a : FactoryM α) Q :=
  ⟨fun _ hf => hf, fun _ _ b hb => by simp only [run_pure, Except.ok.injEq] at hb; exact hb ▸ h⟩

theorem throw (e : MapError) : Triple R (MonadExcept.throw e : FactoryM α) Q :=
  ⟨fun _ hf => hf, fun _ _ b hb => by simp at hb⟩

theorem weaken {x : FactoryM α} {Q' : α → Prop} (hx : Triple R x Q) (h : ∀ a, Q a → Q' a) :
    Triple R x Q' :=
  ⟨hx.keeps, fun f hf a ha => h a (hx.yields f hf a ha)⟩

theorem bind {x : FactoryM α} {k : α → FactoryM β} {Q' : β → Prop} (hx : Triple R x Q)
    (hk : ∀ a, Q a → Triple R (k a) Q') : Triple R (x >>= k) Q' := by
  constructor
  · intro f hf
    rcases hrun : run x f with ⟨_ | a, f'⟩
    · rw [run_bind_error hrun]
      simpa [hrun] using hx.keeps f hf
    · rw [run_bind_ok hrun]
      have hf' : R f' := by simpa [hrun] using hx.keeps f hf
      exact (hk a (hx.yields f hf a (by simp [hrun]))).keeps f' hf'
  · intro f hf b hb
    rcases hrun : run x f with ⟨_ | a, f'⟩
    · rw [run_bind_error hrun] at hb
      cases hb
    · rw [run_bind_ok hrun] at hb
      have hf' : R f' := by simpa [hrun] using hx.keeps f hf
      exact (hk a (hx.yields f hf a (by simp [hrun]))).yields f' hf' b hb

theorem throw_bind {e : MapError} {k : α → FactoryM β} {Q' : β → Prop} :
    Triple R (MonadExcept.throw e >>= k) Q' :=
  bind (Q := fun _ => False) (throw e) fun _ h => h.elim

/-- Reading the factory: the rest may depend on the factory read, which satisfies `R`. -/
theorem get_bind {k : Factory → FactoryM α} (hk : ∀ g, R g → Triple R (k g) Q) :
    Triple R (get >>= k) Q :=
  ⟨fun f hf => by rw [run_bind_ok (run_get f)]; exact (hk f hf).keeps f hf,
    fun f hf a ha => by rw [run_bind_ok (run_get f)] at ha; exact (hk f hf).yields f hf a ha⟩

theorem modify {g : Factory → Factory} (hg : ∀ f, R f → R (g f)) :
    Triple R (modify g : FactoryM PUnit) fun _ => True :=
  ⟨fun f hf => by rw [run_modify]; exact hg f hf, fun _ _ _ _ => True.intro⟩

theorem lift (r : Except MapError α) (h : ∀ a, r = .ok a → Q a) : Triple R (Mapper.lift r) Q :=
  ⟨fun _ hf => by simpa using hf, fun _ _ a ha => h a (by simpa using ha)⟩

theorem map {x : FactoryM α} {g : α → β} {Q' : β → Prop} (hx : Triple R x Q)
    (h : ∀ a, Q a → Q' (g a)) : Triple R (g <$> x) Q' := by
  constructor
  · intro f hf
    rw [run_map]
    rcases hrun : run x f with ⟨_ | a, f'⟩ <;> simpa [hrun] using hx.keeps f hf
  · intro f hf b hb
    rw [run_map] at hb
    rcases hrun : run x f with ⟨_ | a, f'⟩
    · rw [hrun] at hb
      cases hb
    · rw [hrun] at hb
      cases hb
      exact h a (hx.yields f hf a (by simp [hrun]))

/-- A fold whose every step keeps `I` of the value it carries. -/
theorem foldlM {γ : Type} {step : β → γ → FactoryM β} {I : β → Prop}
    (hstep : ∀ b c, I b → Triple R (step b c) I) :
    ∀ (xs : List γ) (init : β), I init → Triple R (xs.foldlM step init) I
  | [], _, h => pure h
  | c :: cs, init, h => by
    rw [List.foldlM_cons]
    exact bind (hstep init c h) fun b hb => foldlM hstep cs b hb

/-- A loop whose every turn keeps `R`. -/
theorem forIn {γ : Type} {body : γ → β → FactoryM (ForInStep β)}
    (hbody : ∀ c b, Triple R (body c b) fun _ => True) :
    ∀ (xs : List γ) (init : β), Triple R (ForIn.forIn xs init body) fun _ => True
  | [], _ => pure True.intro
  | c :: cs, init => by
    rw [List.forIn_cons]
    refine bind (hbody c init) fun step _ => ?_
    cases step with
    | done b => exact pure True.intro
    | yield b => exact forIn hbody cs b

end Triple

/-! ## What a build changes -/

/-- The factory `f` as a build leaves it: locked, with more in the log and more builds counted,
and nothing else changed. -/
def Locked (f g : Factory) : Prop :=
  ∃ log builds, g = { f with locked := true, log := log, builds := builds }

theorem Locked.self (f : Factory) : Locked f { f with locked := true } := ⟨f.log, f.builds, rfl⟩

theorem Locked.note {f g : Factory} (hg : Locked f g) (level message : String) :
    Locked f { g with log := g.log.push (level ++ " " ++ message) } := by
  obtain ⟨log, builds, rfl⟩ := hg
  exact ⟨_, builds, rfl⟩

theorem Locked.count {f g : Factory} (hg : Locked f g) :
    Locked f { g with builds := g.builds + 1 } := by
  obtain ⟨log, builds, rfl⟩ := hg
  exact ⟨log, _, rfl⟩

@[simp] theorem Locked.adapters {f g : Factory} (hg : Locked f g) : g.adapters = f.adapters := by
  obtain ⟨_, _, rfl⟩ := hg
  rfl

@[simp] theorem Locked.schema {f g : Factory} (hg : Locked f g) : g.schema = f.schema := by
  obtain ⟨_, _, rfl⟩ := hg
  rfl

@[simp] theorem Locked.cache {f g : Factory} (hg : Locked f g) : g.cache = f.cache := by
  obtain ⟨_, _, rfl⟩ := hg
  rfl

@[simp] theorem Locked.strategy {f g : Factory} (hg : Locked f g) : g.strategy = f.strategy := by
  obtain ⟨_, _, rfl⟩ := hg
  rfl

@[simp] theorem Locked.locked {f g : Factory} (hg : Locked f g) : g.locked = true := by
  obtain ⟨_, _, rfl⟩ := hg
  rfl

theorem note_triple {f : Factory} (level message : String) :
    Triple (Locked f) (note level message) fun _ => True :=
  Triple.modify fun _ hg => hg.note level message

/-- The chain a property's adapters are resolved to, read from the factory the build started
from. -/
theorem resolveChain_triple {f : Factory} (declared : TypeOps) :
    Triple (Locked f) (resolveChain declared)
      fun c => f.adapters.resolve f.schema declared = .ok c := by
  unfold resolveChain
  refine Triple.get_bind fun g hg => ?_
  split
  · exact Triple.throw _
  · rename_i c hc
    rw [hg.adapters, hg.schema] at hc
    split
    · exact Triple.bind (note_triple _ _) fun _ _ => Triple.pure hc
    · exact Triple.pure hc

/-- The mapped property of a property keeps its information and the chain the factory's
registry resolves for it. -/
theorem compileProperty_triple {f : Factory} (strategy : Strategy) (owner : Descriptor)
    (done : List MappedProperty) (p : PropertyInfo) :
    Triple (Locked f) (compileProperty strategy owner done p)
      fun mp => mp.info = p ∧ f.adapters.resolve f.schema p.ops = .ok mp.chain := by
  unfold compileProperty
  refine Triple.get_bind fun g _ => ?_
  dsimp only
  split
  · exact Triple.throw_bind
  · refine Triple.bind (resolveChain_triple _) fun chain hchain => ?_
    -- after the chain is resolved, every check either throws or gives the property
    repeat' split
    all_goals first
      | exact Triple.throw_bind
      | exact Triple.throw _
      | exact Triple.pure ⟨rfl, hchain⟩


/-- A build locks the strategy and otherwise changes only the log and the count of builds: the
kept mappers, the registry, the strategy and the registered types stay. Its mapper is of the
type and descriptor asked for, under the factory's strategy, with the adapters the factory's
registry resolves. -/
theorem build_run (ops : TypeOps) (descriptor : Option Descriptor) (f : Factory) :
    Locked f (run (build ops descriptor) f).2 ∧
      ∀ m, (run (build ops descriptor) f).1 = .ok m →
        m.ops = ops ∧ m.descriptor = descriptor ∧ m.strategy = f.strategy ∧
          m.ResolvedBy f.schema f.adapters := by
  have hlock : run lockStrategy f = (.ok f.strategy, { f with locked := true }) := rfl
  have key : ∀ x : FactoryM Mapper, Triple (Locked f) x (fun m => m.ops = ops ∧
      m.descriptor = descriptor ∧ m.strategy = f.strategy ∧ m.ResolvedBy f.schema f.adapters) →
      Locked f (run x { f with locked := true }).2 ∧ ∀ m, (run x { f with locked := true }).1 =
        .ok m → m.ops = ops ∧ m.descriptor = descriptor ∧ m.strategy = f.strategy ∧
          m.ResolvedBy f.schema f.adapters :=
    fun x h => ⟨h.keeps _ (Locked.self f), h.yields _ (Locked.self f)⟩
  unfold build
  rw [run_bind_ok hlock]
  apply key
  extract_lets jp
  -- the rest of the build, after the properties: a note, the count of builds and the mapper
  have hjp : ∀ props : List MappedProperty,
      (∀ mp ∈ props, f.adapters.resolve f.schema mp.info.ops = .ok mp.chain) →
      Triple (Locked f) (jp props) fun m => m.ops = ops ∧ m.descriptor = descriptor ∧
        m.strategy = f.strategy ∧ m.ResolvedBy f.schema f.adapters := by
    intro props hprops
    refine Triple.bind (note_triple _ _) fun _ _ => Triple.get_bind fun g hg => ?_
    refine Triple.bind (Q := fun _ => True)
      ⟨fun _ _ => by rw [run_set]; exact hg.count, fun _ _ _ _ => True.intro⟩
      fun _ _ => Triple.pure ⟨rfl, rfl, rfl, hprops⟩
  split
  · refine Triple.bind (Q := fun props : List MappedProperty =>
        ∀ mp ∈ props, f.adapters.resolve f.schema mp.info.ops = .ok mp.chain) ?_ hjp
    refine Triple.foldlM (fun done p hdone => ?_) _ [] (by simp)
    refine Triple.bind (compileProperty_triple _ _ done p) fun mp hmp => Triple.pure ?_
    intro q hq
    rcases List.mem_append.mp hq with hq | hq
    · exact hdone q hq
    · obtain rfl := List.mem_singleton.mp hq
      exact hmp.1 ▸ hmp.2
  · split
    · exact Triple.throw_bind
    · exact Triple.bind (Triple.pure (by simp)) hjp


/-! ## Looking up a mapper -/

/-- A kept mapper is given back, and nothing changes. -/
theorem cachedOrBuild_hit {ops : TypeOps} {f : Factory} {m : Mapper}
    (h : f.cache.lookup ops.ty = some m) (descriptor : Option Descriptor) :
    run (cachedOrBuild ops descriptor) f = (.ok m, f) := by
  unfold cachedOrBuild
  rw [run_bind_ok (run_get f), h]
  rfl

/-- Without a kept mapper, a successful build is kept after the others. -/
theorem cachedOrBuild_miss_ok {ops : TypeOps} {descriptor : Option Descriptor} {f g : Factory}
    {m : Mapper} (h : f.cache.lookup ops.ty = none) (hb : run (build ops descriptor) f = (.ok m, g)) :
    run (cachedOrBuild ops descriptor) f = (.ok m, { g with cache := g.cache ++ [(ops.ty, m)] }) := by
  unfold cachedOrBuild
  rw [run_bind_ok (run_get f), h]
  dsimp only
  rw [run_bind_ok hb, run_bind_ok (run_modify _ g)]
  rfl

/-- Without a kept mapper, a failed build fails the lookup and keeps nothing. -/
theorem cachedOrBuild_miss_error {ops : TypeOps} {descriptor : Option Descriptor} {f g : Factory}
    {e : MapError} (h : f.cache.lookup ops.ty = none)
    (hb : run (build ops descriptor) f = (.error e, g)) :
    run (cachedOrBuild ops descriptor) f = (.error e, g) := by
  unfold cachedOrBuild
  rw [run_bind_ok (run_get f), h]
  dsimp only
  rw [run_bind_error hb]

/-! ## Calls that leave the mappers alone -/

/-- The factory `f` with its kept mappers, its lock and its strategy as they were: the registered
types, the adapter registry, fresh identities and the log may have changed. -/
def Quiet (f g : Factory) : Prop :=
  g.cache = f.cache ∧ g.locked = f.locked ∧ g.strategy = f.strategy

theorem Quiet.refl (f : Factory) : Quiet f f := ⟨rfl, rfl, rfl⟩

theorem note_quiet {f : Factory} (level message : String) :
    Triple (Quiet f) (note level message) fun _ => True :=
  Triple.modify fun _ hg => hg

theorem remember_quiet {f : Factory} (t : Ty) (name : String) :
    Triple (Quiet f) (remember t name) fun _ => True := by
  unfold remember
  refine Triple.get_bind fun g _ => ?_
  extract_lets jp
  -- the registration itself: only the registered types and names change
  have hjp : ∀ u, Triple (Quiet f) (jp u) fun _ => True := fun _ =>
    Triple.get_bind fun g hg => ⟨fun _ _ => by rw [run_set]; exact hg, fun _ _ _ _ => True.intro⟩
  repeat' split
  all_goals first
    | exact Triple.bind (note_quiet _ _) fun u _ => hjp u
    | exact hjp ()

theorem register_quiet {f : Factory} (t : Ty) : Triple (Quiet f) (register t) fun _ => True :=
  remember_quiet t _

theorem registerAs_quiet {f : Factory} (t : Ty) (otherName : String) :
    Triple (Quiet f) (registerAs t otherName) fun _ => True :=
  Triple.bind (remember_quiet t _) fun _ _ => remember_quiet t otherName

theorem autoRegister_quiet {f : Factory} : Triple (Quiet f) autoRegister fun _ => True := by
  unfold autoRegister schemaM
  refine Triple.bind (Q := fun _ => True) (Triple.get_bind fun _ _ => Triple.pure True.intro)
    fun _ _ => ?_
  refine Triple.bind (Triple.forIn (fun _ _ => Triple.bind (register_quiet _) fun _ _ =>
    Triple.pure True.intro) _ _) fun _ _ => ?_
  exact Triple.bind (note_quiet _ _) fun _ _ => Triple.pure True.intro

theorem freshIdentity_quiet {f : Factory} : Triple (Quiet f) freshIdentity fun _ => True :=
  Triple.get_bind fun _ hg =>
    Triple.bind ⟨fun _ _ => by rw [run_set]; exact hg, fun _ _ _ _ => True.intro⟩ fun _ _ =>
      Triple.pure True.intro

theorem warnIfWarm_quiet {f : Factory} (action : String) :
    Triple (Quiet f) (warnIfWarm action) fun _ => True := by
  unfold warnIfWarm
  refine Triple.get_bind fun _ _ => ?_
  dsimp only
  split
  · exact note_quiet _ _
  · exact Triple.pure True.intro

theorem addAdapter_quiet {f : Factory} (a : Adapter) :
    Triple (Quiet f) (addAdapter a) fun _ => True :=
  Triple.bind (warnIfWarm_quiet _) fun _ _ => Triple.modify fun _ hg => hg

theorem removeAdapter_quiet {f : Factory} (name : String) :
    Triple (Quiet f) (removeAdapter name) fun _ => True := by
  unfold removeAdapter
  refine Triple.get_bind fun _ _ => ?_
  refine Triple.bind (Triple.modify fun _ hg => hg) fun _ _ => ?_
  split
  · exact Triple.bind (warnIfWarm_quiet _) fun _ _ => Triple.pure True.intro
  · exact Triple.pure True.intro


/-! ## The calls, one by one -/

theorem createOrGet_run (t : Ty) (f : Factory) :
    run (createOrGet t) f = run (cachedOrBuild (f.schema.typeOps t) (descriptorOf f.schema t)) f :=
  run_bind_ok (rfl : run schemaM f = (.ok f.schema, f)) _

theorem create_run (t : Ty) (f : Factory) :
    run (create t) f = run (build (f.schema.typeOps t) (descriptorOf f.schema t)) f :=
  run_bind_ok (rfl : run schemaM f = (.ok f.schema, f)) _

theorem byId_unregistered {t : Ty} {f : Factory} (h : f.isRegistered t = false) :
    run (byId t) f = (.error (.config (.missingMapper "TypeId(_)")), f) := by
  unfold byId
  rw [run_bind_ok (run_get f)]
  simp [h]

theorem byId_undescribed {t : Ty} {f : Factory} (h : f.isRegistered t = true)
    (hd : f.schema.descriptor? t = none) :
    run (byId t) f = (.error (.config (.missingMapper "TypeId(_)")), f) := by
  unfold byId
  rw [run_bind_ok (run_get f)]
  simp only [h, Bool.not_true, Bool.false_eq_true, if_false]
  rw [run_bind_ok (rfl : run schemaM f = (.ok f.schema, f)), hd]
  rfl

theorem byId_described {t : Ty} {f : Factory} {d : Descriptor} (h : f.isRegistered t = true)
    (hd : f.schema.descriptor? t = some d) : run (byId t) f = run (mapperFor d) f := by
  unfold byId
  rw [run_bind_ok (run_get f)]
  simp only [h, Bool.not_true, Bool.false_eq_true, if_false]
  rw [run_bind_ok (rfl : run schemaM f = (.ok f.schema, f)), hd]

theorem byName_unknown {name : String} {f : Factory} (h : f.names.lookup name = none) :
    run (byName name) f = (.error (.config (.missingMapper name)), f) := by
  unfold byName
  rw [run_bind_ok (run_get f)]
  simp [h]

theorem byName_known {name : String} {f : Factory} {t : Ty} (h : f.names.lookup name = some t) :
    run (byName name) f = run (byId t) f := by
  unfold byName
  rw [run_bind_ok (run_get f)]
  simp [h]

theorem setStrategy_run (s : Strategy) (f : Factory) :
    run (setStrategy s) f =
      if f.locked then (.error (.config .strategyLocked), f) else (.ok ⟨⟩, { f with strategy := s }) := by
  unfold setStrategy
  rw [run_bind_ok (run_get f)]
  by_cases hl : f.locked = true
  · rw [if_pos hl, if_pos hl]
    rfl
  · rw [if_neg hl, if_neg hl]
    rfl

end Factory

end ObjectMapping
