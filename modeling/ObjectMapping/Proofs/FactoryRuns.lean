import ObjectMapping.Proofs.FactoryCalls

/-!
# A factory over a run of calls

A caller makes the calls of `FactoryCall` on a factory, and a write or a read makes two of them
on its own: it looks up the mapper of each nested record and gives each instance it builds a
fresh identity. This module follows the factory over every run of such calls.

* `Factory.Coherent`: the kept mappers form a map from types to mappers of that type, all under
  the factory's strategy, and there are none while the strategy is unlocked.
* `Factory.Moves`: what one call may do. It keeps at most one new mapper, for the type it looked
  up and only when it succeeds; it locks the strategy exactly when it starts a build; it changes
  the strategy only while that is unlocked. `FactoryCall.moves` proves it of every call.
* `FactoryCall.runAll_spec`: over a whole run from a fresh factory, every lookup of a type gives
  the one mapper kept for it, failures and uncached builds keep nothing, and the strategy is
  locked exactly from the first build on.
-/

namespace ObjectMapping

/-- The descriptor of a record type is of that type. -/
theorem Schema.descriptor?_ty {S : Schema} {t : Ty} {d : Descriptor}
    (h : S.descriptor? t = some d) : d.ty = t := by
  unfold Schema.descriptor? at h
  obtain ⟨⟨r, args⟩, -, hd⟩ := Option.bind_eq_some_iff.mp h
  simp only [Option.pure_def, Option.some.injEq] at hd
  subst hd
  rfl

theorem not_mem_keys_of_lookup_eq_none {c : List (Ty × Mapper)} {k : Ty}
    (h : c.lookup k = none) : k ∉ c.map Prod.fst := by
  intro hk
  obtain ⟨p, hp, rfl⟩ := List.mem_map.mp hk
  simpa using List.lookup_eq_none_iff.mp h p hp

theorem mem_of_lookup_eq_some {c : List (Ty × Mapper)} {k : Ty} {m : Mapper}
    (h : c.lookup k = some m) : (k, m) ∈ c := by
  obtain ⟨l₁, l₂, rfl, -⟩ := List.lookup_eq_some_iff.mp h
  simp

namespace Factory

variable {α : Type}

theorem run_map_fst {β : Type} (g : α → β) (x : FactoryM α) (f : Factory) :
    run (g <$> x) f = ((run x f).1.map g, (run x f).2) := by
  rw [run_map]
  rcases run x f with ⟨_ | _, _⟩ <;> rfl

/-! ## Coherent factories -/

/-- The kept mappers of a factory form a map from types to mappers of that type, all built
under the factory's strategy, and there are none while the strategy is unlocked. -/
structure Coherent (f : Factory) : Prop where
  keyed : ∀ k m, (k, m) ∈ f.cache → m.ops.ty = k
  distinct : (f.cache.map Prod.fst).Nodup
  strategy : ∀ k m, (k, m) ∈ f.cache → m.strategy = f.strategy
  unlocked : f.locked = false → f.cache = []

namespace Coherent

theorem fresh {f : Factory} (hcache : f.cache = []) : f.Coherent :=
  ⟨by simp [hcache], by simp [hcache], by simp [hcache], fun _ => hcache⟩

theorem quiet {f g : Factory} (hf : f.Coherent) (hg : Quiet f g) : g.Coherent := by
  obtain ⟨hc, hl, hs⟩ := hg
  refine ⟨?_, ?_, ?_, ?_⟩
  · rw [hc]
    exact hf.keyed
  · rw [hc]
    exact hf.distinct
  · rw [hc, hs]
    exact hf.strategy
  · rw [hc, hl]
    exact hf.unlocked

/-- A build leaves a coherent factory coherent: it keeps nothing and only locks the strategy. -/
theorem locked {f g : Factory} (hf : f.Coherent) (hg : Locked f g) : g.Coherent := by
  refine ⟨?_, ?_, ?_, fun h => ?_⟩
  · rw [hg.cache]
    exact hf.keyed
  · rw [hg.cache]
    exact hf.distinct
  · rw [hg.cache, hg.strategy]
    exact hf.strategy
  · simp [hg.locked] at h

/-- Keeping, once the strategy is locked, a mapper built under it for a type that has none. -/
theorem keep {g : Factory} (hg : g.Coherent) {m : Mapper} (hnone : g.cache.lookup m.ops.ty = none)
    (hs : m.strategy = g.strategy) (hl : g.locked = true) :
    { g with cache := g.cache ++ [(m.ops.ty, m)] }.Coherent := by
  refine ⟨fun k m' h => ?_, ?_, fun k m' h => ?_, fun h => ?_⟩
  · rcases List.mem_append.mp h with h | h
    · exact hg.keyed k m' h
    · obtain ⟨rfl, rfl⟩ := Prod.mk.inj (List.mem_singleton.mp h)
      rfl
  · rw [List.map_append, List.nodup_append]
    refine ⟨hg.distinct, by simp, fun a ha b hb hab => ?_⟩
    rw [List.map_singleton, List.mem_singleton] at hb
    rw [hab, hb] at ha
    exact not_mem_keys_of_lookup_eq_none hnone ha
  · rcases List.mem_append.mp h with h | h
    · exact hg.strategy k m' h
    · obtain ⟨rfl, rfl⟩ := Prod.mk.inj (List.mem_singleton.mp h)
      exact hs
  · simp [hl] at h

theorem lookup_strategy {f : Factory} (hf : f.Coherent) {k : Ty} {m : Mapper}
    (h : f.cache.lookup k = some m) : m.strategy = f.strategy :=
  hf.strategy k m (mem_of_lookup_eq_some h)

end Coherent

/-! ## What one call may do -/

/-- What a call that looks up the kept mapper of `key` (if any), and starts a build exactly when
`starts` holds, may do to the factory `f`, leaving `g` with the result `r`. -/
structure Moves (key : Option Ty) (starts : Bool) (f : Factory)
    (r : Except MapError (Option Mapper)) (g : Factory) : Prop where
  coherent : f.Coherent → g.Coherent
  /-- The kept mappers stay; at most one is added, for the type looked up, which had none, and it
  is the result. -/
  cache : g.cache = f.cache ∨
    ∃ k m, key = some k ∧ r = .ok (some m) ∧ f.cache.lookup k = none ∧ g.cache = f.cache ++ [(k, m)]
  /-- A lookup that succeeds gives the mapper kept for its type. -/
  kept : ∀ k m, key = some k → r = .ok (some m) → g.cache.lookup k = some m
  locked : g.locked = (f.locked || starts)
  strategy : f.locked = true → g.strategy = f.strategy
  /-- A mapper given reports the factory's strategy. -/
  reports : f.Coherent → ∀ m, r = .ok (some m) → m.strategy = f.strategy
  /-- A mapper given was kept already, or has the adapters the factory's registry resolves. -/
  resolved : ∀ m, r = .ok (some m) → (∃ k, (k, m) ∈ f.cache) ∨ m.ResolvedBy f.schema f.adapters

namespace Moves

variable {key : Option Ty} {starts : Bool} {f g : Factory} {r : Except MapError (Option Mapper)}

theorem grows (h : Moves key starts f r g) : f.cache <+: g.cache := by
  rcases h.cache with hc | ⟨k, m, -, -, -, hc⟩
  · exact hc ▸ List.prefix_refl f.cache
  · exact hc ▸ List.prefix_append f.cache [(k, m)]

theorem failed (h : Moves key starts f r g) {e : MapError} (he : r = .error e) :
    g.cache = f.cache := by
  rcases h.cache with hc | ⟨k, m, -, hr, -, -⟩
  · exact hc
  · rw [he] at hr
    cases hr

theorem unkept (h : Moves key starts f r g) (hkey : key = none) : g.cache = f.cache := by
  rcases h.cache with hc | ⟨k, m, hk, -, -, -⟩
  · exact hc
  · rw [hkey] at hk
    cases hk

/-- A call that fails before it builds anything changes nothing. -/
theorem unchanged (key : Option Ty) (e : MapError) (f : Factory) : Moves key false f (.error e) f :=
  ⟨id, .inl rfl, fun _ _ _ h => (nomatch h), by simp, fun _ => rfl, fun _ _ h => (nomatch h),
    fun _ h => (nomatch h)⟩

/-- A call that changes neither the kept mappers, nor the lock, nor the strategy, and gives no
mapper. -/
theorem quiet (hg : Quiet f g) (hr : ∀ m, r ≠ .ok (some m)) : Moves none false f r g :=
  ⟨fun hf => hf.quiet hg, .inl hg.1, fun _ _ h => (nomatch h), by simp [hg.2.1],
    fun _ => hg.2.2, fun _ m h => absurd h (hr m), fun m h => absurd h (hr m)⟩

/-- A lookup that finds a kept mapper gives it and changes nothing. -/
theorem hit {k : Ty} {m : Mapper} (hfound : f.cache.lookup k = some m) :
    Moves (some k) false f (.ok (some m)) f := by
  refine ⟨id, .inl rfl, fun k' m' hk hr => ?_, by simp, fun _ => rfl, fun hf m' hr => ?_,
    fun m' hr => ?_⟩
  · cases hk
    cases hr
    exact hfound
  · cases hr
    exact hf.lookup_strategy hfound
  · cases hr
    exact .inl ⟨k, mem_of_lookup_eq_some hfound⟩

/-- A build that fails locks the strategy and keeps nothing. -/
theorem buildFailed (hg : Locked f g) (key : Option Ty) (e : MapError) :
    Moves key true f (.error e) g :=
  ⟨fun hf => hf.locked hg, .inl hg.cache, fun _ _ _ h => (nomatch h), by simp [hg.locked],
    fun _ => hg.strategy, fun _ _ h => (nomatch h), fun _ h => (nomatch h)⟩

/-- A build that succeeds gives a mapper under the factory's strategy, with the adapters its
registry resolves. -/
theorem built {m : Mapper} (hg : Locked f g) (hs : m.strategy = f.strategy)
    (hres : m.ResolvedBy f.schema f.adapters) : Moves none true f (.ok (some m)) g :=
  ⟨fun hf => hf.locked hg, .inl hg.cache, fun _ _ h => (nomatch h), by simp [hg.locked],
    fun _ => hg.strategy, fun _ m' hr => by cases hr; exact hs, fun m' hr => by cases hr; exact .inr hres⟩

/-- A lookup that finds no kept mapper and builds one keeps it under the looked-up type. -/
theorem buildKept {ops : TypeOps} {m : Mapper} (hnone : f.cache.lookup ops.ty = none)
    (hg : Locked f g) (hops : m.ops = ops) (hs : m.strategy = f.strategy)
    (hres : m.ResolvedBy f.schema f.adapters) :
    Moves (some ops.ty) true f (.ok (some m)) { g with cache := g.cache ++ [(ops.ty, m)] } := by
  have hlookup : (f.cache ++ [(ops.ty, m)]).lookup ops.ty = some m := by
    rw [List.lookup_append, hnone]
    simp
  refine ⟨fun hf => ?_, .inr ⟨ops.ty, m, rfl, rfl, hnone, by rw [hg.cache]⟩, fun k m' hk hr => ?_,
    by simp [hg.locked], fun _ => hg.strategy, fun _ m' hr => ?_, fun m' hr => ?_⟩
  · have hkeep := (hf.locked hg).keep (m := m) (by rw [hg.cache, hops]; exact hnone)
      (by rw [hg.strategy]; exact hs) hg.locked
    rw [hops] at hkeep
    exact hkeep
  · cases hk
    cases hr
    rw [hg.cache]
    exact hlookup
  · cases hr
    exact hs
  · cases hr
    exact .inr hres

end Moves

/-- A lookup of the kept mapper of a type: it finds it, or builds one and keeps it when the build
succeeds. -/
theorem cachedOrBuild_moves (ops : TypeOps) (descriptor : Option Descriptor) (f : Factory) :
    Moves (some ops.ty) (f.cache.lookup ops.ty).isNone f
      ((run (cachedOrBuild ops descriptor) f).1.map some) (run (cachedOrBuild ops descriptor) f).2 := by
  cases hfound : f.cache.lookup ops.ty with
  | some m =>
    rw [cachedOrBuild_hit hfound]
    exact Moves.hit hfound
  | none =>
    obtain ⟨hlock, hbuilt⟩ := build_run ops descriptor f
    rcases hb : run (build ops descriptor) f with ⟨e | m, g⟩
    · rw [hb] at hlock
      rw [cachedOrBuild_miss_error hfound hb]
      exact Moves.buildFailed hlock _ e
    · rw [hb] at hlock hbuilt
      obtain ⟨hops, -, hs, hres⟩ := hbuilt m rfl
      rw [cachedOrBuild_miss_ok hfound hb]
      exact Moves.buildKept hfound hlock hops hs hres

/-- A build that is not kept. -/
theorem build_moves (ops : TypeOps) (descriptor : Option Descriptor) (f : Factory) :
    Moves none true f ((run (build ops descriptor) f).1.map some) (run (build ops descriptor) f).2 := by
  obtain ⟨hlock, hbuilt⟩ := build_run ops descriptor f
  rcases hb : run (build ops descriptor) f with ⟨e | m, g⟩
  · rw [hb] at hlock
    exact Moves.buildFailed hlock _ e
  · rw [hb] at hlock hbuilt
    obtain ⟨-, -, hs, hres⟩ := hbuilt m rfl
    exact Moves.built hlock hs hres

/-- A call that keeps the kept mappers, the lock and the strategy, and gives no mapper. -/
theorem quiet_moves {x : FactoryM α} (hx : ∀ f, Triple (Quiet f) x fun _ => True) (f : Factory) :
    Moves none false f ((run x f).1.map fun _ => none) (run x f).2 := by
  refine Moves.quiet ((hx f).keeps f (Quiet.refl f)) fun m h => ?_
  rcases hrun : (run x f).1 with e | a <;> rw [hrun] at h <;> cases h

/-- The type a lookup by identity resolves to: a registered type with a descriptor. -/
def idKey (f : Factory) (t : Ty) : Option Ty :=
  if f.isRegistered t && (f.schema.descriptor? t).isSome then some t else none

theorem byId_moves (t : Ty) (f : Factory) :
    Moves (f.idKey t) ((f.idKey t).any fun k => (f.cache.lookup k).isNone) f
      ((run (byId t) f).1.map some) (run (byId t) f).2 := by
  cases hreg : f.isRegistered t
  · rw [byId_unregistered hreg]
    simp only [idKey, hreg, Bool.false_and, Bool.false_eq_true, if_false]
    exact Moves.unchanged none _ f
  · cases hd : f.schema.descriptor? t with
    | none =>
      rw [byId_undescribed hreg hd]
      simp only [idKey, hreg, hd, Option.isSome_none, Bool.and_false, Bool.false_eq_true, if_false]
      exact Moves.unchanged none _ f
    | some d =>
      rw [byId_described hreg hd]
      have hkey : f.idKey t = some d.ops.ty := by
        simp only [idKey, hreg, hd, Option.isSome_some, Bool.and_self, if_true]
        exact congrArg some (Schema.descriptor?_ty hd).symm
      rw [hkey]
      exact cachedOrBuild_moves d.ops (some d) f

theorem setStrategy_moves (s : Strategy) (f : Factory) :
    Moves none false f ((run (setStrategy s) f).1.map fun _ => none) (run (setStrategy s) f).2 := by
  rw [setStrategy_run]
  by_cases hl : f.locked = true
  · rw [if_pos hl]
    exact Moves.unchanged none _ f
  · rw [if_neg hl]
    -- an unlocked factory keeps no mapper, so the new strategy holds of all of them
    have hl' : f.locked = false := by simpa using hl
    exact ⟨fun hf => Coherent.fresh (hf.unlocked hl'), .inl rfl, fun _ _ h => (nomatch h),
      by simp, fun h => absurd h hl, fun _ _ h => (nomatch h), fun _ h => (nomatch h)⟩

end Factory

/-- A call on a factory: one a caller makes, or one that a write or a read makes on its own
(`nested`, the mapper of a nested record, and `fresh`, the identity of an instance it builds). -/
inductive FactoryCall where
  | createOrGet (t : Ty)
  | create (t : Ty)
  | byId (t : Ty)
  | byName (name : String)
  | register (t : Ty)
  | registerAs (t : Ty) (otherName : String)
  | autoRegister
  | setStrategy (s : Strategy)
  | addAdapter (a : Adapter)
  | removeAdapter (name : String)
  | nested (d : Descriptor)
  | fresh

namespace FactoryCall

open Factory

/-- The operation of a call, with the mapper it gives, if any. -/
def op : FactoryCall → FactoryM (Option Mapper)
  | .createOrGet t => some <$> Factory.createOrGet t
  | .create t => some <$> Factory.create t
  | .byId t => some <$> Factory.byId t
  | .byName name => some <$> Factory.byName name
  | .register t => (fun _ => none) <$> Factory.register t
  | .registerAs t otherName => (fun _ => none) <$> Factory.registerAs t otherName
  | .autoRegister => (fun _ => none) <$> Factory.autoRegister
  | .setStrategy s => (fun _ => none) <$> Factory.setStrategy s
  | .addAdapter a => (fun _ => none) <$> Factory.addAdapter a
  | .removeAdapter name => (fun _ => none) <$> Factory.removeAdapter name
  | .nested d => some <$> mapperFor d
  | .fresh => (fun _ => none) <$> freshIdentity

/-- The type whose kept mapper a call looks up, when it gets that far. -/
def lookupKey : FactoryCall → Factory → Option Ty
  | .createOrGet t, _ => some t
  | .byId t, f => f.idKey t
  | .byName name, f => (f.names.lookup name).bind f.idKey
  | .nested d, _ => some d.ty
  | _, _ => none

/-- A call starts a build when it asks for a mapper that is not kept: always for `create`, and
for a lookup whose type has no kept mapper. -/
def startsBuild : FactoryCall → Factory → Bool
  | .create _, _ => true
  | c, f => (c.lookupKey f).any fun k => (f.cache.lookup k).isNone

/-- What one call does to a factory. -/
theorem moves (c : FactoryCall) (f : Factory) :
    Moves (c.lookupKey f) (c.startsBuild f) f (run c.op f).1 (run c.op f).2 := by
  cases c with
  | createOrGet t =>
    rw [op, run_map_fst, createOrGet_run]
    exact cachedOrBuild_moves (f.schema.typeOps t) (descriptorOf f.schema t) f
  | create t =>
    rw [op, run_map_fst, create_run]
    exact build_moves (f.schema.typeOps t) (descriptorOf f.schema t) f
  | byId t =>
    rw [op, run_map_fst]
    exact byId_moves t f
  | byName name =>
    rw [op, run_map_fst]
    cases hn : f.names.lookup name with
    | none =>
      rw [byName_unknown hn]
      simp only [startsBuild, lookupKey, hn, Option.bind_none, Option.any_none]
      exact Moves.unchanged none _ f
    | some t =>
      rw [byName_known hn]
      simp only [startsBuild, lookupKey, hn, Option.bind_some]
      exact byId_moves t f
  | register t =>
    rw [op, run_map_fst]
    exact quiet_moves (fun _ => register_quiet t) f
  | registerAs t otherName =>
    rw [op, run_map_fst]
    exact quiet_moves (fun _ => registerAs_quiet t otherName) f
  | autoRegister =>
    rw [op, run_map_fst]
    exact quiet_moves (fun _ => autoRegister_quiet) f
  | setStrategy s =>
    rw [op, run_map_fst]
    exact setStrategy_moves s f
  | addAdapter a =>
    rw [op, run_map_fst]
    exact quiet_moves (fun _ => addAdapter_quiet a) f
  | removeAdapter name =>
    rw [op, run_map_fst]
    exact quiet_moves (fun _ => removeAdapter_quiet name) f
  | nested d =>
    rw [op, run_map_fst]
    exact cachedOrBuild_moves d.ops (some d) f
  | fresh =>
    rw [op, run_map_fst]
    exact quiet_moves (fun _ => freshIdentity_quiet) f

/-- Setting the strategy is refused exactly when it is locked. -/
theorem setStrategy_refused (s : Strategy) (f : Factory) :
    (run (setStrategy s).op f).1 = .error (.config .strategyLocked) ↔ f.locked = true := by
  rw [op, run_map_fst, setStrategy_run]
  by_cases hl : f.locked = true
  · rw [if_pos hl]
    exact iff_of_true rfl hl
  · rw [if_neg hl]
    exact iff_of_false (fun h => by cases h) hl

/-! ## Runs of calls -/

/-- One call of a run: the call, the factory it ran on, what it gave and the factory it left. -/
structure Turn where
  call : FactoryCall
  before : Factory
  result : Except MapError (Option Mapper)
  after : Factory

/-- The turns of a run of calls from a factory; each call is made whatever the one before gave. -/
def turns : List FactoryCall → Factory → List Turn
  | [], _ => []
  | c :: cs, f => ⟨c, f, (run c.op f).1, (run c.op f).2⟩ :: turns cs (run c.op f).2

/-- The factory a run of calls leaves. -/
def runAll : List FactoryCall → Factory → Factory
  | [], f => f
  | c :: cs, f => runAll cs (run c.op f).2

variable {cs : List FactoryCall} {f : Factory} {t : Turn}

/-- Every turn of a run is its call made on the factory it started from. -/
theorem moves_of_mem_turns (ht : t ∈ turns cs f) :
    t.result = (run t.call.op t.before).1 ∧
      Moves (t.call.lookupKey t.before) (t.call.startsBuild t.before) t.before t.result t.after := by
  induction cs generalizing f with
  | nil => cases ht
  | cons c cs ih =>
    rcases List.mem_cons.mp ht with rfl | ht
    · exact ⟨rfl, moves c f⟩
    · exact ih ht

/-- The rest of a run from any of its turns on is a run from the factory that turn left. -/
theorem runAll_of_mem_turns (ht : t ∈ turns cs f) : ∃ rest, runAll cs f = runAll rest t.after := by
  induction cs generalizing f with
  | nil => cases ht
  | cons c cs ih =>
    rcases List.mem_cons.mp ht with rfl | ht
    · exact ⟨cs, rfl⟩
    · exact ih ht

theorem cache_prefix_runAll (cs : List FactoryCall) (f : Factory) : f.cache <+: (runAll cs f).cache := by
  induction cs generalizing f with
  | nil => exact List.prefix_refl _
  | cons c cs ih => exact (moves c f).grows.trans (ih _)

theorem coherent_of_mem_turns (hf : f.Coherent) (ht : t ∈ turns cs f) : t.before.Coherent := by
  induction cs generalizing f with
  | nil => cases ht
  | cons c cs ih =>
    rcases List.mem_cons.mp ht with rfl | ht
    · exact hf
    · exact ih ((moves c f).coherent hf) ht

/-- Once the strategy is locked, no call changes it. -/
theorem runAll_strategy (cs : List FactoryCall) {f : Factory} (hl : f.locked = true) :
    (runAll cs f).strategy = f.strategy := by
  induction cs generalizing f with
  | nil => rfl
  | cons c cs ih =>
    have hl' : (run c.op f).2.locked = true := by simp [(moves c f).locked, hl]
    exact (ih hl').trans ((moves c f).strategy hl)

/-- A turn finds the strategy locked exactly when the run started locked or an earlier call
started a build. -/
theorem locked_of_turns_eq {pre post : List Turn} (h : turns cs f = pre ++ t :: post) :
    t.before.locked = (f.locked || pre.any fun u => u.call.startsBuild u.before) := by
  induction cs generalizing f pre with
  | nil => cases pre <;> cases h
  | cons c cs ih =>
    cases pre with
    | nil =>
      obtain ⟨rfl, -⟩ := List.cons.inj h
      simp
    | cons u pre =>
      obtain ⟨rfl, hrest⟩ := List.cons.inj h
      rw [ih hrest, (moves c f).locked, List.any_cons, Bool.or_assoc]

/-- What a run of calls does, turn by turn, from a factory that keeps no mapper and has not
locked its strategy. -/
structure RunSpec (cs : List FactoryCall) (f : Factory) : Prop where
  /-- After every turn the kept mappers are a map from types to mappers of that type. -/
  coherent : ∀ t ∈ turns cs f, t.after.Coherent
  /-- A kept mapper is never replaced: the mappers kept after a turn stay to the end. -/
  kept : ∀ t ∈ turns cs f, t.after.cache <+: (runAll cs f).cache
  /-- Every lookup that succeeds gives the mapper kept for its type at the end of the run, so
  all lookups of one type give the same mapper. -/
  lookup : ∀ t ∈ turns cs f, ∀ k m, t.call.lookupKey t.before = some k →
    t.result = .ok (some m) → (runAll cs f).cache.lookup k = some m
  /-- A call that fails keeps no new mapper, and neither does a `create`. -/
  failed : ∀ t ∈ turns cs f, ∀ e, t.result = .error e → t.after.cache = t.before.cache
  create : ∀ t ∈ turns cs f, ∀ ty, t.call = .create ty → t.after.cache = t.before.cache
  /-- The strategy is locked exactly when an earlier call started a build, and setting it is
  refused exactly then. -/
  locked : ∀ pre t post, turns cs f = pre ++ t :: post →
    (t.before.locked = true ↔ ∃ u ∈ pre, u.call.startsBuild u.before = true)
  refused : ∀ t ∈ turns cs f, ∀ s, t.call = .setStrategy s →
    (t.result = .error (.config .strategyLocked) ↔ t.before.locked = true)
  /-- A mapper a call gives reports the strategy of the factory then, and from the first build
  on that strategy stays to the end. -/
  reports : ∀ t ∈ turns cs f, ∀ m, t.result = .ok (some m) → m.strategy = t.before.strategy
  fixed : ∀ t ∈ turns cs f, t.before.locked = true → (runAll cs f).strategy = t.before.strategy
  /-- A mapper a call gives was kept before it, or has the adapters the registry resolves then. -/
  resolved : ∀ t ∈ turns cs f, ∀ m, t.result = .ok (some m) →
    (∃ k, (k, m) ∈ t.before.cache) ∨ m.ResolvedBy t.before.schema t.before.adapters

theorem after_prefix_runAll (ht : t ∈ turns cs f) : t.after.cache <+: (runAll cs f).cache := by
  obtain ⟨rest, h⟩ := runAll_of_mem_turns ht
  rw [h]
  exact cache_prefix_runAll rest t.after

/-- A factory that keeps no mapper and has not locked its strategy: over every run of calls,
each lookup of a type gives the one mapper kept for it, failed calls and uncached builds keep
nothing, and the strategy is locked, and no longer set, exactly from the first build on. -/
theorem runAll_spec (cs : List FactoryCall) (f : Factory) (hcache : f.cache = [])
    (hlocked : f.locked = false) : RunSpec cs f := by
  have hf : f.Coherent := Coherent.fresh hcache
  refine ⟨fun t ht => ?_, fun t ht => after_prefix_runAll ht, fun t ht k m hk hr => ?_,
    fun t ht e he => ?_, fun t ht ty hc => ?_, fun pre t post h => ?_, fun t ht s hc => ?_,
    fun t ht m hr => ?_, fun t ht hl => ?_, fun t ht m hr => ?_⟩
  · exact (moves_of_mem_turns ht).2.coherent (coherent_of_mem_turns hf ht)
  · exact lookup_of_prefix (after_prefix_runAll ht) ((moves_of_mem_turns ht).2.kept k m hk hr)
  · exact (moves_of_mem_turns ht).2.failed he
  · exact (moves_of_mem_turns ht).2.unkept (by rw [hc]; rfl)
  · rw [locked_of_turns_eq h, hlocked, Bool.false_or, List.any_eq_true]
  · rw [(moves_of_mem_turns ht).1, hc]
    exact setStrategy_refused s t.before
  · exact (moves_of_mem_turns ht).2.reports (coherent_of_mem_turns hf ht) m hr
  · have hmoves := (moves_of_mem_turns ht).2
    have hl' : t.after.locked = true := by simp [hmoves.locked, hl]
    obtain ⟨rest, h⟩ := runAll_of_mem_turns ht
    rw [h, runAll_strategy rest hl', hmoves.strategy hl]
  · exact (moves_of_mem_turns ht).2.resolved m hr

/-- A fresh factory: a run that builds a mapper and then sets the strategy. -/
theorem runAll_spec_fresh :
    ({ schema := ⟨[], [], []⟩ } : Factory).cache = [] ∧
      ({ schema := ⟨[], [], []⟩ } : Factory).locked = false ∧
      RunSpec [.createOrGet .string, .setStrategy .checked] { schema := ⟨[], [], []⟩ } :=
  ⟨rfl, rfl, runAll_spec _ _ rfl rfl⟩

end FactoryCall

end ObjectMapping
