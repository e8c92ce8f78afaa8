import ObjectMapping.Proofs.FactoryCalls
import ObjectMapping.Proofs.ChainResolution

/-!
# The checks of a mapper build

Building the mapper of a record checks its properties one after another, in declaration order,
and stops at the first check that fails. Each property passes, in this order: its external name
is not that of an earlier property; its adapters resolve to a chain; the type the chain ends at
has a value representation; a record at the end of the chain carries its descriptor and, where
the factory requires it, is registered; the strategy can reach the property and prepares its
location.

* `Factory.Compiles f owner earlier p mp`: the property `p` passes every check after the
  properties named `earlier`, and is mapped as `mp`.
* `Factory.FirstFault f owner earlier p e`: the first check `p` fails is the one whose error is
  `e`. Each constructor is one check, with the checks before it passed.
* `Factory.compiles_or_firstFault`: the checks are exhaustive, every property compiles or fails
  one of them.
* `Factory.compileProperty_outcome`: compiling one property succeeds exactly as `Compiles` says
  and fails exactly as `FirstFault` says.
* `Factory.build_checks_properties_in_order`: a build fails with the first fault of the first
  property that does not compile, and succeeds exactly when every property compiles; its
  properties are then the record's in order, under distinct names, with the kind and nullability
  of their terminal types.

The checks read only what a build does not change (the naming policy, the registry, the schema,
the configuration, the registered types and the strategy), so they are stated of the factory
the build starts from.
-/

namespace ObjectMapping

/-- Resolution fails only on a cycle, which names the declared type. -/
theorem Registry.resolve_eq_error {S : Schema} {r : Registry} {declared : TypeOps}
    {e : ConfigError} (h : r.resolve S declared = .error e) :
    ∃ repeated, e = .adapterCycle declared.typeName repeated := by
  -- the walk from the declared type settles: it ends, and resolution succeeds, or it repeats
  obtain ⟨as, u, hw, -, hs⟩ := Registry.Walk.settles (r := r) declared.ty
  rcases hs with ⟨hnd, hend⟩ | ⟨bs, a, rfl, hnd, hrep⟩
  · rw [Registry.resolve_of_ends S r declared hw hnd hend] at h
    cases h
  · rw [Registry.resolve_of_repeats S r declared hw hnd hrep] at h
    exact ⟨_, (Except.error.inj h).symm⟩

/-- A strategy refuses a location only with its own rejection of the property. -/
theorem Strategy.prepare_eq_error {s : Strategy} {owner : Descriptor} {p : PropertyInfo}
    {e : ConfigError} (h : s.prepare owner p = .error e) : e = s.rejected owner p := by
  unfold Strategy.prepare at h
  split at h
  · exact (Except.error.inj h).symm
  · split at h
    · exact (Except.error.inj h).symm
    · dsimp only at h
      split at h
      · cases h
      · exact (Except.error.inj h).symm
  · cases h

namespace Factory

/-- A terminal type a build can map: a record carries its descriptor and, where the factory
requires registration, is registered. -/
def MapperAvailable (f : Factory) (t : ValueOps) : Prop :=
  t.kind = .object → ∃ nested, t.descriptor = some nested ∧
    (f.config.requireRegistration = true → f.isRegistered nested = true)

/-- The property `p` of `owner` passes every check of a build after the properties named
`earlier`, and is mapped as `mp`: under its external name, with the adapters the registry
resolves, the kind and nullability of the type they end at, and the location the strategy
prepares. -/
structure Compiles (f : Factory) (owner : Descriptor) (earlier : List String) (p : PropertyInfo)
    (mp : MappedProperty) : Prop where
  info : mp.info = p
  name : mp.name = f.naming owner p
  fresh : mp.name ∉ earlier
  chain : f.adapters.resolve f.schema p.ops = .ok mp.chain
  terminal : ∃ t, mp.chain.terminal.value = some t ∧ f.MapperAvailable t ∧ mp.kind = t.kind ∧
    mp.nullable = t.nullable
  access : f.strategy.canAccess p = true
  location : f.strategy.prepare owner p = .ok mp.location

/-- The first check of a build that the property `p` of `owner` fails, after the properties
named `earlier`, has the error `e`. -/
inductive FirstFault (f : Factory) (owner : Descriptor) (earlier : List String)
    (p : PropertyInfo) : ConfigError → Prop
  /-- Its external name is that of an earlier property. -/
  | duplicateName : f.naming owner p ∈ earlier →
      FirstFault f owner earlier p (.duplicateName owner.typeName (f.naming owner p))
  /-- Its adapters lead back to a type they reached before. -/
  | adapterCycle {start repeated : String} : f.naming owner p ∉ earlier →
      f.adapters.resolve f.schema p.ops = .error (.adapterCycle start repeated) →
      FirstFault f owner earlier p (.adapterCycle start repeated)
  /-- The type its adapters end at has no value representation. -/
  | unmappable {c : Chain} : f.naming owner p ∉ earlier →
      f.adapters.resolve f.schema p.ops = .ok c → c.terminal.value = none →
      FirstFault f owner earlier p (.unmappable owner.typeName p.name p.typeName)
  /-- Its adapters end at a record without a mapper to reach. -/
  | missingMapper {c : Chain} {t : ValueOps} : f.naming owner p ∉ earlier →
      f.adapters.resolve f.schema p.ops = .ok c → c.terminal.value = some t →
      ¬ f.MapperAvailable t → FirstFault f owner earlier p (.missingMapper c.terminal.typeName)
  /-- The strategy cannot reach it, or prepares no location for it. -/
  | strategyRejected {c : Chain} {t : ValueOps} : f.naming owner p ∉ earlier →
      f.adapters.resolve f.schema p.ops = .ok c → c.terminal.value = some t →
      f.MapperAvailable t →
      ¬ (f.strategy.canAccess p = true ∧ ∃ loc, f.strategy.prepare owner p = .ok loc) →
      FirstFault f owner earlier p (.strategyRejected f.strategy.name owner.typeName p.name)

/-- Every property either compiles or fails one of the checks. -/
theorem compiles_or_firstFault (f : Factory) (owner : Descriptor) (earlier : List String)
    (p : PropertyInfo) :
    (∃ mp, Compiles f owner earlier p mp) ∨ ∃ e, FirstFault f owner earlier p e := by
  by_cases hname : f.naming owner p ∈ earlier
  · exact .inr ⟨_, .duplicateName hname⟩
  rcases hres : f.adapters.resolve f.schema p.ops with e | c
  · obtain ⟨repeated, rfl⟩ := Registry.resolve_eq_error hres
    exact .inr ⟨_, .adapterCycle hname hres⟩
  rcases hval : c.terminal.value with _ | t
  · exact .inr ⟨_, .unmappable hname hres hval⟩
  by_cases havail : f.MapperAvailable t
  swap
  · exact .inr ⟨_, .missingMapper hname hres hval havail⟩
  by_cases hacc : f.strategy.canAccess p = true ∧ ∃ loc, f.strategy.prepare owner p = .ok loc
  · obtain ⟨hcan, loc, hloc⟩ := hacc
    exact .inl ⟨⟨p, f.naming owner p, t.kind, t.nullable, c, loc⟩,
      rfl, rfl, hname, hres, ⟨t, hval, havail, rfl, rfl⟩, hcan, hloc⟩
  · exact .inr ⟨_, .strategyRejected hname hres hval havail hacc⟩

theorem any_name_eq_true {done : List MappedProperty} {name : String} :
    (done.any fun x => x.name == name) = true ↔ name ∈ done.map (·.name) := by
  simp [List.any_eq_true]

/-- The chain of a property, resolved while the build runs, is the one the registry of the
factory it started from resolves. -/
theorem run_resolveChain_ok {f g : Factory} (hg : Locked f g) {declared : TypeOps} {c : Chain}
    (h : f.adapters.resolve f.schema declared = .ok c) :
    ∃ g', run (resolveChain declared) g = (.ok c, g') := by
  unfold resolveChain
  rw [run_bind_ok (run_get g)]
  simp only [hg.adapters, hg.schema, h]
  split
  · exact ⟨_, run_bind_ok (run_modify _ _) _⟩
  · exact ⟨g, rfl⟩

theorem run_resolveChain_error {f g : Factory} (hg : Locked f g) {declared : TypeOps}
    {e : ConfigError} (h : f.adapters.resolve f.schema declared = .error e) :
    run (resolveChain declared) g = (.error (.config e), g) := by
  unfold resolveChain
  rw [run_bind_ok (run_get g)]
  simp only [hg.adapters, hg.schema, h]
  rfl

/-- The mapper check in the form the build makes it: a terminal that is not a record passes, a
record passes when it carries a descriptor that is registered or need not be. -/
theorem mapperAvailable_iff {f : Factory} {t : ValueOps} :
    f.MapperAvailable t ↔ (t.kind == .object) = false ∨ ∃ nested, t.descriptor = some nested ∧
      (f.config.requireRegistration && !f.known.contains nested) = false := by
  unfold MapperAvailable isRegistered
  by_cases hobj : t.kind = .object
  · cases hr : f.config.requireRegistration <;> simp [hobj]
  · simp [hobj]

section Compile

variable {f g : Factory} {owner : Descriptor} {done : List MappedProperty} {p : PropertyInfo}

/-- Past the checks of the name, the chain and the mapper of its terminal, the strategy decides:
the property is mapped at the location the strategy prepares, or refused. -/
theorem compileProperty_of_available (hg : Locked f g) {c : Chain} {t : ValueOps}
    (hfresh : f.naming owner p ∉ done.map (·.name))
    (hres : f.adapters.resolve f.schema p.ops = .ok c) (hval : c.terminal.value = some t)
    (havail : f.MapperAvailable t) :
    (run (compileProperty f.strategy owner done p) g).1 =
      if f.strategy.canAccess p then
        ((f.strategy.prepare owner p).mapError .config).map fun loc =>
          ⟨p, f.naming owner p, t.kind, t.nullable, c, loc⟩
      else .error (.config (.strategyRejected f.strategy.name owner.typeName p.name)) := by
  have hnew : (done.any fun x => x.name == f.naming owner p) = false := by
    simpa [any_name_eq_true] using hfresh
  obtain ⟨g', hg'⟩ := run_resolveChain_ok hg hres
  obtain ⟨log, builds, rfl⟩ := hg
  unfold compileProperty
  rw [run_bind_ok (run_get _)]
  simp only [hnew, Bool.false_eq_true, if_false]
  rw [run_bind_ok hg']
  simp only [hval]
  -- a record at the end of the chain has its mapper, so the check lets it through to the
  -- strategy's part
  rcases mapperAvailable_iff.mp havail with hobj | ⟨nested, hdesc, hkept⟩
  · simp only [hobj, Bool.false_eq_true, if_false]
    cases f.strategy.canAccess p <;> cases f.strategy.prepare owner p <;> rfl
  · simp only [hdesc, isRegistered, hkept, Bool.false_eq_true, if_false, ite_self]
    cases f.strategy.canAccess p <;> cases f.strategy.prepare owner p <;> rfl

/-- A property that passes every check is compiled to the mapped property `Compiles` gives. -/
theorem compileProperty_of_compiles (hg : Locked f g) {mp : MappedProperty}
    (h : Compiles f owner (done.map (·.name)) p mp) :
    (run (compileProperty f.strategy owner done p) g).1 = .ok mp := by
  obtain ⟨hinfo, hname, hfresh, hres, ⟨t, hval, havail, hkind, hnull⟩, hcan, hloc⟩ := h
  rw [compileProperty_of_available hg (hname ▸ hfresh) hres hval havail, if_pos hcan, hloc]
  obtain ⟨info, name, kind, nullable, chain, location⟩ := mp
  simp only at hinfo hname hkind hnull
  subst hinfo hname hkind hnull
  rfl

/-- A property that fails a check is refused with that check's error. -/
theorem compileProperty_of_firstFault (hg : Locked f g) {e : ConfigError}
    (h : FirstFault f owner (done.map (·.name)) p e) :
    (run (compileProperty f.strategy owner done p) g).1 = .error (.config e) := by
  have hnew : ∀ n, n ∉ done.map (·.name) → (done.any fun x => x.name == n) = false :=
    fun n hn => by simpa [any_name_eq_true] using hn
  cases h with
  | duplicateName hdup =>
    obtain ⟨log, builds, rfl⟩ := hg
    unfold compileProperty
    rw [run_bind_ok (run_get _)]
    simp only [any_name_eq_true.mpr hdup, if_true]
    rfl
  | adapterCycle hfresh hres =>
    have hcycle := run_resolveChain_error hg hres
    obtain ⟨log, builds, rfl⟩ := hg
    unfold compileProperty
    rw [run_bind_ok (run_get _)]
    simp only [hnew _ hfresh, Bool.false_eq_true, if_false]
    rw [run_bind_error hcycle]
  | unmappable hfresh hres hval =>
    obtain ⟨g', hg'⟩ := run_resolveChain_ok hg hres
    obtain ⟨log, builds, rfl⟩ := hg
    unfold compileProperty
    rw [run_bind_ok (run_get _)]
    simp only [hnew _ hfresh, Bool.false_eq_true, if_false]
    rw [run_bind_ok hg']
    simp only [hval]
    rfl
  | @missingMapper c t hfresh hres hval havail =>
    obtain ⟨g', hg'⟩ := run_resolveChain_ok hg hres
    obtain ⟨log, builds, rfl⟩ := hg
    unfold compileProperty
    rw [run_bind_ok (run_get _)]
    simp only [hnew _ hfresh, Bool.false_eq_true, if_false]
    rw [run_bind_ok hg']
    simp only [hval]
    -- the terminal is a record whose descriptor is missing or not registered
    have hobj : (t.kind == .object) = true := by
      by_contra hk
      exact havail (mapperAvailable_iff.mpr (.inl (by simpa using hk)))
    simp only [hobj, if_true]
    cases hd : t.descriptor with
    | none => rfl
    | some nested =>
      have hreg : (f.config.requireRegistration && !f.known.contains nested) = true := by
        by_contra hk
        exact havail (mapperAvailable_iff.mpr (.inr ⟨nested, hd, by simpa using hk⟩))
      simp only [isRegistered, hreg, if_true]
      rfl
  | strategyRejected hfresh hres hval havail hrej =>
    rw [compileProperty_of_available hg hfresh hres hval havail]
    by_cases hcan : f.strategy.canAccess p = true
    · rcases hprep : f.strategy.prepare owner p with e' | loc
      · rw [if_pos hcan, Strategy.prepare_eq_error hprep]
        rfl
      · exact absurd ⟨hcan, loc, hprep⟩ hrej
    · rw [if_neg hcan]

/-- Compiling a property succeeds exactly as `Compiles` says and fails exactly as `FirstFault`
says. -/
theorem compileProperty_outcome (hg : Locked f g) :
    (∀ mp, (run (compileProperty f.strategy owner done p) g).1 = .ok mp ↔
      Compiles f owner (done.map (·.name)) p mp) ∧
    ∀ e, (run (compileProperty f.strategy owner done p) g).1 = .error e ↔
      ∃ e', FirstFault f owner (done.map (·.name)) p e' ∧ e = .config e' := by
  refine ⟨fun mp => ⟨fun h => ?_, compileProperty_of_compiles hg⟩,
    fun e => ⟨fun h => ?_, fun ⟨e', h', he⟩ => he ▸ compileProperty_of_firstFault hg h'⟩⟩
  -- the checks are exhaustive, and each outcome comes from one of them
  all_goals rcases compiles_or_firstFault f owner (done.map (·.name)) p with ⟨mp', h'⟩ | ⟨e', h'⟩
  · rw [compileProperty_of_compiles hg h'] at h
    cases h
    exact h'
  · rw [compileProperty_of_firstFault hg h'] at h
    cases h
  · rw [compileProperty_of_compiles hg h'] at h
    cases h
  · rw [compileProperty_of_firstFault hg h'] at h
    cases h
    exact ⟨e', h', rfl⟩

end Compile

/-! ## The properties of a record, one after another -/

/-- The properties `ps` of `owner` compile one after another, after the properties named
`earlier`, to the mapped properties `mps`. -/
inductive CompilesAll (f : Factory) (owner : Descriptor) :
    List String → List PropertyInfo → List MappedProperty → Prop
  | nil (earlier : List String) : CompilesAll f owner earlier [] []
  | cons {earlier : List String} {p : PropertyInfo} {ps : List PropertyInfo} {mp : MappedProperty}
      {mps : List MappedProperty} : Compiles f owner earlier p mp →
      CompilesAll f owner (earlier ++ [mp.name]) ps mps →
      CompilesAll f owner earlier (p :: ps) (mp :: mps)

/-- Compiling the properties `ps` of `owner`, after the properties named `earlier`, stops with
the error `e`: at a property whose first fault is `e`, every property before it compiled. -/
def StopsAt (f : Factory) (owner : Descriptor) (earlier : List String) (ps : List PropertyInfo)
    (e : ConfigError) : Prop :=
  ∃ pre p post mps, ps = pre ++ p :: post ∧ CompilesAll f owner earlier pre mps ∧
    FirstFault f owner (earlier ++ mps.map (·.name)) p e

section All

variable {f : Factory} {owner : Descriptor} {earlier : List String}

theorem compilesAll_nil_iff {mps : List MappedProperty} :
    CompilesAll f owner earlier [] mps ↔ mps = [] := by
  constructor
  · rintro ⟨⟩
    rfl
  · rintro rfl
    exact .nil earlier

theorem compilesAll_cons_iff {p : PropertyInfo} {ps : List PropertyInfo}
    {mps : List MappedProperty} :
    CompilesAll f owner earlier (p :: ps) mps ↔ ∃ mp rest, mps = mp :: rest ∧
      Compiles f owner earlier p mp ∧ CompilesAll f owner (earlier ++ [mp.name]) ps rest := by
  constructor
  · rintro ⟨⟩
    rename_i mp rest hmp hrest
    exact ⟨mp, rest, rfl, hmp, hrest⟩
  · rintro ⟨mp, rest, rfl, hmp, hrest⟩
    exact .cons hmp hrest

theorem not_stopsAt_nil {e : ConfigError} : ¬ StopsAt f owner earlier [] e := by
  rintro ⟨pre, p, post, mps, hps, -⟩
  simp at hps

/-- A build stops at the first property, or that one compiles and it stops later. -/
theorem stopsAt_cons_iff {p : PropertyInfo} {ps : List PropertyInfo} {e : ConfigError} :
    StopsAt f owner earlier (p :: ps) e ↔ FirstFault f owner earlier p e ∨
      ∃ mp, Compiles f owner earlier p mp ∧ StopsAt f owner (earlier ++ [mp.name]) ps e := by
  constructor
  · rintro ⟨pre, q, post, mps, hps, hall, hfault⟩
    cases pre with
    | nil =>
      obtain ⟨rfl, rfl⟩ := List.cons_eq_cons.mp hps
      obtain rfl := compilesAll_nil_iff.mp hall
      exact .inl (by simpa using hfault)
    | cons r pre =>
      obtain ⟨rfl, rfl⟩ := List.cons_eq_cons.mp hps
      obtain ⟨mp, rest, rfl, hmp, hrest⟩ := compilesAll_cons_iff.mp hall
      exact .inr ⟨mp, hmp, pre, q, post, rest, rfl, hrest, by simpa using hfault⟩
  · rintro (hfault | ⟨mp, hmp, pre, q, post, mps, rfl, hrest, hfault⟩)
    · exact ⟨[], p, ps, [], rfl, .nil earlier, by simpa using hfault⟩
    · exact ⟨p :: pre, q, post, mp :: mps, rfl, .cons hmp hrest, by simpa using hfault⟩

/-- The properties compiled are the ones given, in their order. -/
theorem CompilesAll.map_info {ps : List PropertyInfo} {mps : List MappedProperty}
    (h : CompilesAll f owner earlier ps mps) : mps.map (·.info) = ps := by
  induction h with
  | nil => rfl
  | cons hmp _ ih => simp [hmp.info, ih]

/-- Each compiled property takes a name the properties before it do not have. -/
theorem CompilesAll.nodup_names {ps : List PropertyInfo} {mps : List MappedProperty}
    (h : CompilesAll f owner earlier ps mps) (hnd : earlier.Nodup) :
    (earlier ++ mps.map (·.name)).Nodup := by
  induction h with
  | nil => simpa using hnd
  | @cons earlier p ps mp mps hmp _ ih =>
    have hnd' : (earlier ++ [mp.name]).Nodup :=
      List.nodup_append.mpr ⟨hnd, List.nodup_singleton _, fun a ha b hb => by
        rw [List.mem_singleton.mp hb]
        exact ne_of_mem_of_not_mem ha hmp.fresh⟩
    simpa using ih hnd'

/-- Each compiled property has the kind and nullability of the type its adapters end at. -/
theorem CompilesAll.terminal {ps : List PropertyInfo} {mps : List MappedProperty}
    (h : CompilesAll f owner earlier ps mps) :
    ∀ mp ∈ mps, ∃ t, mp.chain.terminal.value = some t ∧ mp.kind = t.kind ∧
      mp.nullable = t.nullable := by
  induction h with
  | nil => simp
  | cons hmp _ ih =>
    rintro mp (_ | ⟨_, hmem⟩)
    · obtain ⟨t, hval, -, hkind, hnull⟩ := hmp.terminal
      exact ⟨t, hval, hkind, hnull⟩
    · exact ih mp hmem

end All

/-- Compiling the properties `ps` one after another, after the compiled properties `done`,
succeeds exactly when they all compile, and otherwise stops at the first that does not. -/
theorem compileAll_outcome {f : Factory} (d : Descriptor) (ps : List PropertyInfo) :
    ∀ (done : List MappedProperty) (g : Factory), Locked f g →
      (∀ out, (run (ps.foldlM (fun done p => do
          let mp ← compileProperty f.strategy d done p
          pure (done ++ [mp])) done) g).1 = .ok out ↔
        ∃ mps, CompilesAll f d (done.map (·.name)) ps mps ∧ out = done ++ mps) ∧
      ∀ e, (run (ps.foldlM (fun done p => do
          let mp ← compileProperty f.strategy d done p
          pure (done ++ [mp])) done) g).1 = .error e ↔
        ∃ e', StopsAt f d (done.map (·.name)) ps e' ∧ e = .config e' := by
  induction ps with
  | nil =>
    intro done g _
    simp [compilesAll_nil_iff, not_stopsAt_nil, eq_comm]
  | cons p ps ih =>
    intro done g hg
    rw [List.foldlM_cons]
    have hout := @compileProperty_outcome _ _ d done p hg
    rcases hc : run (compileProperty f.strategy d done p) g with ⟨_ | mp, g'⟩
    · -- the property fails a check: the build stops here
      rename_i e₀
      rw [run_bind_error (run_bind_error hc _)]
      simp only [hc, reduceCtorEq, false_iff, Except.error.injEq] at hout
      obtain ⟨e₀', hfault, rfl⟩ := (hout.2 e₀).mp rfl
      refine ⟨fun out => ?_, fun e => ?_⟩
      · simp only [reduceCtorEq, false_iff]
        rintro ⟨mps, hall, -⟩
        obtain ⟨mp, -, -, hmp, -⟩ := compilesAll_cons_iff.mp hall
        exact hout.1 mp hmp
      · simp only [Except.error.injEq, stopsAt_cons_iff]
        constructor
        · rintro rfl
          exact ⟨e₀', .inl hfault, rfl⟩
        · rintro ⟨e', hfault' | ⟨mp, hmp, -⟩, rfl⟩
          · exact (hout.2 _).mpr ⟨e', hfault', rfl⟩
          · exact (hout.1 mp hmp).elim
    · -- the property compiles: the build goes on after it
      have hg' : Locked f g' := by
        simpa [hc] using (compileProperty_triple f.strategy d done p).keeps g hg
      rw [run_bind_ok (run_bind_ok hc _)]
      simp only [hc] at hout
      have hmp : Compiles f d (done.map (·.name)) p mp := (hout.1 mp).mp rfl
      have hsame : ∀ mp', Compiles f d (done.map (·.name)) p mp' → mp' = mp :=
        fun mp' h => (Except.ok.inj ((hout.1 mp').mpr h)).symm
      obtain ⟨ihok, iherr⟩ := ih (done ++ [mp]) g' hg'
      simp only [List.map_append, List.map_cons, List.map_nil] at ihok iherr
      refine ⟨fun out => ?_, fun e => ?_⟩
      · rw [ihok out]
        constructor
        · rintro ⟨mps, hall, rfl⟩
          exact ⟨mp :: mps, .cons hmp hall, by simp⟩
        · rintro ⟨mps, hall, rfl⟩
          obtain ⟨mp', rest, rfl, hmp', hrest⟩ := compilesAll_cons_iff.mp hall
          obtain rfl := hsame mp' hmp'
          exact ⟨rest, hrest, by simp⟩
      · rw [iherr e]
        simp only [stopsAt_cons_iff]
        constructor
        · rintro ⟨e', hstop, rfl⟩
          exact ⟨e', .inr ⟨mp, hmp, hstop⟩, rfl⟩
        · rintro ⟨e', hfault | ⟨mp', hmp', hstop⟩, rfl⟩
          · cases (hout.2 _).mpr ⟨e', hfault, rfl⟩
          · obtain rfl := hsame mp' hmp'
            exact ⟨e', hstop, rfl⟩



/-- The build of a record's mapper fails as compiling its properties does, and otherwise gives
the properties compiled, under the factory's strategy. -/
theorem build_some_run (ops : TypeOps) (d : Descriptor) (f : Factory) :
    ∃ serial, (run (build ops (some d)) f).1 =
      (fun props => (⟨ops, some d, props, f.strategy, serial⟩ : Mapper)) <$>
        (run (d.properties.foldlM (fun done p => do
          let mp ← compileProperty f.strategy d done p
          pure (done ++ [mp])) []) { f with locked := true }).1 := by
  have hlock : run lockStrategy f = (.ok f.strategy, { f with locked := true }) := rfl
  unfold build
  rw [run_bind_ok hlock]
  dsimp only
  rcases hfold : run (d.properties.foldlM (fun done p => do
      let mp ← compileProperty f.strategy d done p
      pure (done ++ [mp])) []) { f with locked := true } with ⟨_ | out, g⟩
  · rw [run_bind_error hfold]
    exact ⟨0, rfl⟩
  · rw [run_bind_ok hfold]
    -- after the properties come a note and the count of builds, which cannot fail
    exact ⟨g.builds, by simp [note, run_bind, run_map]⟩

/-- A build of a record's mapper checks its properties in declaration order, and each property
in the order of `FirstFault`: it fails exactly with the first fault of the first property that
does not compile, and succeeds exactly when every property compiles. The mapper's properties are
then the record's, in order, under pairwise distinct external names, each with the kind and
nullability of the type its adapters end at. -/
theorem build_checks_properties_in_order (ops : TypeOps) (d : Descriptor) (f : Factory) :
    (∀ e, (run (build ops (some d)) f).1 = .error e ↔
      ∃ e', StopsAt f d [] d.properties e' ∧ e = .config e') ∧
    ((∃ m, (run (build ops (some d)) f).1 = .ok m) ↔
      ∃ mps, CompilesAll f d [] d.properties mps) ∧
    ∀ m, (run (build ops (some d)) f).1 = .ok m →
      CompilesAll f d [] d.properties m.properties ∧ m.properties.map (·.info) = d.properties ∧
        (m.properties.map (·.name)).Nodup ∧
        ∀ mp ∈ m.properties, ∃ t, mp.chain.terminal.value = some t ∧ mp.kind = t.kind ∧
          mp.nullable = t.nullable := by
  obtain ⟨serial, hrun⟩ := build_some_run ops d f
  obtain ⟨hok, herr⟩ := compileAll_outcome d d.properties [] _ (Locked.self f)
  simp only [List.map_nil, List.nil_append] at hok herr
  rw [hrun]
  -- the outcome of compiling the properties, which the build maps to a mapper
  generalize (run (d.properties.foldlM (fun done p => do
      let mp ← compileProperty f.strategy d done p
      pure (done ++ [mp])) []) { f with locked := true }).1 = r at hok herr
  cases r with
  | error e₀ =>
    dsimp only [Functor.map, Except.map]
    refine ⟨fun e => by simpa using herr e, ?_, fun m h => by cases h⟩
    simp only [reduceCtorEq, false_iff] at hok
    constructor
    · rintro ⟨m, h⟩
      cases h
    · rintro ⟨mps, hall⟩
      exact (hok mps).elim ⟨mps, hall, rfl⟩
  | ok out =>
    dsimp only [Functor.map, Except.map]
    obtain ⟨mps, hall, hmps⟩ := (hok out).mp rfl
    subst hmps
    refine ⟨fun e => ?_, ⟨fun _ => ⟨out, hall⟩, fun _ => ⟨_, rfl⟩⟩, fun m h => ?_⟩
    · rw [← herr e]
      simp
    · cases h
      exact ⟨hall, hall.map_info, by simpa using hall.nodup_names List.nodup_nil, hall.terminal⟩

end Factory

end ObjectMapping
