import ObjectMapping.Proofs.FactoryRun

/-!
# What factory operations leave alone

Frame facts about the operations of a factory, for proofs that compare runs from factories that
differ only in what the operations never look at.

* `Commutes φ x`: run from a changed factory `φ f`, the operation gives the result it gives from
  `f` and leaves the changed final factory. It is built up along an operation, step by step.
* `Framed`: building a mapper neither reads nor writes the limit of nesting and the kept
  mappers, and keeps the schema (`build_framed`). So a build leaves the kept mappers as they
  were (`build_cache`), and looking up the mapper of a record does not read the limit of nesting
  (`mapperFor_withLimit`).
* `mapperFor_kept`: the mapper a lookup gives is kept under the record's type after the mappers
  kept before, so a later lookup gives it again (`lookup_of_prefix`).
-/

namespace ObjectMapping

namespace Factory

/-- The factory with another limit of nesting. -/
def withLimit (f : Factory) (D : Nat) : Factory := { f with config := { f.config with maxDepth := D } }

@[simp] theorem withLimit_withLimit (f : Factory) (D D' : Nat) :
    (f.withLimit D).withLimit D' = f.withLimit D' := rfl

@[simp] theorem withLimit_maxDepth (f : Factory) (D : Nat) : (f.withLimit D).config.maxDepth = D :=
  rfl

@[simp] theorem withLimit_schema (f : Factory) (D : Nat) : (f.withLimit D).schema = f.schema := rfl

@[simp] theorem withLimit_cache (f : Factory) (D : Nat) : (f.withLimit D).cache = f.cache := rfl

@[simp] theorem withLimit_instances (f : Factory) (D : Nat) :
    (f.withLimit D).instances = f.instances := rfl

theorem withLimit_self (f : Factory) : f.withLimit f.config.maxDepth = f := rfl

/-! ## Operations that commute with a change of the factory -/

variable {α β : Type}

/-- Run from a changed factory, the operation gives the same result and leaves the changed
factory: it neither reads nor writes what `φ` changes. -/
def Commutes (φ : Factory → Factory) (x : FactoryM α) : Prop :=
  ∀ f, run x (φ f) = ((run x f).1, φ (run x f).2)

namespace Commutes

variable {φ : Factory → Factory}

theorem pure (a : α) : Commutes φ (Pure.pure a : FactoryM α) := fun _ => rfl

theorem throw (e : MapError) : Commutes φ (MonadExcept.throw e : FactoryM α) := fun _ => rfl

theorem throw_bind {e : MapError} {k : α → FactoryM β} :
    Commutes φ (MonadExcept.throw e >>= k) := fun _ => rfl

theorem lift (r : Except MapError α) : Commutes φ (Mapper.lift r) := by
  intro f
  simp

theorem bind {x : FactoryM α} {k : α → FactoryM β} (hx : Commutes φ x)
    (hk : ∀ a, Commutes φ (k a)) : Commutes φ (x >>= k) := by
  intro f
  rw [run_bind, run_bind, hx f]
  rcases run x f with ⟨_ | a, f'⟩
  · rfl
  · exact hk a f'

/-- Reading the factory commutes when what is read is not what `φ` changes. -/
theorem get_bind {k : Factory → FactoryM α} (hread : ∀ f, k (φ f) = k f)
    (hk : ∀ f, Commutes φ (k f)) : Commutes φ (get >>= k) := by
  intro f
  rw [run_bind_ok (run_get (φ f)), run_bind_ok (run_get f), hread]
  exact hk f f

theorem modify {g : Factory → Factory} (hg : ∀ f, g (φ f) = φ (g f)) :
    Commutes φ (modify g : FactoryM PUnit) := by
  intro f
  rw [run_modify, run_modify, hg]

theorem foldlM {γ : Type} {step : β → γ → FactoryM β} (hstep : ∀ b c, Commutes φ (step b c)) :
    ∀ (xs : List γ) (init : β), Commutes φ (xs.foldlM step init)
  | [], init => pure init
  | c :: cs, init => by
    rw [List.foldlM_cons]
    exact bind (hstep init c) fun b => foldlM hstep cs b

end Commutes

/-! ## What building a mapper leaves alone -/

/-- The factory with another limit of nesting and other kept mappers: what building a mapper
neither reads nor writes. -/
def rebuild (D : Nat) (c : List (Ty × Mapper)) (f : Factory) : Factory :=
  { f with config := { f.config with maxDepth := D }, cache := c }

/-- An operation of building a mapper: it commutes with a change of the limit of nesting and of
the kept mappers, and it keeps the schema. -/
structure Framed (x : FactoryM α) : Prop where
  rebuild : ∀ D c, Commutes (rebuild D c) x
  schema : ∀ f, (run x f).2.schema = f.schema

namespace Framed

theorem pure (a : α) : Framed (Pure.pure a : FactoryM α) :=
  ⟨fun _ _ => Commutes.pure a, fun _ => rfl⟩

theorem throw (e : MapError) : Framed (MonadExcept.throw e : FactoryM α) :=
  ⟨fun _ _ => Commutes.throw e, fun _ => rfl⟩

theorem throw_bind {e : MapError} {k : α → FactoryM β} : Framed (MonadExcept.throw e >>= k) :=
  ⟨fun _ _ => Commutes.throw_bind, fun _ => rfl⟩

theorem bind {x : FactoryM α} {k : α → FactoryM β} (hx : Framed x) (hk : ∀ a, Framed (k a)) :
    Framed (x >>= k) := by
  refine ⟨fun D c => Commutes.bind (hx.rebuild D c) fun a => (hk a).rebuild D c, fun f => ?_⟩
  rw [run_bind]
  rcases hrun : run x f with ⟨_ | a, f'⟩
  · simpa [hrun] using hx.schema f
  · rw [(hk a).schema f', ← hx.schema f, hrun]

theorem get_bind {k : Factory → FactoryM α}
    (hread : ∀ D c f, k (Factory.rebuild D c f) = k f) (hk : ∀ f, Framed (k f)) :
    Framed (get >>= k) := by
  refine ⟨fun D c => Commutes.get_bind (hread D c) fun f => (hk f).rebuild D c, fun f => ?_⟩
  rw [run_bind_ok (run_get f)]
  exact (hk f).schema f

theorem modify {g : Factory → Factory}
    (hg : ∀ D c f, g (Factory.rebuild D c f) = Factory.rebuild D c (g f))
    (hschema : ∀ f, (g f).schema = f.schema) : Framed (modify g : FactoryM PUnit) :=
  ⟨fun D c => Commutes.modify (hg D c), fun f => hschema f⟩

theorem foldlM {γ : Type} {step : β → γ → FactoryM β} (hstep : ∀ b c, Framed (step b c)) :
    ∀ (xs : List γ) (init : β), Framed (xs.foldlM step init)
  | [], init => pure init
  | c :: cs, init => by
    rw [List.foldlM_cons]
    exact bind (hstep init c) fun b => foldlM hstep cs b

end Framed

theorem note_framed (level message : String) : Framed (note level message) :=
  Framed.modify (fun _ _ _ => rfl) fun _ => rfl

theorem lockStrategy_framed : Framed lockStrategy :=
  Framed.bind (Framed.modify (fun _ _ _ => rfl) fun _ => rfl) fun _ =>
    Framed.get_bind (fun _ _ _ => rfl) fun _ => Framed.pure _

theorem resolveChain_framed (declared : TypeOps) : Framed (resolveChain declared) := by
  refine Framed.get_bind (fun _ _ _ => rfl) fun f => ?_
  split
  · exact Framed.throw _
  · split
    · exact Framed.bind (note_framed _ _) fun _ => Framed.pure _
    · exact Framed.pure _

/-- A chain is resolved by the factory's registry. -/
theorem resolveChain_ok {declared : TypeOps} {f g : Factory} {c : Chain}
    (h : run (resolveChain declared) f = (.ok c, g)) :
    f.adapters.resolve f.schema declared = .ok c := by
  unfold resolveChain at h
  rw [run_bind_ok (run_get f)] at h
  split at h
  · cases h
  · rename_i c' hc'
    split at h
    · obtain ⟨_, _, -, h⟩ := run_bind_eq_ok h
      cases h
      exact hc'
    · cases h
      exact hc'

theorem compileProperty_framed (strategy : Strategy) (owner : Descriptor)
    (done : List MappedProperty) (p : PropertyInfo) :
    Framed (compileProperty strategy owner done p) := by
  unfold compileProperty
  refine Framed.get_bind (fun _ _ _ => rfl) fun f => ?_
  dsimp only
  split
  · exact Framed.throw_bind
  · refine Framed.bind (resolveChain_framed _) fun chain => ?_
    -- what follows the chain's resolution reads nothing more of the factory
    repeat' split
    all_goals first | exact Framed.throw_bind | exact Framed.throw _ | exact Framed.pure _

/-- The count of builds is read and written back; the schema stays. -/
theorem count_framed (mk : Nat → Mapper) :
    Framed (get >>= fun f => set { f with builds := f.builds + 1 } >>= fun _ =>
      (Pure.pure (mk f.builds) : FactoryM Mapper)) :=
  ⟨fun _ _ _ => rfl, fun _ => rfl⟩

theorem build_framed (ops : TypeOps) (descriptor : Option Descriptor) :
    Framed (build ops descriptor) := by
  unfold build
  refine Framed.bind lockStrategy_framed fun strategy => ?_
  dsimp only
  split
  · refine Framed.bind (Framed.foldlM (fun done p => Framed.bind
      (compileProperty_framed strategy _ done p) fun _ => Framed.pure _) _ _) fun _ => ?_
    exact Framed.bind (note_framed _ _) fun _ => count_framed _
  · split
    · exact Framed.throw_bind
    · exact Framed.bind (Framed.pure _) fun _ =>
        Framed.bind (note_framed _ _) fun _ => count_framed _

/-- A build leaves the kept mappers as they were; keeping the new mapper is the caller's. -/
theorem build_cache (ops : TypeOps) (descriptor : Option Descriptor) (f : Factory) :
    (run (build ops descriptor) f).2.cache = f.cache :=
  congrArg (fun r => r.2.cache) ((build_framed ops descriptor).rebuild f.config.maxDepth f.cache f)

theorem build_withLimit (D : Nat) (ops : TypeOps) (descriptor : Option Descriptor) :
    Commutes (withLimit · D) (build ops descriptor) := by
  intro f
  have hcache := build_cache ops descriptor f
  calc run (build ops descriptor) (f.withLimit D)
      _ = ((run (build ops descriptor) f).1, rebuild D f.cache (run (build ops descriptor) f).2) :=
        (build_framed ops descriptor).rebuild D f.cache f
      _ = ((run (build ops descriptor) f).1, (run (build ops descriptor) f).2.withLimit D) := by
        rw [← hcache]
        rfl

/-- Looking up or building the mapper of a record does not read the limit of nesting. -/
theorem mapperFor_withLimit (D : Nat) (d : Descriptor) :
    Commutes (withLimit · D) (mapperFor d) := by
  unfold mapperFor cachedOrBuild
  refine Commutes.get_bind (fun _ => rfl) fun f => ?_
  split
  · exact Commutes.pure _
  · exact Commutes.bind (build_withLimit D _ _) fun _ =>
      Commutes.bind (Commutes.modify fun _ => rfl) fun _ => Commutes.pure _

/-- Looking up or building a mapper keeps the schema. -/
theorem cachedOrBuild_schema (ops : TypeOps) (descriptor : Option Descriptor) (f : Factory) :
    (run (cachedOrBuild ops descriptor) f).2.schema = f.schema := by
  unfold cachedOrBuild
  rw [run_bind_ok (run_get f)]
  split
  · rfl
  · rw [run_bind]
    rcases hb : run (build ops descriptor) f with ⟨_ | m, f₁⟩
    · simpa [hb] using (build_framed ops descriptor).schema f
    · have h := (build_framed ops descriptor).schema f
      rw [hb] at h
      simpa [run_map] using h

theorem mapperFor_schema (d : Descriptor) (f : Factory) :
    (run (mapperFor d) f).2.schema = f.schema :=
  cachedOrBuild_schema d.ops (some d) f

theorem createOrGet_schema (t : Ty) (f : Factory) :
    (run (createOrGet t) f).2.schema = f.schema := by
  unfold createOrGet
  rw [run_bind_ok (rfl : run schemaM f = (.ok f.schema, f))]
  exact cachedOrBuild_schema _ _ f

/-! ## Kept mappers -/

/-- A mapper found in some kept mappers is found the same once more are kept after them. -/
theorem lookup_of_prefix {c c' : List (Ty × Mapper)} (hc : c <+: c') {t : Ty} {m : Mapper}
    (h : c.lookup t = some m) : c'.lookup t = some m := by
  obtain ⟨rest, rfl⟩ := hc
  rw [List.lookup_append, h]
  rfl

/-- The mapper of a record, once looked up or built, is kept under the record's type, after the
mappers kept before. -/
theorem mapperFor_kept {d : Descriptor} {f f' : Factory} {m : Mapper}
    (h : run (mapperFor d) f = (.ok m, f')) :
    f.cache <+: f'.cache ∧ f'.cache.lookup d.ops.ty = some m := by
  unfold mapperFor cachedOrBuild at h
  rw [run_bind_ok (run_get f)] at h
  split at h
  · rename_i m₀ hfound
    cases h
    exact ⟨List.prefix_refl _, hfound⟩
  · rename_i hnone
    obtain ⟨m₁, f₁, hbuild, hrest⟩ := run_bind_eq_ok h
    rw [run_bind_ok (run_modify _ f₁), run_pure] at hrest
    cases hrest
    have hcache : f₁.cache = f.cache := by simpa [hbuild] using build_cache d.ops (some d) f
    refine ⟨hcache ▸ List.prefix_append _ _, ?_⟩
    rw [List.lookup_append, hcache, hnone]
    simp

end Factory

end ObjectMapping
