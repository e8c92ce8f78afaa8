import ObjectMapping.Proofs.WrapperMapper

/-!
# Where registration is required

A factory that requires registration checks it when it compiles a property whose type, once
adapted, is a record (`compileProperty`): a field holding the record, an option or a box of it,
or an adapter giving it. A record held inside a vector, an array or a map is not a property's
terminal type. Its mapper is looked up only when a write or a read reaches an instance of it
(`mapperFor`), and that lookup builds the record's mapper with no check of its own.

* `Descriptor.reachesNoRecord`: no property of a record has a record as its adapted type.
* `compileProperty_unregistered`: a property whose adapted type is a record that is not
  registered fails to compile with a missing mapper, once registration is required.
* `mapperFor_registering`: the lookup of a record that reaches no record directly gives the same
  result whether registration is required and whatever types are registered.
-/

namespace ObjectMapping

/-- No property of the record has a record as its type once adapted: the records it holds, if
any, are inside vectors, arrays or maps. -/
def Descriptor.reachesNoRecord (d : Descriptor) (S : Schema) (r : Registry) : Bool :=
  d.properties.all fun p =>
    (r.resolve S p.ops).toOption.all fun c => c.terminal.value.all (·.kind != .object)

namespace Factory

/-- The factory with registration required or not, and with other registered types. -/
def registering (f : Factory) (req : Bool) (ks : List Ty) : Factory :=
  { f with config := { f.config with requireRegistration := req }, known := ks }

theorem resolveChain_registering (declared : TypeOps) (req : Bool) (ks : List Ty) :
    Commutes (registering · req ks) (resolveChain declared) := by
  unfold resolveChain
  refine Commutes.get_bind (fun _ => rfl) fun f => ?_
  split
  · exact Commutes.throw _
  · split
    · exact Commutes.bind (Commutes.modify fun _ => rfl) fun _ => Commutes.pure _
    · exact Commutes.pure _

/-- A property whose adapted type is a record of no registered type fails to compile with a
missing mapper when registration is required, unless its name clashes first. -/
theorem compileProperty_unregistered {s : Strategy} {owner : Descriptor}
    {done : List MappedProperty} {p : PropertyInfo} {f : Factory} {c : Chain} {o : ValueOps}
    {nested : Ty} (hname : (done.any fun q => q.name == f.naming owner p) = false)
    (hres : f.adapters.resolve f.schema p.ops = .ok c) (hterm : c.terminal.value = some o)
    (hobj : o.kind = .object) (hnested : o.descriptor = some nested)
    (hreq : f.config.requireRegistration = true) (hknown : f.isRegistered nested = false) :
    (run (compileProperty s owner done p) f).1 =
      .error (.config (.missingMapper c.terminal.typeName)) := by
  -- the chain is resolved as the registry gives it, noted in the log or not
  have hchain : ∃ g, run (resolveChain p.ops) f = (.ok c, g) := by
    unfold resolveChain
    rw [run_bind_ok (run_get f)]
    simp only [hres]
    split
    · exact ⟨_, run_bind_ok (run_modify _ f) _⟩
    · exact ⟨f, rfl⟩
  obtain ⟨g, hg⟩ := hchain
  unfold compileProperty
  rw [run_bind_ok (run_get f)]
  simp only [hname, Bool.false_eq_true, if_false]
  rw [run_bind_ok hg]
  simp only [hterm, hobj, hnested, hreq, hknown, beq_self_eq_true, Bool.not_false, Bool.and_self,
    if_true]
  rfl

/-- Compiling a property whose adapted type is not a record reads neither whether registration
is required nor the registered types. -/
theorem compileProperty_registering (s : Strategy) (owner : Descriptor)
    (done : List MappedProperty) (p : PropertyInfo) (f : Factory) (req : Bool) (ks : List Ty)
    (hp : ((f.adapters.resolve f.schema p.ops).toOption.all fun c =>
      c.terminal.value.all (·.kind != .object)) = true) :
    run (compileProperty s owner done p) (f.registering req ks) =
      ((run (compileProperty s owner done p) f).1,
        (run (compileProperty s owner done p) f).2.registering req ks) := by
  unfold compileProperty
  rw [run_bind_ok (run_get _), run_bind_ok (run_get f)]
  have hnaming : (f.registering req ks).naming = f.naming := rfl
  simp only [hnaming]
  split
  · rfl
  · rw [run_bind, run_bind, resolveChain_registering p.ops req ks f]
    rcases hres : run (resolveChain p.ops) f with ⟨e | chain, g⟩
    · rfl
    · rw [resolveChain_ok hres] at hp
      dsimp only
      cases hv : chain.terminal.value with
      | none => rfl
      | some terminal =>
        -- the terminal is no record, so the registration check is skipped on both sides
        have hk : (terminal.kind == Kind.object) = false := by
          simpa [Except.toOption, hv] using hp
        simp only [hk, Bool.false_eq_true, if_false]
        split
        · rfl
        · split <;> rfl

/-- Compiling the properties of a record one after another, none of whose adapted types is a
record, reads nothing of registration. The factory stays as the build locked it. -/
theorem compileAll_registering (s : Strategy) (d : Descriptor) (f : Factory) (req : Bool)
    (ks : List Ty) (hflat : d.reachesNoRecord f.schema f.adapters = true) :
    ∀ (ps : List PropertyInfo), (∀ p ∈ ps, p ∈ d.properties) →
      ∀ (done : List MappedProperty) (g : Factory), Locked f g →
        run (ps.foldlM (fun done p => do
            let mp ← compileProperty s d done p
            pure (done ++ [mp])) done) (g.registering req ks) =
          ((run (ps.foldlM (fun done p => do
              let mp ← compileProperty s d done p
              pure (done ++ [mp])) done) g).1,
            (run (ps.foldlM (fun done p => do
              let mp ← compileProperty s d done p
              pure (done ++ [mp])) done) g).2.registering req ks)
  | [], _, _, _, _ => rfl
  | p :: ps, hps, done, g, hg => by
    have hp : ((g.adapters.resolve g.schema p.ops).toOption.all fun c =>
        c.terminal.value.all (·.kind != .object)) = true := by
      rw [hg.adapters, hg.schema]
      exact List.all_eq_true.mp hflat p (hps p List.mem_cons_self)
    have hrest : ∀ q ∈ ps, q ∈ d.properties := fun q hq => hps q (List.mem_cons_of_mem p hq)
    simp only [List.foldlM_cons, bind_assoc, pure_bind]
    rw [run_bind, run_bind, compileProperty_registering s d done p g req ks hp]
    rcases hrun : run (compileProperty s d done p) g with ⟨e | mp, g'⟩
    · rfl
    · exact compileAll_registering s d f req ks hflat ps hrest (done ++ [mp]) g'
        (by simpa [hrun] using (compileProperty_triple (f := f) s d done p).keeps g hg)

/-- Building the mapper of a record that reaches no record directly reads nothing of
registration. -/
theorem build_registering (ops : TypeOps) (d : Descriptor) (f : Factory) (req : Bool)
    (ks : List Ty) (hflat : d.reachesNoRecord f.schema f.adapters = true) :
    run (build ops (some d)) (f.registering req ks) =
      ((run (build ops (some d)) f).1, (run (build ops (some d)) f).2.registering req ks) := by
  have hlock : run lockStrategy f = (.ok f.strategy, { f with locked := true }) := rfl
  have hlock' : run lockStrategy (f.registering req ks) =
      (.ok f.strategy, { f with locked := true }.registering req ks) := rfl
  unfold build
  rw [run_bind_ok hlock, run_bind_ok hlock']
  dsimp only
  rw [run_bind, run_bind, compileAll_registering f.strategy d f req ks hflat d.properties
    (fun _ h => h) [] _ (Locked.self f)]
  rcases run (d.properties.foldlM (fun done p => do
      let mp ← compileProperty f.strategy d done p
      pure (done ++ [mp])) []) { f with locked := true } with ⟨e | props, g⟩
  · rfl
  · -- the note and the count of builds touch neither registration nor what it changes
    dsimp only
    exact (Commutes.bind (Commutes.modify fun _ => rfl) (fun _ _ => rfl) :
      Commutes (registering · req ks) _) g

/-- Looking up the mapper of a record that reaches no record directly, as a write or a read does
for a record inside a vector, an array or a map, gives the same result whether registration is
required and whatever types are registered. -/
theorem mapperFor_registering (d : Descriptor) (f : Factory) (req : Bool) (ks : List Ty)
    (hflat : d.reachesNoRecord f.schema f.adapters = true) :
    run (mapperFor d) (f.registering req ks) =
      ((run (mapperFor d) f).1, (run (mapperFor d) f).2.registering req ks) := by
  unfold mapperFor cachedOrBuild
  rw [run_bind_ok (run_get _), run_bind_ok (run_get f)]
  have hcache : (f.registering req ks).cache = f.cache := rfl
  rw [hcache]
  split
  · rfl
  · rw [run_bind, run_bind, build_registering d.ops d f req ks hflat]
    rcases run (build d.ops (some d)) f with ⟨e | m, g⟩
    · rfl
    · rfl

end Factory

/-- `Point` of the catalogue holds no record: a fresh factory that requires registration, with no
type registered, looks up its mapper as a factory that does not require it. -/
theorem point_lookup_ignores_registration :
    ∃ d, Catalogue.schema.descriptor? Catalogue.point = some d ∧
      Factory.run (Factory.mapperFor d)
          (({ schema := Catalogue.schema } : Factory).registering true []) =
        ((Factory.run (Factory.mapperFor d) { schema := Catalogue.schema }).1,
          (Factory.run (Factory.mapperFor d) { schema := Catalogue.schema }).2.registering true []) := by
  obtain ⟨d, hd, hflat⟩ := (Option.any_eq_true _ _).mp
    (by decide +kernel : (Catalogue.schema.descriptor? Catalogue.point).any
      (fun d => d.reachesNoRecord Catalogue.schema {}) = true)
  exact ⟨d, hd, Factory.mapperFor_registering d _ true [] hflat⟩

/-- A fresh factory of the catalogue that requires registration, with no type registered. -/
def registrationRequired : Factory :=
  { schema := Catalogue.schema, config := { requireRegistration := true } }

/-- `Shape` of the catalogue holds its points in a vector. A factory that requires registration,
with no type registered, builds the mapper of `Shape`, and then the mapper of `Point` that the
write of `points` looks up: nothing in the serialization of a shape misses a mapper. -/
theorem shape_points_built_unregistered :
    ∃ d m g m' g', Catalogue.schema.descriptor? Catalogue.point = some d ∧
      Factory.run (Factory.createOrGet (Catalogue.declared "Shape")) registrationRequired =
        (.ok m, g) ∧
      g.config.requireRegistration = true ∧ g.isRegistered Catalogue.point = false ∧
      Factory.run (Factory.mapperFor d) g = (.ok m', g') := by
  obtain ⟨m, g, hm⟩ := Factory.run_ok_of_isOk
    (x := Factory.createOrGet (Catalogue.declared "Shape")) (f := registrationRequired)
    (by decide +kernel)
  -- the checks on the factory the first lookup leaves are computed from the start
  have hcheck : ((Factory.run (Factory.createOrGet (Catalogue.declared "Shape"))
      registrationRequired).2.config.requireRegistration &&
      !(Factory.run (Factory.createOrGet (Catalogue.declared "Shape"))
        registrationRequired).2.isRegistered Catalogue.point &&
      (Catalogue.schema.descriptor? Catalogue.point).any (fun d =>
        (Factory.run (Factory.mapperFor d) (Factory.run (Factory.createOrGet
          (Catalogue.declared "Shape")) registrationRequired).2).1.isOk)) = true := by
    decide +kernel
  rw [hm] at hcheck
  simp only [Bool.and_eq_true, Bool.not_eq_true'] at hcheck
  obtain ⟨⟨hreq, hknown⟩, hpoint⟩ := hcheck
  obtain ⟨d, hd, hok⟩ := (Option.any_eq_true _ _).mp hpoint
  obtain ⟨m', g', hm'⟩ := Factory.run_ok_of_isOk hok
  exact ⟨d, m, g, m', g', hd, hm, hreq, hknown, hm'⟩

end ObjectMapping
