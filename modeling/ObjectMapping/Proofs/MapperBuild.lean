import ObjectMapping.Proofs.Layout
import ObjectMapping.Proofs.FactoryRun

/-!
# What building a mapper establishes

A record's descriptor numbers its properties in declaration order and places every field, mapped
or skipped, at a position of its own (`Descriptor.WellFormed`, from
`Schema.descriptor?_wellFormed`).
Unless the record is packed, every field also has an offset inside the record, which is what the
raw strategy needs to build an instance field by field; this rests on `Footprint.record_fits`.

A mapper built for a record keeps the record's properties in order, each at the location its
strategy prepared (`Mapper.Built`, from `Factory.build_built`). The proofs follow the build as a
postcondition (`Factory.Yields`): every check that fails throws, and the one path that returns
carries the location.
-/

namespace ObjectMapping

theorem mem_range_zip {α : Type} {l : List α} {j : Nat} {a : α}
    (h : (j, a) ∈ (List.range l.length).zip l) : ∃ hj : j < l.length, l[j] = a := by
  obtain ⟨k, hk, hget⟩ := List.mem_iff_getElem.mp h
  simp only [List.getElem_zip, List.getElem_range, Prod.mk.injEq] at hget
  obtain ⟨rfl, rfl⟩ := hget
  exact ⟨by simpa using hk, rfl⟩

/-- A field of a record that is not packed has an offset, and lies there inside the record. -/
theorem Schema.recordLayout_fits (S : Schema) (r : RecordDecl) (args : List Ty)
    (hpacked : r.packed = false) (j : Nat) (hj : j < (r.fieldsAt args).length) :
    ((S.recordLayout S.depthBound r args).2.getD j none).any (fun o =>
      (S.footprint (r.fieldsAt args)[j].ty).fitsAt o (S.recordLayout S.depthBound r args).1) =
      true := by
  unfold Schema.recordLayout
  simp only [hpacked, Bool.false_eq_true, if_false]
  set fps := (r.fieldsAt args).map fun f => S.footprintOf S.depthBound f.ty
  have hj' : j < fps.length := by simpa [fps] using hj
  obtain ⟨hlen, hfit⟩ := Footprint.record_fits fps j hj'
  have hfp : S.footprint (r.fieldsAt args)[j].ty = fps[j] := by simp [fps, Schema.footprint]
  rw [List.getD_eq_getElem?_getD, List.getElem?_map, List.getElem?_eq_getElem hlen]
  simp only [Option.map_some, Option.getD_some, Option.any_some, hfp]
  rw [List.getD_eq_getElem?_getD, List.getElem?_eq_getElem hlen, Option.getD_some] at hfit
  exact hfit

/-- The shape of the descriptor of a record: its properties are numbered in order and belong to
it, the positions of its properties and skipped fields number its fields once each, and a record
that is not packed has every field at an offset inside it. -/
structure Descriptor.WellFormed (d : Descriptor) : Prop where
  indices : d.properties.map (·.index) = List.range d.properties.length
  owners : ∀ p ∈ d.properties, p.owner = d.ty
  positions : (d.properties.map (·.position) ++ d.excluded.map (·.position)).Perm
    (List.range (Uninit.fieldCount d))
  described : d.exhaustive = true → Strategy.described d = true

theorem Schema.descriptor?_wellFormed {S : Schema} {t : Ty} {d : Descriptor}
    (h : S.descriptor? t = some d) : d.WellFormed := by
  unfold Schema.descriptor? at h
  obtain ⟨⟨r, args⟩, hr, hd⟩ := Option.bind_eq_some_iff.mp h
  simp only [Option.pure_def, Option.some.injEq] at hd
  subst hd
  clear h
  set fields := r.fieldsAt args
  set numbered := (List.range fields.length).zip fields
  set props := numbered.filter (·.2.isProperty)
  set skipped := numbered.filter (!·.2.isProperty)
  -- the properties are the mapped fields numbered in order, the excluded fields the others
  have hindex : ((List.range props.length).zip props).map Prod.fst = List.range props.length :=
    List.map_fst_zip (Nat.le_of_eq List.length_range)
  have hposition : ((List.range props.length).zip props).map Prod.snd = props :=
    List.map_snd_zip (Nat.le_of_eq List.length_range.symm)
  have hkeys : numbered.map Prod.fst = List.range fields.length :=
    List.map_fst_zip (Nat.le_of_eq List.length_range)
  have hsplit : (props ++ skipped).Perm numbered := by
    simpa [props, skipped] using List.filter_append_perm (fun x => x.2.isProperty) numbered
  refine ⟨?_, ?_, ?_, ?_⟩
  · simp only [List.map_map, Function.comp_def, List.length_map, List.length_zip,
      List.length_range, Nat.min_self]
    exact hindex
  · intro p hp
    obtain ⟨x, -, rfl⟩ := List.mem_map.mp hp
    rfl
  · simp only [Uninit.fieldCount, List.map_map, Function.comp_def, List.length_map,
      List.length_zip, List.length_range, Nat.min_self]
    have hprops : ((List.range props.length).zip props).map (fun x => x.2.1) =
        props.map Prod.fst := by
      conv_rhs => rw [← hposition, List.map_map]
      rfl
    have hlen : props.length + skipped.length = fields.length := by
      rw [← List.length_append, hsplit.length_eq, List.length_zip, List.length_range,
        Nat.min_self]
    rw [hprops, hlen, ← List.map_append, ← hkeys]
    exact hsplit.map _
  · intro hex
    have hpacked : r.packed = false := by simpa using hex
    -- every numbered field has an offset that fits the record
    have hfits : ∀ x ∈ numbered, ((S.recordLayout S.depthBound r args).2.getD x.1 none).any
        (fun o => (S.footprint x.2.ty).fitsAt o (S.recordLayout S.depthBound r args).1) = true := by
      rintro ⟨j, f⟩ hx
      obtain ⟨hj, rfl⟩ := mem_range_zip hx
      exact S.recordLayout_fits r args hpacked j hj
    simp only [Strategy.described, Bool.and_eq_true, List.all_eq_true, List.mem_map]
    refine ⟨⟨hex, ?_⟩, ?_⟩
    · rintro _ ⟨⟨index, position, f⟩, hx, rfl⟩
      have hfit := hfits _ ((List.mem_filter.mp (List.of_mem_zip hx).2).1)
      split_ifs <;> exact hfit
    · rintro _ ⟨⟨position, f⟩, hx, rfl⟩
      exact hfits _ ((List.mem_filter.mp hx).1)

/-- The positions of the fields of a well-formed descriptor: distinct, and inside the record. -/
theorem Descriptor.WellFormed.positions_nodup {d : Descriptor} (hwf : d.WellFormed) :
    (d.properties.map (·.position) ++ d.excluded.map (·.position)).Nodup :=
  hwf.positions.nodup_iff.mpr List.nodup_range

theorem Descriptor.WellFormed.position_lt {d : Descriptor} (hwf : d.WellFormed) {j : Nat}
    (hj : j ∈ d.properties.map (·.position) ++ d.excluded.map (·.position)) :
    j < Uninit.fieldCount d :=
  List.mem_range.mp (hwf.positions.mem_iff.mp hj)

/-- The properties of a well-formed descriptor are numbered by their places. -/
theorem Descriptor.WellFormed.index_getElem {d : Descriptor} (hwf : d.WellFormed) {k : Nat}
    (hk : k < d.properties.length) : d.properties[k].index = k := by
  have h := congrArg (·[k]?) hwf.indices
  simp only [List.getElem?_map, List.getElem?_range hk] at h
  rw [List.getElem?_eq_getElem hk] at h
  exact Option.some.inj h

/-- The property a descriptor finds is the one standing at that place of its list. -/
theorem Descriptor.getElem?_of_position? {d : Descriptor} {p : PropertyInfo} {i : Nat}
    (h : d.position? p = some i) : d.properties[i]? = some p := by
  obtain ⟨hi, hat, -⟩ := List.idxOf?_eq_some_iff.mp h
  rw [List.getElem?_eq_getElem hi, hat]

/-- A property of a well-formed descriptor is found at its own number: no property before it is
that very one, since each carries its own number. -/
theorem Descriptor.WellFormed.position?_eq {d : Descriptor} (hwf : d.WellFormed)
    {p : PropertyInfo} (hp : p ∈ d.properties) : d.position? p = some p.index := by
  obtain ⟨k, hk, rfl⟩ := List.mem_iff_getElem.mp hp
  rw [hwf.index_getElem hk]
  refine List.idxOf?_eq_some_iff.mpr ⟨hk, rfl, fun j hj heq => ?_⟩
  have hindex := congrArg PropertyInfo.index heq
  rw [hwf.index_getElem (by omega), hwf.index_getElem hk] at hindex
  omega

namespace Strategy

/-- A prepared location belongs to its owner and property, carries the property's number, and
is valid for raw access when raw access prepared it. -/
theorem prepare_ok {s : Strategy} {owner : Descriptor} {p : PropertyInfo} {loc : Location}
    (h : s.prepare owner p = .ok loc) :
    loc.owner = owner ∧ loc.property = p ∧ owner.position? p = some loc.index ∧
      (s = .raw → validRaw loc = true) := by
  unfold prepare at h
  split at h
  · cases h
  · split at h
    · cases h
    · dsimp only at h
      split at h
      · cases h
        exact ⟨rfl, rfl, ‹_›, fun _ => ‹_›⟩
      · cases h
  · cases h
    exact ⟨rfl, rfl, ‹_›, fun h => by cases h⟩

end Strategy

namespace Factory

/-- Compiling a property keeps its information, at the location its strategy prepared. -/
theorem compileProperty_yields (s : Strategy) (owner : Descriptor) (done : List MappedProperty)
    (p : PropertyInfo) :
    Yields (compileProperty s owner done p) fun mp =>
      mp.info = p ∧ s.prepare owner p = .ok mp.location := by
  unfold compileProperty
  refine Yields.bind Yields.trivial fun f _ => ?_
  extract_lets name jp
  have hjp : ∀ r, Yields (jp r) fun mp =>
      mp.info = p ∧ s.prepare owner p = .ok mp.location := by
    intro r
    refine Yields.bind Yields.trivial fun chain _ => ?_
    split
    · rename_i terminal _
      -- the checks of a nested record and of the strategy come before the location
      extract_lets jp₁ jp₂
      have hjp₁ : ∀ r, Yields (jp₁ r) fun mp =>
          mp.info = p ∧ s.prepare owner p = .ok mp.location := by
        intro r
        dsimp only [jp₁]
        split
        · exact Yields.throw
        · rename_i location hloc
          exact Yields.pure ⟨rfl, hloc⟩
      have hjp₂ : ∀ r, Yields (jp₂ r) fun mp =>
          mp.info = p ∧ s.prepare owner p = .ok mp.location := by
        intro r
        dsimp only [jp₂]
        split
        · exact Yields.throw_bind
        · exact hjp₁ ()
      split
      · split
        · exact Yields.throw_bind
        · split
          · exact Yields.throw_bind
          · exact hjp₂ ()
      · exact hjp₂ ()
    · exact Yields.throw
  split
  · exact Yields.throw_bind
  · exact hjp ()

/-- Compiling the properties of a record one after another keeps them in order, each at the
location its strategy prepared. -/
theorem compileAll_yields (s : Strategy) (d : Descriptor) :
    ∀ (ps : List PropertyInfo) (done : List MappedProperty),
      (∀ mp ∈ done, s.prepare d mp.info = .ok mp.location) →
      Yields (ps.foldlM (fun done p => do
          let mp ← compileProperty s d done p
          pure (done ++ [mp])) done) fun all =>
        all.map (·.info) = done.map (·.info) ++ ps ∧
          ∀ mp ∈ all, s.prepare d mp.info = .ok mp.location
  | [], done, hdone => Yields.pure ⟨by simp, hdone⟩
  | p :: ps, done, hdone => by
    rw [List.foldlM_cons]
    refine Yields.bind (Q := fun done' => done'.map (·.info) = done.map (·.info) ++ [p] ∧
        ∀ mp ∈ done', s.prepare d mp.info = .ok mp.location)
      (Yields.bind (compileProperty_yields s d done p) fun mp hmp => Yields.pure ?_)
      fun done' hdone' => ?_
    · refine ⟨by simp [hmp.1], fun q hq => ?_⟩
      rcases List.mem_append.mp hq with hq | hq
      · exact hdone q hq
      · obtain rfl := List.mem_singleton.mp hq
        exact hmp.1 ▸ hmp.2
    · intro g all g' hrun
      obtain ⟨hinfo, hall⟩ := compileAll_yields s d ps done' hdone'.2 g all g' hrun
      exact ⟨by rw [hinfo, hdone'.1, List.append_assoc, List.singleton_append], hall⟩

end Factory

/-- What building the mapper of a record establishes: its properties are the record's, in
declaration order, each at the location its strategy prepared. -/
structure Mapper.Built (m : Mapper) (d : Descriptor) : Prop where
  descriptor : m.descriptor = some d
  info : m.properties.map (·.info) = d.properties
  prepared : ∀ p ∈ m.properties, m.strategy.prepare d p.info = .ok p.location

namespace Factory

theorem build_built {ops : TypeOps} {d : Descriptor} {f f' : Factory} {m : Mapper}
    (h : run (build ops (some d)) f = (.ok m, f')) :
    m.Built d ∧ m.ops = ops ∧ m.strategy = f.strategy := by
  unfold build at h
  obtain ⟨s, f₁, hs, hk⟩ := run_bind_eq_ok h
  have hlock : run lockStrategy f = (.ok f.strategy, { f with locked := true }) := rfl
  rw [hlock] at hs
  obtain ⟨⟩ := hs
  refine (?_ : Yields _ fun m => m.Built d ∧ m.ops = ops ∧ m.strategy = f.strategy) _ m f' hk
  extract_lets jp
  dsimp only
  refine Yields.bind (compileAll_yields f.strategy d d.properties [] (by simp))
    fun props hprops => ?_
  refine Yields.bind Yields.trivial fun _ _ => Yields.bind Yields.trivial fun g _ =>
    Yields.bind Yields.trivial fun _ _ =>
      Yields.pure ⟨⟨rfl, by simpa using hprops.1, hprops.2⟩, rfl, rfl⟩

/-- A new mapper of a record is built for the record's descriptor. -/
theorem create_built {t : Ty} {d : Descriptor} {f f' : Factory} {m : Mapper}
    (h : run (create t) f = (.ok m, f')) (hd : descriptorOf f.schema t = some d) :
    m.Built d ∧ m.ops = f.schema.typeOps t ∧ m.strategy = f.strategy := by
  unfold create at h
  rw [run_bind_ok (x := schemaM) rfl, hd] at h
  exact build_built h

theorem descriptorOf_wellFormed {S : Schema} {t : Ty} {d : Descriptor}
    (hd : descriptorOf S t = some d) : d.WellFormed := by
  unfold descriptorOf at hd
  obtain ⟨o, -, hd⟩ := Option.bind_eq_some_iff.mp hd
  obtain ⟨r, -, hd⟩ := Option.bind_eq_some_iff.mp hd
  exact Schema.descriptor?_wellFormed hd

end Factory

namespace Mapper.Built

variable {m : Mapper} {d : Descriptor}

/-- The location of a property of a built mapper belongs to the record and to the property, and
carries the place of that property in the record's list; under raw access it is valid. -/
theorem location (hb : m.Built d) {p : MappedProperty} (hp : p ∈ m.properties) :
    p.location.owner = d ∧ p.location.property = p.info ∧
      d.properties[p.location.index]? = some p.info ∧
      (m.strategy = .raw → Strategy.validRaw p.location = true) := by
  obtain ⟨howner, hprop, hindex, hraw⟩ := Strategy.prepare_ok (hb.prepared p hp)
  exact ⟨howner, hprop, Descriptor.getElem?_of_position? hindex, hraw⟩

/-- In a well-formed record, the location of a property carries the property's number. -/
theorem location_index (hb : m.Built d) (hwf : d.WellFormed) {p : MappedProperty}
    (hp : p ∈ m.properties) : p.location.index = p.info.index := by
  have hat := (hb.location hp).2.2.1
  obtain ⟨hi, heq⟩ := List.getElem?_eq_some_iff.mp hat
  rw [← heq, hwf.index_getElem hi]

end Mapper.Built

end ObjectMapping
