import ObjectMapping.Proofs.StrategyReads
import ObjectMapping.Proofs.DepthGuard
import ObjectMapping.Proofs.ValueMap
import ObjectMapping.Proofs.ChainComposition
import ObjectMapping.Proofs.JsonScan

/-!
# Raw and checked access differ only in fresh records

Take a record type whose reach is laid out field by field (`Schema.SafeType`), and two
factories that differ only in their strategy (`Factory.Twins`). Under raw and under checked
access:

* writing any instance of the type gives the same result and the same output: the value of a
  property does not depend on how the strategy reaches the field (`Mapper.readProperty_twins`),
  and every object the format hands back belongs to a record the type reaches
  (`Schema.leads_of_mem_objects`), whose mapper the two factories build alike;
* reading a value, into a fresh instance or into an existing one, gives what `decodeBy` gives
  with the same strategy (`Mapper.readValue_twins`): every property is written at its place, and
  the strategy only makes and finishes the fresh records.

`Mapper.write_twins` states the first; `raw_and_checked_compare` compares the readings of the two
strategies that the second leaves.
-/

namespace ObjectMapping

open Json

/-! ## The records the objects of a value belong to -/

theorem Value.mem_objectsEntries {r : ObjectRef} :
    ∀ {es : List (String × Value)}, r ∈ Value.objectsEntries es ↔ ∃ kv ∈ es, r ∈ kv.2.objects := by
  intro es
  induction es with
  | nil => simp [Value.objectsEntries]
  | cons kv es ih => simp [Value.objectsEntries, ih]

namespace Schema

theorem Leads.of_unbox {S : Schema} {d : Descriptor} {t : Ty} (h : S.Leads (unbox t) d) :
    S.Leads t d := by
  induction t with
  | boxed t ih => exact .boxed (ih h)
  | _ => exact h

/-- The objects of a map built from entries are objects of the entries' values. -/
theorem objects_map_ofList {r : ObjectRef} {es : List (String × Value)}
    (h : r ∈ (Value.map (ValueMap.ofList es)).objects) : r ∈ Value.objectsEntries es := by
  cases hm : ValueMap.ofList es with
  | ofEntries es' =>
    rw [hm, Value.objects, Value.mem_objectsEntries] at h
    obtain ⟨kv, hkv, hr⟩ := h
    have hmem : kv ∈ (ValueMap.ofList es).entries := by
      rw [hm]
      exact hkv
    exact Value.mem_objectsEntries.mpr ⟨kv, ValueMap.mem_entries_ofList hmem, hr⟩

theorem objects_intValue (w : IntType) (n : Int) : (intValue w n).objects = [] := by
  unfold intValue
  split <;> rfl

variable (S : Schema) (owned : Bool) (place : Identity)

/-- An integer is written as a number, or as `null`, whatever the type. -/
theorem objects_valueOf_int (t : Ty) (n : Int) : (S.valueOf owned t (.int n) place).objects = [] := by
  rw [valueOf.eq_def]
  generalize unbox t = u
  cases u <;> simp [objects_intValue] <;> split <;> simp [objects_intValue, Value.objects]

/-- The data of a record is written as an object of the type under the boxes, whatever the
type. -/
theorem valueOf_record_unbox (t : Ty) (fields : List Datum) :
    ∃ here, S.valueOf owned t (.record fields) place =
      .object ⟨unbox t, .record fields, here, owned⟩ := by
  rw [valueOf.eq_def]
  generalize unbox t = u
  cases u <;> exact ⟨_, rfl⟩

variable {S owned}

/-- Every record an object in the value of a datum of type `t` belongs to is one that `t` leads
to, whatever the datum: an object is made only from the data of a record, as the type around it
says, or taken from a value map. The induction follows `valueOf` and its lists and entries. -/
theorem leads_of_mem_objects {r : ObjectRef} {d : Descriptor} (hd : S.descriptor? r.ty = some d)
    (t : Ty) (x : Datum) (place : Identity) :
    r ∈ (S.valueOf owned t x place).objects → S.Leads t d := by
  apply Schema.valueOf.induct S owned
    (fun t x place => r ∈ (S.valueOf owned t x place).objects → S.Leads t d)
    (fun t kvs place i => r ∈ Value.objectsEntries (S.entriesOf owned t kvs place i) →
      S.Leads t d)
    (fun t items place i => r ∈ Value.objectsList (S.valuesOf owned t items place i) →
      S.Leads t d)
  case case1 | case2 | case6 | case7 | case8 | case9 | case10 =>
    -- a scalar or an absent option holds no object
    intro t place x hu hr
    rw [valueOf.eq_def, hu] at hr
    simp [Value.objects] at hr
  case case3 | case4 | case5 | case19 | case20 =>
    intros
    rename_i hr
    simp [objects_valueOf_int] at hr
  case case11 =>
    intro t place t₁ x hu ih hr
    rw [valueOf.eq_def, hu] at hr
    exact Leads.of_unbox (hu ▸ .option (ih hr))
  case case12 =>
    intro t place t₁ items hu ih hr
    rw [valueOf.eq_def, hu] at hr
    exact Leads.of_unbox (hu ▸ .vec (ih hr))
  case case13 =>
    intro t place t₁ n items hu ih hr
    rw [valueOf.eq_def, hu] at hr
    exact Leads.of_unbox (hu ▸ .array (ih hr))
  case case14 =>
    intro t place v kvs hu ih hr
    rw [valueOf.eq_def, hu] at hr
    exact Leads.of_unbox (hu ▸ .sortedMap (ih (objects_map_ofList hr)))
  case case15 =>
    intro t place v kvs hu ih hr
    rw [valueOf.eq_def, hu] at hr
    exact Leads.of_unbox (hu ▸ .hashMap (ih (objects_map_ofList hr)))
  case case16 =>
    intro t place v kvs hu ih hr
    rw [valueOf.eq_def, hu] at hr
    exact Leads.of_unbox (hu ▸ .fixedMap (ih (objects_map_ofList hr)))
  case case17 | case18 =>
    -- a value map can hold an object of any record
    intro t place m hu _ _
    exact Leads.of_unbox (hu ▸ .valueMap hd)
  case case21 =>
    intro t place fields hr
    obtain ⟨here, hval⟩ := valueOf_record_unbox S owned place t fields
    rw [hval] at hr
    simp only [Value.objects, List.mem_singleton] at hr
    subst hr
    exact Leads.of_unbox (.record hd)
  case case22 =>
    -- no other pattern of the value matches: the value is null
    intros
    rename_i hr
    rw [valueOf.eq_def] at hr
    split at hr <;> simp_all [Value.objects]
  case case23 | case25 =>
    intro t place i hr
    simp [Value.objectsList, Value.objectsEntries, valuesOf, entriesOf] at hr
  case case24 =>
    intro t x xs place i ih ihs hr
    simp only [valuesOf, Value.objectsList, List.mem_append] at hr
    exact hr.elim ih ihs
  case case26 =>
    intro t k x rest place i ih ihs hr
    simp only [entriesOf, Value.objectsEntries, List.mem_append] at hr
    exact hr.elim ih ihs

end Schema

/-! ## The value of a property under either strategy -/

namespace Chain

/-- Adapting along adapters ends at the type the last one produces. -/
theorem ty_foldlM_adaptInstance :
    ∀ (as : List Adapter) {x y : Instance},
      as.foldlM (fun v (a : Adapter) => a.adaptInstance v) x = .ok y → y.ty = reach x.ty as
  | [], x, y, h => by
    cases h
    rfl
  | a :: as, x, y, h => by
    rw [List.foldlM_cons] at h
    obtain ⟨x', hx', h⟩ := bind_eq_ok.mp h
    have hty : x'.ty = a.output := by
      unfold Adapter.adaptInstance at hx'
      split at hx'
      · obtain ⟨_, -, rfl⟩ := map_eq_ok.mp hx'
        rfl
      · cases hx'
    rw [ty_foldlM_adaptInstance as h, hty]
    rfl

/-- An adapted instance is of the type the chain's adapters lead to, from wherever they start. -/
theorem ty_adapt {c : Chain} {x y : Instance} (h : c.adapt x = .ok y) (t : Ty) :
    y.ty = reach t c.adapters := by
  unfold adapt at h
  split at h
  · cases h
  · rename_i a rest hcons
    obtain ⟨first, hfirst, h⟩ := bind_eq_ok.mp h
    have hty : first.ty = a.output := by
      unfold Adapter.adaptInstance at hfirst
      split at hfirst
      · obtain ⟨_, -, rfl⟩ := map_eq_ok.mp hfirst
        rfl
      · cases hfirst
    rw [ty_foldlM_adaptInstance rest h, hty, hcons]
    rfl

end Chain

namespace Mapper

variable {S : Schema} {reg : Registry} {m : Mapper} {d : Descriptor} {p : MappedProperty}
  {x : Instance}

theorem Sound.mem_info (hm : m.Sound S reg d) (hp : p ∈ m.properties) : p.info ∈ d.properties := by
  rw [← hm.built.info]
  exact List.mem_map_of_mem hp

/-- A sound mapper's owner check passes on every instance of its record, under either strategy. -/
theorem Sound.checkOwner_ok (hm : m.Sound S reg d) (hp : p ∈ m.properties) (hx : x.ty = d.ty) :
    m.strategy.checkOwner p.location x = .ok () := by
  obtain ⟨howner, hprop, -, hvalid⟩ := hm.built.location hp
  cases hs : m.strategy with
  | raw =>
    rw [hs] at hvalid
    simp [Strategy.checkOwner, Strategy.checkRaw, hvalid rfl, howner, hx]
  | checked =>
    simp [Strategy.checkOwner, hprop, hm.wellFormed.owners _ (hm.mem_info hp), hx]

theorem MappedProperty.chain_of_shape {p₁ p₂ : MappedProperty} (h : p₁.shape = p₂.shape) :
    p₁.chain = p₂.chain := by
  rw [← MappedProperty.shape_chain p₁, h, MappedProperty.shape_chain]

/-- The field a location reaches, once the owner check has passed. -/
theorem reference_of_checkOwner {s : Strategy} {loc : Location}
    (h : s.checkOwner loc x = .ok ()) :
    s.reference loc x =
      .ok ⟨loc.property.ops.ty, x.datum.field loc.property.position,
        .part x.identity loc.property.position⟩ := by
  simp [Strategy.reference, h]

/-- The field a location reaches is of the property's type. -/
theorem ty_of_reference {s : Strategy} {loc : Location} {y : Instance}
    (h : s.reference loc x = .ok y) : y.ty = loc.property.ops.ty := by
  obtain ⟨_, -, h⟩ := bind_eq_ok.mp h
  cases h
  rfl

/-- Twin mappers of a record read every property of an instance of the record alike: both owner
checks pass, and what follows reads only the property and its adapters. -/
theorem readProperty_twins {s₁ s₂ : Strategy} {m₁ m₂ : Mapper} (hm : Mapper.Twins S reg s₁ s₂ m₁ m₂)
    (hd : m₁.descriptor = some d) {p₁ p₂ : MappedProperty} (hp₁ : p₁ ∈ m₁.properties)
    (hp₂ : p₂ ∈ m₂.properties) (hsh : p₁.shape = p₂.shape) (hx : x.ty = d.ty) (S' : Schema) :
    readProperty S' m₁ p₁ x = readProperty S' m₂ p₂ x := by
  have hd₂ : m₂.descriptor = some d := (Mapper.shape_eq_iff.mp hm.shape).2.1 ▸ hd
  have hsound₁ := hm.soundLeft d hd
  have hsound₂ := hm.soundRight d hd₂
  obtain ⟨-, hprop₁, -, -⟩ := hsound₁.built.location hp₁
  obtain ⟨-, hprop₂, -, -⟩ := hsound₂.built.location hp₂
  unfold readProperty Strategy.getter
  rw [reference_of_checkOwner (hsound₁.checkOwner_ok hp₁ hx),
    reference_of_checkOwner (hsound₂.checkOwner_ok hp₂ hx), hprop₁, hprop₂,
    MappedProperty.info_of_shape hsh, MappedProperty.chain_of_shape hsh]

/-- Every object in the value of a property of a sound mapper belongs to a record laid out
field by field: the value is that of the property's type, or of the terminal type of its
adapters. -/
theorem Sound.safe_of_readProperty (hm : m.Sound S reg d) (hp : p ∈ m.properties) {raw : Value}
    (hread : readProperty S m p x = .ok raw) {r : ObjectRef} (hr : r ∈ raw.objects)
    {d' : Descriptor} (hd' : S.descriptor? r.ty = some d') : S.SafeRecord reg d' := by
  obtain ⟨-, hprop, -, -⟩ := hm.built.location hp
  unfold readProperty at hread
  split at hread
  · -- the field's own value, of the property's type
    unfold Strategy.getter at hread
    obtain ⟨field, hfield, hread⟩ := bind_eq_ok.mp hread
    split at hread
    · cases hread
      have hlead := Schema.leads_of_mem_objects hd' _ _ _ hr
      rw [ty_of_reference hfield, hprop] at hlead
      exact hm.safe.field (hm.mem_info hp) d' hlead
    · cases hread
  · -- the adapted value, of the terminal type of the chain the registry resolves
    obtain ⟨field, -, hread⟩ := bind_eq_ok.mp hread
    obtain ⟨adapted, hadapt, hread⟩ := bind_eq_ok.mp hread
    cases hread
    have hlead := Schema.leads_of_mem_objects hd' _ _ _ hr
    have hchain := hm.chains p hp
    rw [Chain.ty_adapt hadapt p.info.ops.ty, (Registry.resolve_linked hchain).2.1] at hlead
    exact hm.safe.adapted (hm.mem_info hp) hchain d' hlead

end Mapper

/-! ## Writing on twin factories -/

/-- A format hands back to the mapper only objects of the value it writes. -/
def Format.HandsBackObjects {σ : Type} (F : Format σ) : Prop :=
  ∀ name kind v depth r, Piece.nested r ∈ F.writeValue name kind v depth → r ∈ v.objects

theorem JsonFormat.handsBackObjects : JsonFormat.format.HandsBackObjects :=
  fun name kind v depth r h => (JsonFormat.nested_mem_writeValue r name kind v depth).mp h

/-- The states of two writes: twin factories, and the same output so far. -/
def WriteTwins (S : Schema) (reg : Registry) (s₁ s₂ : Strategy) {σ : Type} (w₁ w₂ : Factory × σ) :
    Prop :=
  Factory.Twins S reg s₁ s₂ w₁.1 w₂.1 ∧ w₁.2 = w₂.2

theorem Mapper.ownerName_of_shape {m₁ m₂ : Mapper} (h : m₁.shape = m₂.shape) :
    m₁.ownerName = m₂.ownerName := by
  obtain ⟨hops, hdesc, -, -⟩ := Mapper.shape_eq_iff.mp h
  simp [Mapper.ownerName, hops, hdesc]

section Writes

open HoldsFactory

variable {S : Schema} {reg : Registry} {s₁ s₂ : Strategy} {σ α β : Type}

/-- A factory operation inside a write: twin factories run it alike, and the output stays. -/
theorem RunsAgree.factory {R : α → β → Prop} {x : FactoryM α} {y : FactoryM β}
    (h : RunsAgree (Factory.Twins S reg s₁ s₂) R x y) :
    RunsAgree (WriteTwins S reg s₁ s₂) R (WriteM.factory x : WriteM σ α) (WriteM.factory y) := by
  rintro ⟨f₁, o₁⟩ ⟨f₂, o₂⟩ ⟨ht, ho⟩
  obtain ⟨hout, hrel⟩ := h f₁ f₂ ht
  simp only [run_writeM, WriteM.run_factory]
  exact ⟨hout, hrel, ho⟩

theorem RunsAgree.emit (g : σ → σ) :
    RunsAgree (WriteTwins S reg s₁ s₂) Eq (WriteM.emit g) (WriteM.emit g) :=
  (RunsAgree.modify fun _ _ hw => ⟨hw.1, congrArg g hw.2⟩).mono fun _ _ _ => rfl

/-- A call of the format reads only the output, which twins share. -/
theorem RunsAgree.call (c : FormatCall σ) :
    RunsAgree (WriteTwins S reg s₁ s₂) Eq (WriteM.call c) (WriteM.call c) := by
  rintro ⟨f₁, o₁⟩ ⟨f₂, o₂⟩ ⟨ht, ho⟩
  cases ho
  simp only [run_writeM, WriteM.run_call, Outcome.eq_iff]
  exact ⟨trivial, ht, rfl⟩

namespace Mapper

variable (F : Format σ) (S reg s₁ s₂)

/-- Writing an object handed back at depth `depth`, under the limit `limit`, agrees on twins
when the object's record is laid out field by field. -/
def NestedTwins (limit depth : Nat) : Prop :=
  ∀ r : ObjectRef, (∀ d, S.descriptor? r.ty = some d → S.SafeRecord reg d) →
    RunsAgree (WriteTwins S reg s₁ s₂) Eq (serializeNested F limit depth r)
      (serializeNested F limit depth r)

/-- Writing the frame of an instance with twin mappers at depth `depth`, under the limit
`limit`, agrees on twins. -/
def ObjectTwins (limit depth : Nat) : Prop :=
  ∀ m₁ m₂ x, Mapper.Twins S reg s₁ s₂ m₁ m₂ →
    RunsAgree (WriteTwins S reg s₁ s₂) Eq (writeObject F limit depth m₁ x)
      (writeObject F limit depth m₂ x)

variable {F S reg s₁ s₂} {limit depth : Nat}

theorem writePieces_twins (hn : NestedTwins S reg s₁ s₂ F limit depth) :
    ∀ ps : List (Piece σ),
      (∀ r, Piece.nested r ∈ ps → ∀ d, S.descriptor? r.ty = some d → S.SafeRecord reg d) →
      RunsAgree (WriteTwins S reg s₁ s₂) Eq (writePieces F limit depth ps)
        (writePieces F limit depth ps)
  | [], _ => by
    rw [writePieces]
    exact RunsAgree.pure rfl
  | .emit g :: ps, h => by
    rw [writePieces]
    exact (RunsAgree.emit g).bind fun _ _ _ =>
      writePieces_twins hn ps fun r hr => h r (List.mem_cons_of_mem _ hr)
  | .fail e :: _, _ => by
    rw [writePieces]
    exact RunsAgree.throw e
  | .nested r :: ps, h => by
    rw [writePieces]
    exact (hn r (h r List.mem_cons_self)).bind fun _ _ _ =>
      writePieces_twins hn ps fun r hr => h r (List.mem_cons_of_mem _ hr)

theorem MappedProperty.kind_of_shape {p₁ p₂ : MappedProperty} (h : p₁.shape = p₂.shape) :
    p₁.kind = p₂.kind := by
  rw [← MappedProperty.shape_kind p₁, h, MappedProperty.shape_kind]

theorem MappedProperty.name_of_shape {p₁ p₂ : MappedProperty} (h : p₁.shape = p₂.shape) :
    p₁.name = p₂.name := by
  rw [← MappedProperty.shape_name p₁, h, MappedProperty.shape_name]

/-- Writing the properties of an instance of a record with twin mappers agrees on twins: each
property has the same value under both, and the objects the format hands back for it belong to
records laid out field by field. -/
theorem writeProperties_twins (hF : F.HandsBackObjects) (hn : NestedTwins S reg s₁ s₂ F limit depth)
    {m₁ m₂ : Mapper} (hm : Mapper.Twins S reg s₁ s₂ m₁ m₂) {d : Descriptor}
    (hd : m₁.descriptor = some d) {x : Instance} (hx : x.ty = d.ty) (last : Nat) :
    ∀ (i : Nat) (ps₁ ps₂ : List MappedProperty),
      List.Forall₂ (fun p₁ p₂ => p₁ ∈ m₁.properties ∧ p₂ ∈ m₂.properties ∧ p₁.shape = p₂.shape)
        ps₁ ps₂ →
      RunsAgree (WriteTwins S reg s₁ s₂) Eq (writeProperties F limit depth m₁ x S last i ps₁)
        (writeProperties F limit depth m₂ x S last i ps₂) := by
  intro i ps₁ ps₂ hps
  induction hps generalizing i with
  | nil =>
    rw [writeProperties, writeProperties]
    exact RunsAgree.pure rfl
  | @cons p₁ p₂ ps₁ ps₂ hp hps ih =>
    obtain ⟨hp₁, hp₂, hsh⟩ := hp
    rw [writeProperties, writeProperties, ← readProperty_twins hm hd hp₁ hp₂ hsh hx S,
      ← ownerName_of_shape hm.shape, ← MappedProperty.info_of_shape hsh,
      ← MappedProperty.kind_of_shape hsh, ← MappedProperty.name_of_shape hsh]
    cases hread : readProperty S m₁ p₁ x with
    | error e => exact RunsAgree.throw_bind _
    | ok raw =>
      -- the value's pieces, under a handler that names the property, then its separator
      dsimp only
      simp only [pure_bind]
      refine (RunsAgree.tryCatch (writePieces_twins hn _ fun r hr d' hd' => ?_)
        fun e => RunsAgree.throw _).bind fun _ _ _ => (RunsAgree.call _).bind fun _ _ _ =>
          ih (i + 1)
      exact (hm.soundLeft d hd).safe_of_readProperty hp₁ hread (hF _ _ _ _ r hr) hd'

/-- Writing the frame of an instance with twin mappers agrees on twins once writing the objects
handed back does. A mapper of no record has no properties, and so writes an empty frame. -/
theorem objectTwins_of_nestedTwins (hF : F.HandsBackObjects)
    (hn : NestedTwins S reg s₁ s₂ F limit depth) : ObjectTwins S reg s₁ s₂ F limit depth := by
  intro m₁ m₂ x hm
  obtain ⟨hops, hdesc, hprops, -⟩ := Mapper.shape_eq_iff.mp hm.shape
  rw [writeObject, writeObject]
  simp only [typeName, ← hops]
  split
  · exact RunsAgree.throw _
  · rename_i hty
    refine RunsAgree.get_bind fun w₁ w₂ hw => ?_
    rw [hw.1.schema, hw.1.schema_right]
    have hlen : m₁.properties.length = m₂.properties.length := by
      simpa using congrArg List.length hprops
    rw [← hlen]
    refine (RunsAgree.call _).bind fun _ _ _ => (?_ : RunsAgree _ Eq _ _).bind fun _ _ _ =>
      RunsAgree.call _
    cases hd : m₁.descriptor with
    | none =>
      have hnil₁ := hm.bare hd
      have hnil₂ : m₂.properties = [] := by
        rw [hnil₁, List.map_nil] at hprops
        exact List.map_eq_nil_iff.mp hprops.symm
      rw [hnil₁, hnil₂, writeProperties, writeProperties]
      exact RunsAgree.pure rfl
    | some d =>
      have hx : x.ty = d.ty := by
        simpa [(hm.soundLeft d hd).ty] using hty
      exact writeProperties_twins hF hn hm hd hx _ 0 _ _ (forall₂_shape hprops)

/-- Writing an object handed back agrees on twins once writing a frame one level deeper does:
both look up the same record, and the mappers they get for it are twins. -/
theorem nestedTwins_of_objectTwins
    (ho : ¬ limit < depth + 1 → ObjectTwins S reg s₁ s₂ F limit (depth + 1)) :
    NestedTwins S reg s₁ s₂ F limit depth := by
  intro r hr
  unfold serializeNested
  split
  · exact RunsAgree.throw _
  · rename_i hlim
    refine RunsAgree.get_bind fun w₁ w₂ hw => ?_
    rw [hw.1.schema, hw.1.schema_right]
    dsimp only
    split
    · exact RunsAgree.throw _
    · rename_i d hd
      have hdecl : S.descriptor? d.ty = some d := by
        rw [Schema.descriptor?_ty hd]
        exact hd
      exact (RunsAgree.factory (Factory.mapperFor_twins (Schema.descriptor?_wellFormed hd)
        (hr d hd) hdecl)).bind fun m₁ m₂ hm => ho hlim m₁ m₂ r.instance hm.1

variable (S reg s₁ s₂) in
/-- Every frame written with twin mappers agrees on twins. The recursion goes one level deeper
at each object handed back, and stops at the limit. -/
theorem objectTwins (hF : F.HandsBackObjects) (limit depth : Nat) :
    ObjectTwins S reg s₁ s₂ F limit depth :=
  objectTwins_of_nestedTwins hF <|
    nestedTwins_of_objectTwins fun _ => objectTwins hF limit (depth + 1)
termination_by limit - depth

/-- Writing an instance with twin mappers agrees on twins, when every record the instance's type
leads to is laid out field by field. -/
theorem write_twins (hF : F.HandsBackObjects) {m₁ m₂ : Mapper}
    (hm : Mapper.Twins S reg s₁ s₂ m₁ m₂) (hsafe : S.SafeType reg m₁.ops.ty) (x : Instance) :
    RunsAgree (WriteTwins S reg s₁ s₂) Eq (write F m₁ x) (write F m₂ x) := by
  obtain ⟨hops, hdesc, -, -⟩ := Mapper.shape_eq_iff.mp hm.shape
  unfold write
  refine RunsAgree.get_bind fun w₁ w₂ hw => ?_
  have hconfig : w₁.1.config = w₂.1.config := (Factory.shape_eq_iff.mp hw.1.shape).2.2.2.2.1
  simp only [typeName]
  rw [← hconfig, ← hdesc, ← hops]
  refine (RunsAgree.call _).bind fun _ _ _ => ?_
  cases m₁.descriptor with
  | some d => exact (objectTwins S reg s₁ s₂ hF _ 0 m₁ m₂ x hm).bind fun _ _ _ => RunsAgree.call _
  | none =>
    cases m₁.ops.value with
    | none => exact RunsAgree.throw_bind _
    | some ops =>
      -- a value of another type, whose objects the type leads to
      refine RunsAgree.get_bind fun w₁' w₂' hw' => ?_
      rw [hw'.1.schema, hw'.1.schema_right]
      split
      · exact RunsAgree.throw_bind _
      · rename_i hty
        have hx : x.ty = m₁.ops.ty := by simpa using hty
        refine (writePieces_twins (nestedTwins_of_objectTwins fun _ =>
          objectTwins S reg s₁ s₂ hF _ 1) _ fun r hr d' hd' => hsafe d' ?_).bind fun _ _ _ =>
            RunsAgree.call _
        rw [← hx]
        exact Schema.leads_of_mem_objects hd' _ _ _ (hF _ _ _ _ r hr)

end Mapper

end Writes

/-! ## Fresh factories -/

section Fresh

variable {f : Factory} {t : Ty} {d : Descriptor}

/-- A fresh factory under one strategy and under another are twins. -/
theorem Factory.fresh_twins (hfresh : f.cache = []) (s s' : Strategy) :
    Factory.Twins f.schema f.adapters s s' { f with strategy := s } { f with strategy := s' } :=
  have hkept : ∀ s'' : Strategy, ({ f with strategy := s'' } : Factory).Kept := fun _ k m h => by
    simp [hfresh] at h
  ⟨rfl, rfl, rfl, rfl, rfl, hkept s, hkept s'⟩

/-- The mapper a fresh factory makes for a record type is of that type. -/
theorem Factory.createOrGet_fresh_ty (hfresh : f.cache = []) (hd : descriptorOf f.schema t = some d)
    {m : Mapper} (h : (run (createOrGet t) f).1 = .ok m) : m.ops.ty = t := by
  have hrun : Factory.run (createOrGet t) f = (.ok m, (Factory.run (createOrGet t) f).2) :=
    Prod.ext h rfl
  exact (createOrGet_built (by simp [hfresh]) hrun hd).2.1

end Fresh

/-- An integer leads to no record. -/
theorem Schema.not_leads_int {S : Schema} {w : IntType} {d : Descriptor} : ¬ S.Leads (.int w) d := by
  intro h
  cases h with
  | record h => simp [Schema.descriptor?, Schema.record?, Ty.head?] at h
  | carried h =>
    simp only [Factory.descriptorOf, Schema.valueOps?, Schema.intOps] at h
    cases hk : w.kind? <;> simp [hk] at h

end ObjectMapping
