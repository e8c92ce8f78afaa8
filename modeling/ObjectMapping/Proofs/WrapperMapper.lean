import ObjectMapping.Proofs.FactoryRuns
import ObjectMapping.Proofs.ObjectJson

/-!
# The mapper of an option or a box of a record

An option or a box of a record is written as the record, so its value representation carries
the record's descriptor (`Schema.valueOps?`). The mapper a factory builds for a type takes that
descriptor as its own (`descriptorOf`): for an option or a box of a record, the mapper's type is
the wrapper while its descriptor and properties are the record's. The owner check of every
property then expects the record, and writing an instance of the wrapper fails at the record's
first property.

* `Ty.payload`: the type under a type's options and boxes. `descriptorOf_ty`: the descriptor a
  type carries is of its payload, so it is of the type itself exactly when the type is no
  option or box of a record.
* `Mapper.Built.checkOwner_of_ne`: a built mapper's owner check refuses an instance of any
  other type than the record, with the error of its strategy (`Strategy.ownerError`).
* `Mapper.write_fails_at_first_property`: a write whose first property cannot be read ends
  there, after the opening of the frame.
* `createOrGet_wrapper_write_fails`: the mapper `createOrGet` builds for an option or a box of a
  record with a property writes no instance of its type.
-/

namespace ObjectMapping

/-- The type under a type's options and boxes. -/
def Ty.payload : Ty → Ty
  | .option t => t.payload
  | .boxed t => t.payload
  | t => t

/-- The record whose descriptor a type's value representation carries is the type's payload. -/
theorem Schema.valueOps?_descriptor (S : Schema) {t : Ty} {o : ValueOps} {r : Ty}
    (ho : S.valueOps? t = some o) (hr : o.descriptor = some r) : r = t.payload := by
  induction t generalizing o with
  | option t ih =>
    obtain ⟨o', ho', rfl⟩ := Option.map_eq_some_iff.mp ho
    exact ih ho' hr
  | boxed t ih =>
    obtain ⟨o', ho', rfl⟩ := Option.map_eq_some_iff.mp ho
    exact ih ho' hr
  | named p =>
    simp only [Schema.valueOps?] at ho
    split at ho <;> cases ho
    · cases hr
    · cases hr
      rfl
  | apply g a =>
    simp only [Schema.valueOps?] at ho
    split at ho <;> cases ho
    · cases hr
    · cases hr
      rfl
  | _ =>
    -- no other type carries a descriptor
    simp only [Schema.valueOps?, Schema.intOps] at ho
    first
      | (obtain ⟨_, -, rfl⟩ := Option.map_eq_some_iff.mp ho; cases hr)
      | (cases ho <;> cases hr)

namespace Factory

/-- The descriptor a type carries is of its payload: of the type itself exactly when the type is
no option or box of a record. -/
theorem descriptorOf_ty {S : Schema} {t : Ty} {d : Descriptor} (h : descriptorOf S t = some d) :
    d.ty = t.payload := by
  unfold descriptorOf at h
  obtain ⟨o, ho, h⟩ := Option.bind_eq_some_iff.mp h
  obtain ⟨r, hr, hd⟩ := Option.bind_eq_some_iff.mp h
  rw [Schema.descriptor?_ty hd]
  exact S.valueOps?_descriptor ho hr

/-- A lookup that keeps no mapper of the type succeeds only with a mapper its build gives. -/
theorem cachedOrBuild_miss_built {ops : TypeOps} {descriptor : Option Descriptor} {f g : Factory}
    {m : Mapper} (h : f.cache.lookup ops.ty = none)
    (hm : run (cachedOrBuild ops descriptor) f = (.ok m, g)) :
    ∃ g', run (build ops descriptor) f = (.ok m, g') := by
  rcases hb : run (build ops descriptor) f with ⟨e | m', g'⟩
  · rw [cachedOrBuild_miss_error h hb] at hm
    cases hm
  · rw [cachedOrBuild_miss_ok h hb] at hm
    cases hm
    exact ⟨g', rfl⟩

/-- The mapper `createOrGet` builds for a type it keeps no mapper of is built for the descriptor
the type carries, under the factory's strategy. -/
theorem createOrGet_built {t : Ty} {f g : Factory} {m : Mapper} {d : Descriptor}
    (hnone : f.cache.lookup t = none) (hm : run (createOrGet t) f = (.ok m, g))
    (hd : descriptorOf f.schema t = some d) :
    m.Built d ∧ m.ops.ty = t ∧ m.strategy = f.strategy := by
  rw [createOrGet_run] at hm
  obtain ⟨g', hb⟩ := cachedOrBuild_miss_built hnone hm
  rw [hd] at hb
  obtain ⟨hbuilt, hops, hs⟩ := build_built hb
  exact ⟨hbuilt, by rw [hops]; rfl, hs⟩

/-- An operation whose result is a success gives some value. -/
theorem run_ok_of_isOk {α : Type} {x : FactoryM α} {f : Factory} (h : (run x f).1.isOk = true) :
    ∃ a g, run x f = (.ok a, g) := by
  rcases hrun : run x f with ⟨e | a, g⟩
  · rw [hrun] at h
    cases h
  · exact ⟨a, g, rfl⟩

end Factory

/-- The error of a strategy's owner check for an instance of another type than the record. -/
def Strategy.ownerError : Strategy → Descriptor → MapError
  | .raw, _ => Strategy.wrongOwner
  | .checked, d => .shape (.wrongType d.typeName)

/-- The owner check of a built mapper refuses an instance of any other type than the record. -/
theorem Mapper.Built.checkOwner_of_ne {m : Mapper} {d : Descriptor} (hb : m.Built d)
    (hwf : d.WellFormed) {p : MappedProperty} (hp : p ∈ m.properties) {x : Instance}
    (hx : x.ty ≠ d.ty) : m.strategy.checkOwner p.location x = .error (m.strategy.ownerError d) := by
  obtain ⟨howner, hprop, -, hraw⟩ := hb.location hp
  cases hs : m.strategy with
  | raw =>
    -- raw access first checks the location, which the build made valid
    have hne : (x.ty == p.location.owner.ty) = false := by
      rw [howner]
      exact beq_false_of_ne hx
    simp only [Strategy.checkOwner, Strategy.checkRaw, hraw hs, if_true, hne, Bool.false_eq_true,
      if_false, Strategy.ownerError]
    rfl
  | checked =>
    -- checked access compares with the property's owner, the record
    have hmem : p.info ∈ d.properties := hb.info ▸ List.mem_map_of_mem hp
    have hne : (x.ty == p.location.property.owner) = false := by
      rw [hprop, hwf.owners p.info hmem]
      exact beq_false_of_ne hx
    simp only [Strategy.checkOwner, hne, Bool.false_eq_true, if_false, howner, Strategy.ownerError]
    rfl

namespace Mapper

/-- Reading a property starts with the owner check, adapted or not. -/
theorem readProperty_of_checkOwner {S : Schema} {m : Mapper} {p : MappedProperty} {x : Instance}
    {e : MapError} (h : m.strategy.checkOwner p.location x = .error e) :
    m.readProperty S p x = .error e := by
  unfold readProperty Strategy.getter Strategy.reference
  split <;> simp [h, bind, Except.bind]

/-- A frame whose first property cannot be read opens the object and fails there, the error
attributed to the property. -/
theorem writeObject_fails_at_first_property {σ : Type} (F : Format σ) {L depth : Nat} {m : Mapper}
    {x : Instance} {p : MappedProperty} {ps : List MappedProperty} {e : MapError} (f : Factory)
    (out : σ) (hty : x.ty = m.ops.ty) (hprops : m.properties = p :: ps)
    (he : m.readProperty f.schema p x = .error e) :
    WriteM.run (writeObject F L depth m x) f out =
      WriteM.run (WriteM.call F.writeBeginObject >>= fun _ =>
        throw (e.within m.ownerName p.info.name)) f out := by
  rw [writeObject]
  simp only [hty, bne_self_eq_false, Bool.false_eq_true, if_false]
  rw [WriteM.run_bind_ok (WriteM.run_get f _)]
  rcases hopen : F.writeBeginObject out with ⟨e' | _, o₁⟩
  · have hcall : WriteM.run (WriteM.call F.writeBeginObject) f out = (.error e', f, o₁) := by
      rw [WriteM.run_call, hopen]
    rw [WriteM.run_bind_error hcall, WriteM.run_bind_error hcall]
  · have hcall : WriteM.run (WriteM.call F.writeBeginObject) f out = (.ok (), f, o₁) := by
      rw [WriteM.run_call, hopen]
    rw [WriteM.run_bind_ok hcall, WriteM.run_bind_ok hcall, hprops, writeProperties]
    simp only [he]
    rw [WriteM.run_bind_error (WriteM.run_bind_error (WriteM.run_throw _ f _) _)]
    rfl

/-- A write of a record whose first property cannot be read begins the document, opens the
frame and fails there, the error attributed to the property. -/
theorem write_fails_at_first_property {σ : Type} (F : Format σ) {m : Mapper} {x : Instance}
    {d : Descriptor} {p : MappedProperty} {ps : List MappedProperty} {e : MapError} (f : Factory)
    (out : σ) (hd : m.descriptor = some d) (hty : x.ty = m.ops.ty) (hprops : m.properties = p :: ps)
    (he : m.readProperty f.schema p x = .error e) :
    WriteM.run (m.write F x) f out =
      WriteM.run (WriteM.call F.writeBegin >>= fun _ => WriteM.call F.writeBeginObject >>= fun _ =>
        throw (e.within m.ownerName p.info.name)) f out := by
  unfold write
  rw [WriteM.run_bind_ok (WriteM.run_get f out)]
  simp only [hd]
  rcases hbegin : F.writeBegin out with ⟨e' | _, o₁⟩
  · have hcall : WriteM.run (WriteM.call F.writeBegin) f out = (.error e', f, o₁) := by
      rw [WriteM.run_call, hbegin]
    rw [WriteM.run_bind_error hcall, WriteM.run_bind_error hcall]
  · have hcall : WriteM.run (WriteM.call F.writeBegin) f out = (.ok (), f, o₁) := by
      rw [WriteM.run_call, hbegin]
    rw [WriteM.run_bind_ok hcall, WriteM.run_bind_ok hcall]
    -- the frame fails whether or not it opens, and the end is never called
    have hobject : WriteM.run (writeObject F f.config.maxDepth 0 m x) f o₁ =
        WriteM.run (WriteM.call F.writeBeginObject >>= fun _ =>
          throw (e.within m.ownerName p.info.name)) f o₁ :=
      writeObject_fails_at_first_property F f o₁ hty hprops he
    obtain ⟨e', o₂, hfail⟩ : ∃ e' o₂, WriteM.run (WriteM.call F.writeBeginObject >>= fun _ =>
        throw (e.within m.ownerName p.info.name)) f o₁ = (.error e', f, o₂) := by
      rcases hopen : F.writeBeginObject o₁ with ⟨e' | _, o₂⟩
      · exact ⟨e', o₂, WriteM.run_bind_error (by rw [WriteM.run_call, hopen]) _⟩
      · exact ⟨_, o₂, by rw [WriteM.run_bind_ok (by rw [WriteM.run_call, hopen]), WriteM.run_throw]⟩
    rw [WriteM.run_bind_error (hobject.trans hfail), hfail]

end Mapper

/-- A mapper built for the descriptor of a record, when its type is another, writes no instance
of its type: the first property's owner check refuses it, once the frame is opened. -/
theorem Mapper.Built.write_other_fails {m : Mapper} {d : Descriptor} (hb : m.Built d)
    (hwf : d.WellFormed) (hne : d.ty ≠ m.ops.ty) {p : PropertyInfo} {ps : List PropertyInfo}
    (hprops : d.properties = p :: ps) {σ : Type} (F : Format σ) {x : Instance} (hx : x.ty = m.ops.ty)
    (f : Factory) (out : σ) :
    WriteM.run (m.write F x) f out =
      WriteM.run (WriteM.call F.writeBegin >>= fun _ => WriteM.call F.writeBeginObject >>= fun _ =>
        throw ((m.strategy.ownerError d).within d.ident p.name)) f out := by
  -- the mapper's properties are the record's, so its first one is the record's first
  obtain ⟨mp, mps, hmps, hinfo⟩ : ∃ mp mps, m.properties = mp :: mps ∧ mp.info = p := by
    have h := hb.info
    rw [hprops] at h
    cases hm : m.properties with
    | nil => rw [hm] at h; cases h
    | cons mp mps =>
      rw [hm, List.map_cons] at h
      exact ⟨mp, mps, rfl, (List.cons.inj h).1⟩
  have hcheck := hb.checkOwner_of_ne hwf (hmps ▸ List.mem_cons_self) (hx ▸ Ne.symm hne)
  have hwrite := Mapper.write_fails_at_first_property F f out hb.descriptor hx hmps
    (Mapper.readProperty_of_checkOwner (S := f.schema) hcheck)
  rw [hwrite, hinfo]
  simp only [Mapper.ownerName, hb.descriptor]

/-- The mapper `createOrGet` builds for an option or a box of a record takes the record's
descriptor as its own, which is of the payload and so of another type than the mapper's. With a
record that has a property, it writes no instance of its type: the record's first property
refuses it with the owner check of the factory's strategy, once the document begins and the
frame is opened. -/
theorem createOrGet_wrapper_write_fails {t : Ty} {f g : Factory} {m : Mapper} {d : Descriptor}
    (hnone : f.cache.lookup t = none) (hm : Factory.run (Factory.createOrGet t) f = (.ok m, g))
    (hd : Factory.descriptorOf f.schema t = some d) (hwrap : t.payload ≠ t) {p : PropertyInfo}
    {ps : List PropertyInfo} (hprops : d.properties = p :: ps) {σ : Type} (F : Format σ)
    {x : Instance} (hx : x.ty = t) (f' : Factory) (out : σ) :
    m.ops.ty = t ∧ m.descriptor = some d ∧ d.ty = t.payload ∧
      WriteM.run (m.write F x) f' out =
        WriteM.run (WriteM.call F.writeBegin >>= fun _ => WriteM.call F.writeBeginObject >>= fun _ =>
          throw ((f.strategy.ownerError d).within d.ident p.name)) f' out := by
  obtain ⟨hbuilt, hty, hs⟩ := Factory.createOrGet_built hnone hm hd
  have hdty := Factory.descriptorOf_ty hd
  refine ⟨hty, hbuilt.descriptor, hdty, ?_⟩
  rw [← hs]
  exact hbuilt.write_other_fails (Factory.descriptorOf_wellFormed hd) (by rw [hdty, hty]; exact hwrap)
    hprops F (hx.trans hty.symm) f' out

/-- The descriptor a type of the catalogue carries, read off a computed check: `Point`'s, whose
first property is `x`. -/
theorem point_descriptor_of {t : Ty}
    (h : (Factory.descriptorOf Catalogue.schema t).any
      (fun d => d.ident == "Point" && d.properties.head?.any (·.name == "x")) = true) :
    ∃ d p ps, Factory.descriptorOf Catalogue.schema t = some d ∧ d.ident = "Point" ∧
      d.properties = p :: ps ∧ p.name = "x" := by
  obtain ⟨d, hd, hcheck⟩ := (Option.any_eq_true _ _).mp h
  simp only [Bool.and_eq_true, beq_iff_eq] at hcheck
  obtain ⟨hident, hfirst⟩ := hcheck
  obtain ⟨p, hp, hname⟩ := (Option.any_eq_true _ _).mp hfirst
  obtain ⟨ps, hps⟩ := List.head?_eq_some_iff.mp hp
  exact ⟨d, p, ps, hd, hident, hps, by simpa using hname⟩

/-- `Box<Point>` of the catalogue: the mapper a fresh factory builds for it refuses
`Box::new(Point { x: 1, y: 2 })` at `Point::x`, after the frame is opened. -/
theorem boxed_point_refused :
    ∃ m g, Factory.run (Factory.createOrGet (.boxed Catalogue.point))
        { schema := Catalogue.schema } = (.ok m, g) ∧
      WriteM.run (m.write JsonFormat.format ⟨.boxed Catalogue.point, .record [.int 1, .int 2],
        .created 0⟩) g "" = (.error (Strategy.wrongOwner.within "Point" "x"), g, "\x7b") := by
  obtain ⟨d, p, ps, hd, hident, hprops, hname⟩ :=
    point_descriptor_of (t := .boxed Catalogue.point) (by decide +kernel)
  obtain ⟨m, g, hm⟩ := Factory.run_ok_of_isOk (x := Factory.createOrGet (.boxed Catalogue.point))
    (f := { schema := Catalogue.schema }) (by decide +kernel)
  obtain ⟨-, -, -, hw⟩ := createOrGet_wrapper_write_fails rfl hm hd (by decide) hprops
    JsonFormat.format (x := ⟨.boxed Catalogue.point, .record [.int 1, .int 2], .created 0⟩) rfl g ""
  refine ⟨m, g, hm, ?_⟩
  rw [hw, hident, hname]
  rfl

/-- `Option<Point>` of the catalogue is not written as `Point` is: a fresh factory's mapper for it
fails on `Some(Point { x: 1, y: 2 })` at `Point::x`, where `{"x":1,"y":2}` is expected. -/
theorem option_point_not_serialized :
    ∃ m g, Factory.run (Factory.createOrGet (.option Catalogue.point))
        { schema := Catalogue.schema } = (.ok m, g) ∧
      JsonFormat.serializeText g m ⟨.option Catalogue.point, .some (.record [.int 1, .int 2]),
        .created 0⟩ = .error (Strategy.wrongOwner.within "Point" "x") := by
  obtain ⟨d, p, ps, hd, hident, hprops, hname⟩ :=
    point_descriptor_of (t := .option Catalogue.point) (by decide +kernel)
  obtain ⟨m, g, hm⟩ := Factory.run_ok_of_isOk (x := Factory.createOrGet (.option Catalogue.point))
    (f := { schema := Catalogue.schema }) (by decide +kernel)
  obtain ⟨hbuilt, hty, hs⟩ := Factory.createOrGet_built rfl hm hd
  have hne : d.ty ≠ m.ops.ty := by
    rw [Factory.descriptorOf_ty hd, hty]
    decide
  have hw := hbuilt.write_other_fails (Factory.descriptorOf_wellFormed hd) hne hprops
    JsonFormat.format (x := ⟨.option Catalogue.point, .some (.record [.int 1, .int 2]), .created 0⟩)
    hty.symm g ""
  refine ⟨m, g, hm, ?_⟩
  rw [JsonFormat.serializeText, hw, hs, hident, hname]
  rfl

end ObjectMapping
