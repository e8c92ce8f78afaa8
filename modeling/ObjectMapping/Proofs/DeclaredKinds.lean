import ObjectMapping.Proofs.StrategyEquivalence
import ObjectMapping.Proofs.ValueRoundTrip

/-!
# Declared kinds

A type with a value representation declares the kind of its values and whether it is nullable
(`Schema.valueOps?`), apart from the function that writes its instances as values
(`Schema.valueOf`). The writer trusts the declaration: with every value it hands a format the
declared kind, or `null` for a null value. The two agree at every depth.

* `ValueOps.Admits o v`: `v` is null only if `o` is nullable, and otherwise of `o`'s kind; the
  kind the writer derives from `o` is then `v`'s own (`ValueOps.Admits.kind_eq`).
* `Schema.Typed.admits`: the value of every instance of a type, owned or borrowed, is admitted
  by the type's declaration: scalars, options and boxes at any depth, lists, arrays, maps and
  records. Scalars a schema declares choose their kind themselves and are not among these.
* `MappedProperty.Declares`: what compiling a property fixes about its kind, established for
  every mapper a build gives (`Factory.build_declares`).
* `Mapper.readProperty_kind` and `Mapper.write_kind`: the kind each property is written with,
  and the kind a value of a type without a record is written with, are the value's own.
-/

namespace ObjectMapping

open Json

namespace Value

@[simp] theorem kind_reborrow (v : Value) : v.reborrow.kind = v.kind := by
  cases v with
  | map m =>
    obtain ⟨es⟩ := m
    rfl
  | _ => rfl

theorem isNull_eq_false {v : Value} (h : v.kind ≠ .null) : v.isNull = false := by
  cases v <;> simp_all [kind, isNull]

end Value

namespace ValueOps

/-- A value agrees with a declaration: it is null only if the declaration is nullable, and
otherwise of the declared kind. -/
def Admits (o : ValueOps) (v : Value) : Prop :=
  (v.isNull = true → o.nullable = true) ∧ (v.isNull = false → v.kind = o.kind)

/-- The kind the writer derives from the declaration, `null` for a null value, is the value's
own kind. -/
theorem Admits.kind_eq {o : ValueOps} {v : Value} (h : o.Admits v) :
    (if v.isNull then Kind.null else o.kind) = v.kind := by
  cases hv : v.isNull with
  | false => simp [h.2 hv]
  | true => cases v <;> simp_all [Value.isNull, Value.kind]

/-- A value that is not null and of the declared kind is admitted. -/
theorem admits_of_kind {o : ValueOps} {v : Value} (hk : v.kind = o.kind) (hnull : o.kind ≠ .null) :
    o.Admits v := by
  have hv : v.isNull = false := Value.isNull_eq_false (hk ▸ hnull)
  exact ⟨fun h => by simp [hv] at h, fun _ => hk⟩

end ValueOps

namespace Schema

variable {S : Schema} {owned : Bool} {place : Identity}

/-- The kind a fixed-width integer type, its atomic or its non-zero type declares is the kind of
its width. -/
theorem kind?_of_valueOps? {t : Ty} {w : IntType} {o : ValueOps}
    (ht : t = .int w ∨ t = .atomicInt w ∨ t = .nonZero w) (ho : S.valueOps? t = some o) :
    w.kind? = some o.kind := by
  rcases ht with rfl | rfl | rfl <;> simp only [valueOps?, intOps] at ho <;>
    obtain ⟨k, hk, rfl⟩ := Option.map_eq_some_iff.mp ho <;> exact hk

/-- An integer is written as the kind of its width. -/
theorem kind_intValue {w : IntType} {k : Kind} (hw : w.kind? = some k) (n : Int) :
    (intValue w n).kind = k := by
  cases w <;> simp only [IntType.kind?, Option.some.injEq, reduceCtorEq] at hw <;> subst hw <;> rfl

/-- A record of the schema, which no scalar shadows, declares objects. -/
theorem valueOps?_record {t : Ty} (hs : S.scalar? t = none) (hr : (S.record? t).isSome) :
    S.valueOps? t = some { kind := .object, descriptor := some t } := by
  obtain ⟨r, hr⟩ := Option.isSome_iff_exists.mp hr
  rcases record?_isSome (by simp [hr] : (S.record? t).isSome) with ⟨p, rfl⟩ | ⟨g, a, rfl⟩ <;>
    simp [valueOps?, hs, hr]

/-- The value of every instance of a type with a value representation, owned or borrowed, is
admitted by the type's declaration. The induction follows the instance; only options and boxes
look inside it, since a list, an array, a map or a record is of its kind whatever it holds. -/
theorem Typed.admits {t : Ty} {d : Datum} (h : S.Typed t d) :
    ∀ {o : ValueOps}, S.valueOps? t = .some o → o.Admits (S.valueOf owned t d place) := by
  induction h with
  | bool ht b =>
    intro o ho
    rw [valueOf_bool S owned place ht]
    rcases ht with rfl | rfl <;> simp only [valueOps?, Option.some.injEq] at ho <;> subst ho <;>
      exact ValueOps.admits_of_kind rfl (by decide)
  | int ht hw hn hz =>
    intro o ho
    rw [valueOf_intLike S owned place ht]
    have hkind := kind?_of_valueOps? ht ho
    refine ValueOps.admits_of_kind (kind_intValue hkind _) ?_
    rename_i w n
    cases w <;> simp only [IntType.kind?, Option.some.injEq, reduceCtorEq] at hkind <;>
      rw [← hkind] <;> decide
  | f32 x =>
    intro o ho
    cases ho
    exact ValueOps.admits_of_kind rfl (by decide)
  | f64 x =>
    intro o ho
    cases ho
    exact ValueOps.admits_of_kind rfl (by decide)
  | char c =>
    intro o ho
    cases ho
    exact ValueOps.admits_of_kind rfl (by decide)
  | string s =>
    intro o ho
    cases ho
    exact ValueOps.admits_of_kind rfl (by decide)
  | valueMap m =>
    intro o ho
    simp only [valueOps?, Option.some.injEq] at ho
    subst ho
    refine ValueOps.admits_of_kind ?_ (by decide)
    cases owned
    · exact Value.kind_reborrow (.map m)
    · rfl
  | none t =>
    intro o ho
    obtain ⟨o', -, rfl⟩ := Option.map_eq_some_iff.mp ho
    have hnull : S.valueOf owned (.option t) .none place = .null := by
      rw [valueOf.eq_def]
      rfl
    rw [hnull]
    exact ⟨fun _ => rfl, fun h => by simp [Value.isNull] at h⟩
  | some h ih =>
    intro o ho
    obtain ⟨o', ho', rfl⟩ := Option.map_eq_some_iff.mp ho
    rw [valueOf_some]
    exact ⟨fun _ => rfl, (ih ho').2⟩
  | boxed h ih =>
    intro o ho
    obtain ⟨o', ho', rfl⟩ := Option.map_eq_some_iff.mp ho
    rw [valueOf_boxed]
    -- a box declares the kind and the nullability of what it holds
    have hadmits : o'.Admits (S.valueOf owned _ _ place) := ih ho'
    exact hadmits
  | vec hitems =>
    intro o ho
    obtain ⟨o', -, rfl⟩ := Option.map_eq_some_iff.mp ho
    rw [valueOf_list S owned place (Or.inl rfl)]
    exact ValueOps.admits_of_kind rfl (by decide)
  | array hn hitems =>
    intro o ho
    obtain ⟨o', -, rfl⟩ := Option.map_eq_some_iff.mp ho
    rw [valueOf_list S owned place (Or.inr ⟨_, rfl⟩)]
    exact ValueOps.admits_of_kind rfl (by decide)
  | map ht hkeys hitems =>
    intro o ho
    rw [valueOf_entries S owned place ht]
    rcases ht with rfl | rfl | rfl <;> obtain ⟨o', -, rfl⟩ := Option.map_eq_some_iff.mp ho <;>
      exact ValueOps.admits_of_kind rfl (by decide)
  | record hs hr =>
    intro o ho
    rw [valueOps?_record hs hr, Option.some.injEq] at ho
    subst ho
    obtain ⟨here, hv⟩ := valueOf_record S owned place hr _
    rw [hv]
    exact ValueOps.admits_of_kind rfl (by simp)

end Schema

/-! ## Adapted values -/

namespace Adapter

/-- An adapter produces instances of its output type, whatever it adapts. -/
def Produces (S : Schema) (a : Adapter) : Prop :=
  ∀ d d', a.adapt d = .ok d' → S.Typed a.output d'

theorem Produces.adaptInstance {S : Schema} {a : Adapter} (ha : a.Produces S) {x y : Instance}
    (h : a.adaptInstance x = .ok y) : S.Typed y.ty y.datum := by
  unfold Adapter.adaptInstance at h
  split at h
  · obtain ⟨d', hd', rfl⟩ := map_eq_ok.mp h
    exact ha _ _ hd'
  · cases h

end Adapter

namespace Chain

variable {S : Schema}

/-- Adapting along adapters that produce instances of their output types keeps the instance
typed; the invariant starts from the instance the first adapter produced. -/
theorem typed_foldlM_adaptInstance :
    ∀ (as : List Adapter) {x y : Instance}, (∀ a ∈ as, a.Produces S) → S.Typed x.ty x.datum →
      as.foldlM (fun v (a : Adapter) => a.adaptInstance v) x = .ok y → S.Typed y.ty y.datum
  | [], x, y, _, hx, h => by
    cases h
    exact hx
  | a :: as, x, y, hprod, _, h => by
    rw [List.foldlM_cons] at h
    obtain ⟨x', hx', h⟩ := bind_eq_ok.mp h
    exact typed_foldlM_adaptInstance as (fun b hb => hprod b (List.mem_cons_of_mem a hb))
      ((hprod a List.mem_cons_self).adaptInstance hx') h

/-- A chain of adapters that produce instances of their output types adapts to an instance of
its last type. -/
theorem typed_adapt {c : Chain} (hprod : ∀ a ∈ c.adapters, a.Produces S) {x y : Instance}
    (h : c.adapt x = .ok y) : S.Typed y.ty y.datum := by
  unfold adapt at h
  split at h
  · cases h
  · rename_i a rest hcons
    rw [hcons] at hprod
    obtain ⟨first, hfirst, h⟩ := bind_eq_ok.mp h
    exact typed_foldlM_adaptInstance rest (fun b hb => hprod b (List.mem_cons_of_mem a hb))
      ((hprod a List.mem_cons_self).adaptInstance hfirst) h

end Chain

/-! ## The kinds a mapper writes -/

/-- What compiling a property fixes about the kind it is written with: it is read at its own
location, its adapters are those the registry resolves for its declared type, the declared type
has no value representation or the schema's, and the kind is the one the terminal type
declares. -/
structure MappedProperty.Declares (S : Schema) (reg : Registry) (p : MappedProperty) : Prop where
  location : p.location.property = p.info
  chain : reg.resolve S p.info.ops = .ok p.chain
  value : p.info.ops.value = none ∨ p.info.ops.value = S.valueOps? p.info.ops.ty
  kind : ∃ o, p.chain.terminal.value = some o ∧ p.kind = o.kind

namespace MappedProperty.Declares

variable {S : Schema} {reg : Registry} {p : MappedProperty}

/-- The terminal type of a compiled property declares its kind through the schema: it is the
declared type when there are no adapters, and a type the schema describes otherwise. -/
theorem terminal (hp : p.Declares S reg) :
    ∃ o, S.valueOps? p.chain.terminal.ty = some o ∧ p.kind = o.kind := by
  obtain ⟨o, ho, hkind⟩ := hp.kind
  refine ⟨o, ?_, hkind⟩
  obtain ⟨u, -, -, -, hterm⟩ := Registry.resolve_eq_ok S reg p.info.ops hp.chain
  split at hterm
  · -- the declared type itself, which has a value representation, so the schema's
    rw [hterm] at ho ⊢
    rcases hp.value with hnone | hvalue
    · rw [hnone] at ho
      cases ho
    · rw [← hvalue, ho]
  · rw [hterm] at ho ⊢
    exact ho

end MappedProperty.Declares

/-- Every property of a record's descriptor is of a type used without a value representation
(an adapted field) or with the one the schema gives it. -/
theorem Schema.descriptor?_values {S : Schema} {t : Ty} {d : Descriptor}
    (h : S.descriptor? t = some d) :
    ∀ q ∈ d.properties, q.ops.value = none ∨ q.ops.value = S.valueOps? q.ops.ty := by
  unfold Schema.descriptor? at h
  obtain ⟨⟨r, args⟩, -, hd⟩ := Option.bind_eq_some_iff.mp h
  simp only [Option.pure_def, Option.some.injEq] at hd
  subst hd
  intro q hq
  obtain ⟨⟨index, position, f⟩, -, rfl⟩ := List.mem_map.mp hq
  by_cases ha : f.adapted <;> by_cases hu : f.useDefault <;>
    simp [ha, hu, Schema.typeOps, Schema.opaqueOps]

namespace Factory

/-- A compiled property is written with the kind its terminal type declares. -/
theorem compileProperty_kind {f : Factory} (strategy : Strategy) (owner : Descriptor)
    (done : List MappedProperty) (p : PropertyInfo) :
    Triple (Locked f) (compileProperty strategy owner done p)
      fun mp => ∃ o, mp.chain.terminal.value = some o ∧ mp.kind = o.kind := by
  unfold compileProperty
  refine Triple.get_bind fun g _ => ?_
  dsimp only
  split
  · exact Triple.throw_bind
  · refine Triple.bind (resolveChain_triple _) fun chain _ => ?_
    -- past the terminal's value representation, every check either throws or gives the property
    repeat' split
    all_goals first
      | exact Triple.throw_bind
      | exact Triple.throw _
      | exact Triple.pure ⟨_, ‹_›, rfl⟩

/-- Every property of a mapper a build gives satisfies what compiling a property yields. -/
theorem build_properties {f : Factory} {P : MappedProperty → Prop}
    (hP : ∀ d done q, Triple (Locked f) (compileProperty f.strategy d done q) P)
    (ops : TypeOps) (descriptor : Option Descriptor) {m : Mapper}
    (h : (run (build ops descriptor) f).1 = .ok m) : ∀ p ∈ m.properties, P p := by
  have hlock : run lockStrategy f = (.ok f.strategy, { f with locked := true }) := rfl
  unfold build at h
  rw [run_bind_ok hlock] at h
  refine (?_ : Triple (Locked f) _ fun m : Mapper => ∀ p ∈ m.properties, P p).yields _
    (Locked.self f) m h
  extract_lets jp
  -- the rest of the build, after the properties: a note, the count of builds and the mapper
  have hjp : ∀ props : List MappedProperty, (∀ mp ∈ props, P mp) →
      Triple (Locked f) (jp props) fun m => ∀ p ∈ m.properties, P p := by
    intro props hprops
    refine Triple.bind (note_triple _ _) fun _ _ => Triple.get_bind fun g hg => ?_
    refine Triple.bind (Q := fun _ => True)
      ⟨fun _ _ => by rw [run_set]; exact hg.count, fun _ _ _ _ => True.intro⟩
      fun _ _ => Triple.pure hprops
  split
  · refine Triple.bind (Triple.foldlM (fun done q hdone => ?_) _ [] (by simp)) hjp
    refine Triple.bind (hP _ done q) fun mp hmp => Triple.pure ?_
    intro r hr
    rcases List.mem_append.mp hr with hr | hr
    · exact hdone r hr
    · obtain rfl := List.mem_singleton.mp hr
      exact hmp
  · split
    · exact Triple.throw_bind
    · exact Triple.bind (Triple.pure (by simp)) hjp

/-- Every property of the mapper a build gives for a record of the schema declares its kind. -/
theorem build_declares {t : Ty} {ops : TypeOps} {d : Descriptor} {f f' : Factory} {m : Mapper}
    (hd : f.schema.descriptor? t = some d) (h : run (build ops (some d)) f = (.ok m, f')) :
    ∀ p ∈ m.properties, p.Declares f.schema f.adapters := by
  obtain ⟨hbuilt, -, -⟩ := build_built h
  have hok : (run (build ops (some d)) f).1 = .ok m := by rw [h]
  obtain ⟨-, -, -, hresolved⟩ := (build_run ops (some d) f).2 m hok
  intro p hp
  have hinfo : p.info ∈ d.properties := hbuilt.info ▸ List.mem_map_of_mem hp
  exact ⟨(hbuilt.location hp).2.1, hresolved p hp, Schema.descriptor?_values hd p.info hinfo,
    build_properties (compileProperty_kind f.strategy) ops (some d) hok p hp⟩

end Factory

namespace Mapper

variable {S : Schema} {reg : Registry} {m : Mapper} {p : MappedProperty} {x : Instance}

/-- The kind a property is written with is the kind of its value, when every adapter of the
registry produces instances of its output type and a field read without adapters holds an
instance of its type. -/
theorem readProperty_kind (hreg : ∀ a ∈ reg.entries, a.Produces S) (hp : p.Declares S reg)
    (hfield : p.chain.adapters = [] → S.Typed p.info.ops.ty (x.datum.field p.info.position))
    {raw : Value} (hread : readProperty S m p x = .ok raw) :
    (if raw.isNull then Kind.null else p.kind) = raw.kind := by
  obtain ⟨o, ho, hkind⟩ := hp.terminal
  obtain ⟨hlinked, hreach, hdeclared⟩ := Registry.resolve_linked hp.chain
  rw [hkind]
  apply ValueOps.Admits.kind_eq
  unfold readProperty at hread
  split at hread
  · -- no adapters: the field's own value, of the declared type
    rename_i hempty
    have hnil : p.chain.adapters = [] := List.isEmpty_iff.mp hempty
    rw [hdeclared hnil] at ho
    unfold Strategy.getter at hread
    obtain ⟨field, hfieldRef, hread⟩ := bind_eq_ok.mp hread
    obtain ⟨_, -, hfieldRef⟩ := bind_eq_ok.mp hfieldRef
    cases hfieldRef
    split at hread
    · cases hread
      rw [hp.location] at ⊢
      exact (hfield hnil).admits ho
    · cases hread
  · -- the adapted value, of the terminal type of the chain
    obtain ⟨field, -, hread⟩ := bind_eq_ok.mp hread
    obtain ⟨adapted, hadapt, hread⟩ := bind_eq_ok.mp hread
    cases hread
    obtain ⟨u, hwalk, -, -, -⟩ := Registry.resolve_eq_ok S reg p.info.ops hp.chain
    have hprod : ∀ a ∈ p.chain.adapters, a.Produces S :=
      fun a ha => hreg a (hwalk.mem_entries a ha)
    have hty : adapted.ty = p.chain.terminal.ty := by
      rw [Chain.ty_adapt hadapt p.info.ops.ty, hreach]
    have htyped := Chain.typed_adapt hprod hadapt
    rw [hty] at htyped
    rw [hty]
    exact htyped.admits ho

/-- A value written on its own, by a mapper whose type declares its value representation
through the schema, is written with its own kind. -/
theorem write_kind {ops : ValueOps} (hops : m.ops.value = S.valueOps? m.ops.ty)
    (hvalue : m.ops.value = some ops) (hx : x.ty = m.ops.ty) (htyped : S.Typed x.ty x.datum) :
    (if (S.valueOf false x.ty x.datum x.identity).isNull then Kind.null else ops.kind) =
      (S.valueOf false x.ty x.datum x.identity).kind := by
  have ho : S.valueOps? x.ty = some ops := by rw [hx, ← hops, hvalue]
  exact (htyped.admits ho).kind_eq

end Mapper

/-- Declared kinds agree with the values written. The value of every instance of a type, owned
or borrowed, is null only if the type is nullable and is otherwise of the type's kind; so a
value written on its own by the mapper of its type, and the value of every property of a mapper
the factory builds for a record, are written with their own kind, once the registry's adapters
produce instances of their output types. -/
theorem declared_kinds_agree (S : Schema) :
    (∀ (owned : Bool) (t : Ty) (d : Datum) (place : Identity) (o : ValueOps),
      S.Typed t d → S.valueOps? t = some o →
        ((S.valueOf owned t d place).isNull = true → o.nullable = true) ∧
        ((S.valueOf owned t d place).isNull = false → (S.valueOf owned t d place).kind = o.kind)) ∧
    (∀ (m : Mapper) (x : Instance) (ops : ValueOps), m.ops = S.typeOps m.ops.ty →
      m.ops.value = some ops → x.ty = m.ops.ty → S.Typed x.ty x.datum →
        (if (S.valueOf false x.ty x.datum x.identity).isNull then Kind.null else ops.kind) =
          (S.valueOf false x.ty x.datum x.identity).kind) ∧
    ∀ (f f' : Factory) (t : Ty) (ops : TypeOps) (d : Descriptor) (m : Mapper),
      f.schema = S → (∀ a ∈ f.adapters.entries, a.Produces S) → S.descriptor? t = some d →
      Factory.run (Factory.build ops (some d)) f = (.ok m, f') →
      ∀ p ∈ m.properties, ∀ (x : Instance) (raw : Value),
        (p.chain.adapters = [] → S.Typed p.info.ops.ty (x.datum.field p.info.position)) →
        Mapper.readProperty S m p x = .ok raw →
          (if raw.isNull then Kind.null else p.kind) = raw.kind := by
  refine ⟨fun owned t d place o htyped ho => htyped.admits ho, ?_, ?_⟩
  · intro m x ops hops hvalue hx htyped
    exact Mapper.write_kind (by rw [hops]; rfl) hvalue hx htyped
  · intro f f' t ops d m hS hreg hd hbuild p hp x raw hfield hread
    subst hS
    exact Mapper.readProperty_kind hreg (Factory.build_declares hd hbuild p hp) hfield hread

end ObjectMapping
