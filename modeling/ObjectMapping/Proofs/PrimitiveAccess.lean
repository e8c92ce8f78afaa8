import ObjectMapping.Access.Primitive
import ObjectMapping.Proofs.ValueRoundTrip

/-!
# The fast path of raw access

Raw access moves a field whose declared type is a primitive, or an atomic over one, with no box
(`Strategy.rawGetter`, `Strategy.rawSetter`); every other field goes through the generic
accessors, which read the field as an instance of its type and write a boxed instance after
checking its type. The fast path computes what the generic path computes, on every location,
every owner or fresh instance and every incoming value, errors included.

* `primitiveAccess?_spec`: the fast path is taken only for a type with a value representation
  that is the primitive's own type or an atomic over it (`Primitive.HeldBy`); a declared
  scalar over a primitive takes the generic path.
* `Schema.valueOf_heldBy`: an instance of such a type is written as its primitive's value.
* `store_primitive`: storing an instance of the field's own type is the primitive store, whose
  only check is the owner's.
* `Mapper.decode_atomicBool`, `Mapper.decode_atomicInt`: the mapper reads an atomic as the
  primitive it holds.
* `rawGetter_eq_getter`, `rawSetter_eq_setter`, and `raw_fast_path_agrees`, which puts them
  together.
-/

namespace ObjectMapping

/-- The declared types whose fields the fast path moves as a primitive: the primitive's own
type, and the atomic over it. -/
def Primitive.HeldBy (prim : Primitive) (t : Ty) : Prop :=
  t = prim.ty ∨ (t = .atomicBool ∧ prim = .bool) ∨ ∃ w, t = .atomicInt w ∧ prim.ty = .int w

/-- A type that holds a primitive is a built-in one: not declared, applied or boxed. -/
theorem Primitive.HeldBy.builtin {prim : Primitive} {t : Ty} (h : prim.HeldBy t) :
    (∀ p, t ≠ .named p) ∧ (∀ g a, t ≠ .apply g a) ∧ ∀ u, t ≠ .boxed u := by
  rcases h with rfl | ⟨rfl, -⟩ | ⟨w, rfl, -⟩
  · cases prim <;> simp [Primitive.ty]
  · simp
  · simp

/-- The fast path is taken for a type with a value representation that holds the primitive. -/
theorem primitiveAccess?_spec {ops : TypeOps} {prim : Primitive}
    (h : primitiveAccess? ops = some prim) : ops.value.isSome ∧ prim.HeldBy ops.ty := by
  obtain ⟨ty, value, default, footprint⟩ := ops
  cases value with
  | none => simp [primitiveAccess?] at h
  | some o =>
    refine ⟨rfl, ?_⟩
    simp only [primitiveAccess?, Option.bind_eq_bind, Option.bind_some] at h
    split at h
    · cases h
    · -- one case for each declared type of the fast path
      split at h <;> cases h <;> simp_all [Primitive.HeldBy, Primitive.ty]

/-- A declared scalar takes the generic path, whatever primitive its values are. -/
theorem primitiveAccess?_named {ops : TypeOps} (hty : (∃ p, ops.ty = .named p) ∨
    ∃ g a, ops.ty = .apply g a) : primitiveAccess? ops = none := by
  cases h : primitiveAccess? ops with
  | none => rfl
  | some prim =>
    have hbuiltin := (primitiveAccess?_spec h).2.builtin
    rcases hty with ⟨p, hp⟩ | ⟨g, a, hga⟩
    · exact absurd hp (hbuiltin.1 p)
    · exact absurd hga (hbuiltin.2.1 g a)

namespace Schema

variable {S : Schema} {owned : Bool} {place : Identity}

/-- A type that holds a primitive is no declared type, so it has no record. -/
theorem record?_heldBy {prim : Primitive} {t : Ty} (hheld : prim.HeldBy t) :
    (S.record? t).isSome = false := by
  cases h : (S.record? t).isSome with
  | false => rfl
  | true =>
    rcases record?_isSome h with ⟨p, hp⟩ | ⟨g, a, hga⟩
    · exact absurd hp (hheld.builtin.1 p)
    · exact absurd hga (hheld.builtin.2.1 g a)

/-- Every datum but a record is written, at a type that holds a primitive, as the primitive's
value; only a record is written otherwise, as an object. -/
theorem valueOf_heldBy_of_ne_record {prim : Primitive} {t : Ty} {d : Datum}
    (hheld : prim.HeldBy t) (hd : ∀ fields, d ≠ .record fields) :
    S.valueOf owned t d place = prim.toValue d := by
  cases d with
  | record fields => exact absurd rfl (hd fields)
  | _ =>
    rcases hheld with rfl | ⟨rfl, rfl⟩ | ⟨w, rfl, hw⟩
    · cases prim <;> rfl
    · rfl
    · cases prim <;> simp only [Primitive.ty, reduceCtorEq, Ty.int.injEq] at hw <;> subst hw <;> rfl

/-- An instance of a type that holds a primitive is no record. -/
theorem Typed.ne_record_of_heldBy {prim : Primitive} {t : Ty} {d : Datum} (hd : S.Typed t d)
    (hheld : prim.HeldBy t) : ∀ fields, d ≠ .record fields := by
  rintro fields rfl
  cases hd with
  | record hs hr => simp [record?_heldBy (S := S) hheld] at hr
  | boxed _ => exact hheld.builtin.2.2 _ rfl

/-- An instance of a type that holds a primitive is written as the primitive's value. -/
theorem valueOf_heldBy {prim : Primitive} {t : Ty} {d : Datum} (hheld : prim.HeldBy t)
    (hd : S.Typed t d) : S.valueOf owned t d place = prim.toValue d :=
  valueOf_heldBy_of_ne_record hheld (hd.ne_record_of_heldBy hheld)

end Schema

namespace Mapper

/-- The mapper reads an atomic boolean as a boolean. -/
theorem decode_atomicBool (fuel depth : Nat) (v : Value) :
    decode fuel depth .atomicBool v = decode fuel depth .bool v := by
  cases fuel with
  | zero => simp only [decode]
  | succ fuel => simp only [decode, decodeWith]

/-- The mapper reads an atomic integer as an integer of its width. -/
theorem decode_atomicInt (fuel depth : Nat) (w : IntType) (v : Value) :
    decode fuel depth (.atomicInt w) v = decode fuel depth (.int w) v := by
  cases fuel with
  | zero => simp only [decode]
  | succ fuel => simp only [decode, decodeWith]

end Mapper

namespace Strategy

/-- Storing an instance of the field's own type checks the owner alone, as the primitive store
does. -/
theorem store_primitive (loc : Location) (target : Target) (d : Datum) (place : Identity) :
    store loc target ⟨loc.property.ops.ty, d, place⟩ = storePrimitive loc target d := by
  cases target <;> simp [store, storePrimitive]

/-- A reader that reads each atomic as the primitive it holds reads a type that holds a
primitive as that primitive. -/
theorem decode_heldBy {m : Type → Type} {decode : Ty → Value → m Datum}
    (hatomic : ∀ v, decode .atomicBool v = decode .bool v ∧
      ∀ w, decode (.atomicInt w) v = decode (.int w) v)
    {prim : Primitive} {t : Ty} (hheld : prim.HeldBy t) (v : Value) :
    decode t v = decode prim.ty v := by
  rcases hheld with rfl | ⟨rfl, rfl⟩ | ⟨w, rfl, hw⟩
  · rfl
  · exact (hatomic v).1
  · rw [hw]
    exact (hatomic v).2 w

section Agreement

variable {m : Type → Type} [Monad m] [MonadExceptOf MapError m] (decode : Ty → Value → m Datum)

/-- The fast setter reads a wire value as the primitive, then stores it. -/
theorem primitiveSetter_wire (prim : Primitive) (loc : Location) (target : Target) (v : Value) :
    primitiveSetter decode prim loc target (.wire v) =
      decode prim.ty v >>= fun d => MonadExcept.ofExcept (storePrimitive loc target d) := by
  simp only [primitiveSetter]
  congr 1
  funext d
  cases storePrimitive loc target d <;> rfl

/-- The fast setter stores an instance in a box as the generic store does. -/
theorem primitiveSetter_boxed (prim : Primitive) (loc : Location) (target : Target)
    (x : Instance) :
    primitiveSetter decode prim loc target (.boxed x) = MonadExcept.ofExcept (store loc target x) := by
  simp only [primitiveSetter]
  cases store loc target x <;> rfl

/-- Past a valid location, the generic setter makes the incoming value an instance of the
declared type, then stores it. -/
theorem setter_raw {loc : Location} (hraw : checkRaw loc = .ok ()) (target : Target)
    (incoming : Incoming) :
    raw.setter decode loc target incoming =
      intoBoxed decode loc.property.ops .sizeless incoming >>= fun x =>
        MonadExcept.ofExcept (store loc target x) := by
  simp only [setter, hraw]
  congr 1
  funext x
  cases store loc target x <;> rfl

variable {decode} [LawfulMonad m]

/-- Raw access as compiled writes what the generic setter writes, and fails where it fails,
with the same error. -/
theorem rawSetter_eq_setter
    (hatomic : ∀ v, decode .atomicBool v = decode .bool v ∧
      ∀ w, decode (.atomicInt w) v = decode (.int w) v)
    (loc : Location) (target : Target) (incoming : Incoming) :
    rawSetter decode loc target incoming = raw.setter decode loc target incoming := by
  unfold rawSetter
  cases hraw : checkRaw loc with
  | error e => simp [setter, hraw]
  | ok u =>
    obtain ⟨⟩ := u
    cases hprim : primitiveAccess? loc.property.ops with
    | none => rfl
    | some prim =>
      obtain ⟨hvalue, hheld⟩ := primitiveAccess?_spec hprim
      obtain ⟨o, ho⟩ := Option.isSome_iff_exists.mp hvalue
      show primitiveSetter decode prim loc target incoming = _
      rw [setter_raw decode hraw]
      cases incoming with
      | boxed x => simp [primitiveSetter_boxed, intoBoxed]
      | wire v =>
        -- the generic setter reads the value as the declared type and stores an instance of it
        simp [primitiveSetter_wire, intoBoxed, ho, decode_heldBy hatomic hheld, store_primitive]

end Agreement

/-- Raw access as compiled reads what the generic getter reads, and fails where it fails, with
the same error, from every owner whose field holds an instance of its type when the owner is
of the location's record. -/
theorem rawGetter_eq_getter (S : Schema) (loc : Location) (owner : Instance)
    (htyped : owner.ty = loc.owner.ty →
      S.Typed loc.property.ops.ty (owner.datum.field loc.property.position)) :
    rawGetter S loc owner = raw.getter S loc owner := by
  unfold rawGetter
  cases hraw : checkRaw loc with
  | error e => simp [getter, reference, checkOwner, hraw]
  | ok u =>
    cases hprim : primitiveAccess? loc.property.ops with
    | none => simp
    | some prim =>
      obtain ⟨hvalue, hheld⟩ := primitiveAccess?_spec hprim
      obtain ⟨o, ho⟩ := Option.isSome_iff_exists.mp hvalue
      by_cases hty : owner.ty = loc.owner.ty
      · have hread : S.valueOf false loc.property.ops.ty
            (owner.datum.field loc.property.position) (.part owner.identity loc.property.position) =
              prim.toValue (owner.datum.field loc.property.position) :=
          Schema.valueOf_heldBy hheld (htyped hty)
        simp [primitiveGetter, getter, reference, checkOwner, hraw, hty, ho, hread]
      · simp [primitiveGetter, getter, reference, checkOwner, hraw, hty]

end Strategy

/-- The fast path of raw access refines the generic path. It is taken only for a type that holds
a primitive; and at every location, raw access as compiled reads what the generic getter reads
from every owner whose field holds an instance of the field's type, and writes to every
instance, existing or fresh, what the generic setter writes, failing where it fails with the
same error, for a reader that reads each atomic as the primitive it holds. -/
theorem raw_fast_path_agrees {m : Type → Type} [Monad m] [LawfulMonad m]
    [MonadExceptOf MapError m] (S : Schema) (decode : Ty → Value → m Datum)
    (hatomic : ∀ v, decode .atomicBool v = decode .bool v ∧
      ∀ w, decode (.atomicInt w) v = decode (.int w) v)
    (loc : Location) :
    (∀ prim, primitiveAccess? loc.property.ops = some prim → prim.HeldBy loc.property.ops.ty) ∧
    (∀ owner : Instance, (owner.ty = loc.owner.ty →
        S.Typed loc.property.ops.ty (owner.datum.field loc.property.position)) →
      Strategy.rawGetter S loc owner = Strategy.raw.getter S loc owner) ∧
    ∀ target incoming, Strategy.rawSetter decode loc target incoming =
      Strategy.raw.setter decode loc target incoming :=
  ⟨fun _ hprim => (primitiveAccess?_spec hprim).2,
    fun owner htyped => Strategy.rawGetter_eq_getter S loc owner htyped,
    Strategy.rawSetter_eq_setter hatomic loc⟩

/-- An atomic `i16` property, read and written with the mapper's reader. -/
theorem atomic_short_fast_path_agrees :
    let loc : Location :=
      ⟨default, { (default : PropertyInfo) with ops := Catalogue.schema.typeOps (.atomicInt .i16) }, 2, 2⟩
    (∀ prim, primitiveAccess? loc.property.ops = some prim → prim.HeldBy loc.property.ops.ty) ∧
    (∀ owner : Instance, (owner.ty = loc.owner.ty →
        Catalogue.schema.Typed loc.property.ops.ty (owner.datum.field loc.property.position)) →
      Strategy.rawGetter Catalogue.schema loc owner = Strategy.raw.getter Catalogue.schema loc owner) ∧
    ∀ target incoming, Strategy.rawSetter (Mapper.decode 8 0) loc target incoming =
      Strategy.raw.setter (Mapper.decode 8 0) loc target incoming :=
  raw_fast_path_agrees Catalogue.schema (Mapper.decode 8 0)
    (fun v => ⟨Mapper.decode_atomicBool 8 0 v, fun w => Mapper.decode_atomicInt 8 0 w v⟩) _

end ObjectMapping
