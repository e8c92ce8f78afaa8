import ObjectMapping.Access

/-!
# Raw access to primitive fields

Raw access moves the fields of a few primitive types directly, with no instance in a box: a
plain copy of a `bool`, `i8`, `i16`, `char`, `i32`, `i64`, `f32` or `f64`, and a load or a store
in place of an atomic over `bool`, `i8`, `i16`, `i32` or `i64`. `primitiveAccess?` selects this
path by the exact declared type, and names the primitive moved (an atomic moves the primitive it
holds). A type with a primitive that is none of these, such as a declared scalar over `i16`,
takes the generic path.

On the fast path a read gives the primitive's own value of the field (`Primitive.toValue`). A
write from the wire reads the value as the primitive and stores it after checking only the owner
(`Strategy.storePrimitive`): the field is of the primitive's type, so there is nothing else to
check. An instance already in a box is stored as on the generic path.

`Strategy.rawGetter` and `Strategy.rawSetter` are raw access as it is compiled for a location:
the location is checked first, then the fast path is taken where there is one.
`Strategy.compiledGetter` and `Strategy.compiledSetter` are the accessors each strategy compiles.
-/

namespace ObjectMapping

namespace Primitive

/-- The plain type of a primitive. -/
def ty : Primitive → Ty
  | bool => .bool
  | i8 => .int .i8
  | i16 => .int .i16
  | char => .char
  | i32 => .int .i32
  | i64 => .int .i64
  | f32 => .f32
  | f64 => .f64

/-- The value of a field that holds a primitive. -/
def toValue : Primitive → Datum → Value
  | bool, .bool b => .bool b
  | i8, .int n => .byte (Int8.ofInt n)
  | i16, .int n => .short (Int16.ofInt n)
  | char, .char c => .char c
  | i32, .int n => .int (Int32.ofInt n)
  | i64, .int n => .long (Int64.ofInt n)
  | f32, .f32 x => .float x
  | f64, .f64 x => .double x
  | _, _ => .null

end Primitive

/-- The primitive the fast path moves for a declared type: the type itself, or the primitive an
atomic holds. Only a type whose value representation names a primitive has one. -/
def primitiveAccess? (ops : TypeOps) : Option Primitive := do
  let o ← ops.value
  if o.primitive.isNone then none
  else
    match ops.ty with
    | .bool | .atomicBool => some .bool
    | .int .i8 | .atomicInt .i8 => some .i8
    | .int .i16 | .atomicInt .i16 => some .i16
    | .char => some .char
    | .int .i32 | .atomicInt .i32 => some .i32
    | .int .i64 | .atomicInt .i64 => some .i64
    | .f32 => some .f32
    | .f64 => some .f64
    | _ => none

namespace Strategy

/-- Reads a primitive field: the owner must be an instance of the location's record. -/
def primitiveGetter (prim : Primitive) (loc : Location) (owner : Instance) :
    Except MapError Value :=
  if owner.ty != loc.owner.ty then throw wrongOwner
  else pure (prim.toValue (owner.datum.field loc.property.position))

/-- Stores a primitive read from the wire: the owner is checked, and the field written; a field
of a fresh instance is marked written. -/
def storePrimitive (loc : Location) (target : Target) (d : Datum) : Except MapError Target := do
  let p := loc.property
  match target with
  | .existing owner =>
    if owner.ty != loc.owner.ty then throw wrongOwner
    pure (.existing { owner with datum := owner.datum.setField p.position d })
  | .uninit u =>
    if u.descriptor.ty != loc.owner.ty then throw wrongOwner
    pure (.uninit { u with
      slots := u.slots.set p.position (some d)
      written := if u.written.contains loc.index then u.written else u.written ++ [loc.index] })

/-- Writes a primitive field: a wire value is read as the primitive, before the owner is
checked; an instance in a box is stored as on the generic path. -/
def primitiveSetter {m : Type → Type} [Monad m] [MonadExceptOf MapError m]
    (decode : Ty → Value → m Datum) (prim : Primitive) (loc : Location) (target : Target) :
    Incoming → m Target
  | .wire v => do
    let d ← decode prim.ty v
    match storePrimitive loc target d with
    | .ok t => pure t
    | .error e => throw e
  | .boxed x =>
    match store loc target x with
    | .ok t => pure t
    | .error e => throw e

/-- The getter raw access compiles for a location: the fast path where the declared type has
one, the generic getter otherwise. -/
def rawGetter (S : Schema) (loc : Location) (owner : Instance) : Except MapError Value := do
  checkRaw loc
  match primitiveAccess? loc.property.ops with
  | some prim => primitiveGetter prim loc owner
  | none => raw.getter S loc owner

/-- The setter raw access compiles for a location: the fast path where the declared type has
one, the generic setter otherwise. -/
def rawSetter {m : Type → Type} [Monad m] [MonadExceptOf MapError m]
    (decode : Ty → Value → m Datum) (loc : Location) (target : Target) (incoming : Incoming) :
    m Target :=
  match checkRaw loc with
  | .error e => throw e
  | .ok () =>
    match primitiveAccess? loc.property.ops with
    | some prim => primitiveSetter decode prim loc target incoming
    | none => raw.setter decode loc target incoming

/-- The getter a strategy compiles for a location. -/
def compiledGetter (S : Schema) : Strategy → Location → Instance → Except MapError Value
  | raw => rawGetter S
  | checked => checked.getter S

/-- The setter a strategy compiles for a location. -/
def compiledSetter {m : Type → Type} [Monad m] [MonadExceptOf MapError m]
    (decode : Ty → Value → m Datum) : Strategy → Location → Target → Incoming → m Target
  | raw => rawSetter decode
  | checked => checked.setter decode

end Strategy

end ObjectMapping
