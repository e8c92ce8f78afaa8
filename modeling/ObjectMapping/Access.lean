import ObjectMapping.Adapter

/-!
# Access strategies

How a mapper reaches the properties of an instance. A strategy prepares a `Location` for each
property once, when a mapper is built, and then reads (`Strategy.getter`), refers to
(`Strategy.reference`) and writes (`Strategy.setter`) the property through it. It also makes
fresh instances (`Strategy.allocate`).

* `Strategy.raw` reaches a field by its position in memory. A location is valid only if its
  property is the one standing at its index in the owner's list (`Descriptor.position?`, the
  place of that very property) and its token the field's own offset, and the field fits
  the owner; an invalid location refuses every access with `ConfigError.strategyRejected`
  before the instance is touched. Fresh instances start with no field written
  (`Uninit`); `Uninit.finish` fills every field not written with its default.
* `Strategy.checked` goes through the typed field accessors and ignores index and token. It
  makes fresh instances with the type's default and writes only instances that exist.
-/

namespace ObjectMapping

namespace Datum

/-- The field at a position of a record. -/
def field (d : Datum) (position : Nat) : Datum :=
  match d with
  | .record fields => fields.getD position .none
  | _ => .none

/-- The record with the field at a position replaced. -/
def setField (d : Datum) (position : Nat) (v : Datum) : Datum :=
  match d with
  | .record fields => .record (fields.set position v)
  | other => other

end Datum

/-- Where a strategy reaches a property: the owner's descriptor, the property, the property's
number and a strategy-specific token (the field's offset for raw access). -/
structure Location where
  owner : Descriptor
  property : PropertyInfo
  index : Nat
  token : Nat
  deriving Inhabited

/-- A value on its way into a property: from the wire, or already an instance. -/
inductive Incoming where
  | wire (v : Value)
  | boxed (x : Instance)

/-- A fresh instance being built field by field: the data of the fields written so far (by
position) and which properties (by number, excluded fields after them) are written. -/
structure Uninit where
  descriptor : Descriptor
  slots : List (Option Datum)
  written : List Nat
  identity : Identity

/-- What a setter writes to: an instance that exists, or one being built. -/
inductive Target where
  | existing (x : Instance)
  | uninit (u : Uninit)

/-- How fields are reached. -/
inductive Strategy where
  /-- By position in memory. -/
  | raw
  /-- Through the typed accessors. -/
  | checked
  deriving DecidableEq, Repr, Inhabited

namespace Strategy

def name : Strategy → String
  | raw => "raw"
  | checked => "checked"

/-- The refusal of a property. -/
def rejected (s : Strategy) (owner : Descriptor) (p : PropertyInfo) : ConfigError :=
  .strategyRejected s.name owner.typeName p.name

/-- Whether the strategy can reach a property at all. -/
def canAccess : Strategy → PropertyInfo → Bool
  | raw, p => p.offset.isSome
  | checked, _ => true

/-- The error of an instance of another type under raw access. -/
def wrongOwner : MapError := .custom "instance is not of the type the mapper was built for"

/-- Whether a raw location is valid: its property stands at its index in the owner's list, its
token is the field's offset, and the field fits the owner there. -/
def validRaw (loc : Location) : Bool :=
  loc.owner.position? loc.property == some loc.index && loc.property.offset == some loc.token &&
    loc.property.ops.footprint.fitsAt loc.token loc.owner.ops.footprint

/-- The check a raw accessor makes before anything else. -/
def checkRaw (loc : Location) : Except MapError Unit :=
  if validRaw loc then pure () else throw (.config (raw.rejected loc.owner loc.property))

/-- Prepares the location of a property of a descriptor. -/
def prepare (s : Strategy) (owner : Descriptor) (p : PropertyInfo) : Except ConfigError Location :=
  match s, owner.position? p with
  | _, none => throw (s.rejected owner p)
  | raw, some index =>
    match p.offset with
    | none => throw (raw.rejected owner p)
    | some offset =>
      let loc : Location := ⟨owner, p, index, offset⟩
      if validRaw loc then pure loc else throw (raw.rejected owner p)
  | checked, some index => pure ⟨owner, p, index, index⟩

/-- Checks that an owner is an instance the location belongs to. -/
def checkOwner (s : Strategy) (loc : Location) (owner : Instance) : Except MapError Unit :=
  match s with
  | raw => do
    checkRaw loc
    if owner.ty == loc.owner.ty then pure () else throw wrongOwner
  | checked =>
    if owner.ty == loc.property.owner then pure ()
    else throw (.shape (.wrongType loc.owner.typeName))

/-- The field a location reaches in an owner. -/
def reference (s : Strategy) (loc : Location) (owner : Instance) : Except MapError Instance := do
  s.checkOwner loc owner
  let p := loc.property
  pure ⟨p.ops.ty, owner.datum.field p.position, .part owner.identity p.position⟩

/-- The value of the field a location reaches, borrowed from the owner. -/
def getter (S : Schema) (s : Strategy) (loc : Location) (owner : Instance) :
    Except MapError Value := do
  let field ← s.reference loc owner
  match loc.property.ops.value with
  | some _ => pure (S.valueOf false field.ty field.datum field.identity)
  | none => throw (.shape (.wrongType loc.property.typeName))

/-- An incoming value as an instance of a type: a wire value is read by the type's value
representation, which it must have. -/
def intoBoxed {m : Type → Type} [Monad m] [MonadExceptOf MapError m]
    (decode : Ty → Value → m Datum) (ops : TypeOps) (place : Identity) :
    Incoming → m Instance
  | .boxed x => pure x
  | .wire v =>
    match ops.value with
    | some _ => do
      let d ← decode ops.ty v
      pure ⟨ops.ty, d, place⟩
    | none => throw (MapError.shape (.wrongType ops.typeName))

/-- Writes an instance to the field a location reaches; it must be of the field's type. -/
def store (loc : Location) (target : Target) (x : Instance) : Except MapError Target := do
  let p := loc.property
  match target with
  | .existing owner =>
    if owner.ty != loc.owner.ty then throw wrongOwner
    if x.ty != p.ops.ty then throw (.shape (.wrongType p.typeName))
    pure (.existing { owner with datum := owner.datum.setField p.position x.datum })
  | .uninit u =>
    if u.descriptor.ty != loc.owner.ty then throw wrongOwner
    if x.ty != p.ops.ty then throw (.shape (.wrongType p.typeName))
    pure (.uninit { u with
      slots := u.slots.set p.position (some x.datum)
      written := if u.written.contains loc.index then u.written else u.written ++ [loc.index] })

/-- Writes an incoming value to the property a location reaches. Raw access reads the value
first and then checks the owner; checked access checks the owner first, and writes only an
instance that exists. -/
def setter {m : Type → Type} [Monad m] [MonadExceptOf MapError m]
    (decode : Ty → Value → m Datum) (s : Strategy) (loc : Location) (target : Target)
    (incoming : Incoming) : m Target := do
  let p := loc.property
  match s with
  | raw =>
    match checkRaw loc with
    | .error e => throw e
    | .ok () =>
      let x ← intoBoxed decode p.ops .sizeless incoming
      match store loc target x with
      | .ok t => pure t
      | .error e => throw e
  | checked =>
    match target with
    | .uninit _ =>
      throw (MapError.allocation loc.owner.typeName "checked access only writes constructed instances")
    | .existing owner =>
      if owner.ty != p.owner then throw (MapError.shape (.wrongType loc.owner.typeName))
      let x ← intoBoxed decode p.ops (.part owner.identity p.position) incoming
      if x.ty != p.ops.ty then throw (MapError.shape (.wrongType p.typeName))
      pure (.existing { owner with datum := owner.datum.setField p.position x.datum })

end Strategy

/-- A fresh instance: made whole by a default, or being built field by field. -/
inductive Allocation where
  | constructed (x : Instance)
  | uninit (u : Uninit)

namespace Allocation

def target : Allocation → Target
  | constructed x => .existing x
  | uninit u => .uninit u

def ofTarget : Target → Allocation
  | .existing x => constructed x
  | .uninit u => uninit u

end Allocation

/-- The error a field with no default gives: an allocation error of the record, with the
reason, or a run that never ends. -/
def AllocStop.toError (typeName reason : String) : AllocStop → MapError
  | .none => .allocation typeName reason
  | .endless => .endless

namespace Uninit

/-- The number of fields of the record. -/
def fieldCount (d : Descriptor) : Nat := d.properties.length + d.excluded.length

/-- Fills the properties not written with their defaults and the excluded fields with theirs.
A default is made before the field's offset is looked at, so one that never returns stops the
run there. -/
def finish (S : Schema) (u : Uninit) : Except MapError Instance := do
  let d := u.descriptor
  let missing (reason : String) : MapError := .allocation d.typeName reason
  let slots ← d.properties.foldlM (fun slots p =>
    if u.written.contains p.index then pure slots
    else
      match p.ops.makeDefault S, p.offset with
      | .ok v, some _ => pure (slots.set p.position (some v))
      | .ok _, none => throw (missing "an absent property has no default value")
      | .error s, _ => throw (s.toError d.typeName "an absent property has no default value"))
    u.slots
  let slots ← d.excluded.foldlM (fun slots f =>
    match f.ops.makeDefault S, f.offset with
    | .ok v, some _ => pure (slots.set f.position (some v))
    | .ok _, none => throw (missing "an excluded field has no default value")
    | .error s, _ => throw (s.toError d.typeName "an excluded field has no default value")) slots
  pure ⟨d.ty, .record (slots.map (·.getD .none)), u.identity⟩

end Uninit

namespace Strategy

/-- Whether every field has a position at which it fits. -/
def described (d : Descriptor) : Bool :=
  d.exhaustive &&
    d.properties.all (fun p => p.offset.any fun o => p.ops.footprint.fitsAt o d.ops.footprint) &&
    d.excluded.all (fun f => f.offset.any fun o => f.ops.footprint.fitsAt o d.ops.footprint)

/-- Makes a fresh instance of a record. -/
def allocate (S : Schema) (s : Strategy) (d : Descriptor) (place : Identity) :
    Except MapError Allocation :=
  match s with
  | raw =>
    if described d then
      pure (.uninit ⟨d, List.replicate (Uninit.fieldCount d) none, [], place⟩)
    else throw (.allocation d.typeName "the field layout is not fully described")
  | checked =>
    match d.constructible, S.default? d.ty with
    | true, some v => pure (.constructed ⟨d.ty, v, place⟩)
    | _, _ => throw (.allocation d.typeName "no constructor, declare the type `#[mapped(default)]`")

/-- The finished instance of an allocation. -/
def finish (S : Schema) : Allocation → Except MapError Instance
  | .constructed x => pure x
  | .uninit u => u.finish S

end Strategy

end ObjectMapping
