import ObjectMapping.Value.Basic

/-!
# Schemas

A `Schema` declares the types an application adds to the built-in ones: records (structs with
named fields, possibly generic), scalars over an integer type with rules of their own, and
opaque types, which have no value representation and are reached only through adapters.

* `Schema.valueOps?` classifies a type: the kind of value it is written as, whether it is
  primitive, volatile (atomic) or nullable, and which record descriptor it carries. Types
  without a value representation (opaque types, `u64`) have none.
* `Schema.default?` is the type's default instance, and `Schema.allocDefault` the instance
  the engine fills an absent property with. They differ: a user scalar may have two different
  defaults, a non-zero integer has neither, and a record has an allocation default only if
  every field has one. A record whose allocation default asks for itself has none either: its
  computation never returns (`AllocStop.endless`).
* `Schema.valueOf` is the value an instance is written as, borrowed or owned.
-/

namespace ObjectMapping

open ObjectMapping.Float

/-- A scalar declared over an integer type: written as an integer kind, with its own check of
the integers it accepts and its own defaults. -/
structure ScalarDecl where
  path : String
  repr : IntType
  kind : Kind
  primitive : Option Primitive
  /-- The message for an integer the scalar refuses. -/
  refusal : Int → Option String
  allocDefault : Int
  default : Int

/-- A type with no value representation, reachable only through adapters. -/
structure OpaqueDecl where
  path : String
  default : Datum
  size : Nat
  align : Nat

/-- A field of a record with its mapping attributes. -/
structure FieldDecl where
  name : String
  ty : Ty
  /-- Not mapped: filled with the type's default. -/
  skip : Bool := false
  /-- Mapped only through adapters. -/
  adapted : Bool := false
  /-- An absent value is filled with the type's default rather than its allocation default. -/
  useDefault : Bool := false
  /-- The external name, if it differs from the field's name. -/
  rename : Option String := none
  deriving Inhabited

/-- A record: a struct with named fields, generic over `params` types. -/
structure RecordDecl where
  /-- The name of the record, without path and arguments. -/
  ident : String
  /-- The full path, without arguments. -/
  path : String
  params : Nat := 0
  fields : List FieldDecl
  /-- Fresh instances can be made by the type's default. -/
  constructible : Bool := false
  autoRegister : Bool := false
  /-- Fields have no known positions. -/
  packed : Bool := false
  /-- The type's default instance, if it has one. -/
  default : Option Datum := none
  deriving Inhabited

namespace FieldDecl

/-- Whether the field is mapped as a property. -/
def isProperty (f : FieldDecl) : Bool := !f.skip

end FieldDecl

namespace RecordDecl

/-- The fields with the type arguments put in. -/
def fieldsAt (r : RecordDecl) (args : List Ty) : List FieldDecl :=
  r.fields.map fun f => { f with ty := f.ty.subst args }

/-- The mapped fields, in declaration order. -/
def properties (r : RecordDecl) (args : List Ty) : List FieldDecl :=
  (r.fieldsAt args).filter FieldDecl.isProperty

/-- The skipped fields, in declaration order. -/
def excluded (r : RecordDecl) (args : List Ty) : List FieldDecl :=
  (r.fieldsAt args).filter (!·.isProperty)

end RecordDecl

/-- The declarations of an application. -/
structure Schema where
  records : List RecordDecl
  scalars : List ScalarDecl
  opaques : List OpaqueDecl

/-- What a type is written as. -/
structure ValueOps where
  kind : Kind
  primitive : Option Primitive := none
  volatile : Bool := false
  nullable : Bool := false
  /-- The record whose descriptor the type carries. -/
  descriptor : Option Ty := none
  deriving DecidableEq, Repr, Inhabited

/-- Why a type has no allocation default. -/
inductive AllocStop where
  /-- The default is none: a field of the record has none, or the type has no value
  representation. -/
  | none
  /-- Computing it never returns: a record's allocation default asks for itself again, or for
  ever deeper instantiations of one generic record. -/
  | endless
  deriving DecidableEq, Repr, Inhabited

namespace Schema

/-- The record a type instantiates, with its type arguments. -/
def record? (S : Schema) (t : Ty) : Option (RecordDecl × List Ty) := do
  let (p, args) ← t.head?
  let r ← S.records.find? (·.path == p)
  if args.length == r.params then some (r, args) else none

def scalar? (S : Schema) : Ty → Option ScalarDecl
  | .named p => S.scalars.find? (·.path == p)
  | _ => none

def opaque? (S : Schema) : Ty → Option OpaqueDecl
  | .named p => S.opaques.find? (·.path == p)
  | _ => none

/-- The integer kind of a value of a fixed-width type. -/
def intOps (w : IntType) (volatile : Bool) : Option ValueOps :=
  w.kind?.map fun k => { kind := k, primitive := w.primitive?, volatile }

/-- The value representation of a type, if it has one. -/
def valueOps? (S : Schema) : Ty → Option ValueOps
  | .bool => some { kind := .bool, primitive := some .bool }
  | .int w => intOps w false
  | .f32 => some { kind := .float, primitive := some .f32 }
  | .f64 => some { kind := .double, primitive := some .f64 }
  | .char => some { kind := .char, primitive := some .char }
  | .string => some { kind := .string }
  | .option t => (S.valueOps? t).map fun o => { kind := o.kind, nullable := true, descriptor := o.descriptor }
  | .boxed t => (S.valueOps? t).map fun o => { kind := o.kind, nullable := o.nullable, descriptor := o.descriptor }
  | .vec t | .array t _ => (S.valueOps? t).map fun _ => { kind := .array }
  | .sortedMap v | .hashMap v | .fixedMap v => (S.valueOps? v).map fun _ => { kind := .map }
  | .valueMap => some { kind := .map }
  | .atomicBool => some { kind := .bool, primitive := some .bool, volatile := true }
  | .atomicInt w => intOps w true
  | .nonZero w => w.kind?.map fun k => { kind := k }
  | t@(.named _) | t@(.apply _ _) =>
    match S.scalar? t, S.record? t with
    | some s, _ => some { kind := s.kind, primitive := s.primitive }
    | none, some _ => some { kind := .object, descriptor := some t }
    | none, none => none
  | .param _ => none

/-- The zero of a fixed-width integer, a float, a character. -/
def zeroOf : Ty → Option Datum
  | .bool | .atomicBool => some (.bool false)
  | .int _ | .atomicInt _ => some (.int 0)
  | .f32 => some (.f32 Binary32.zero)
  | .f64 => some (.f64 Binary64.zero)
  | .char => some (.char (Char.ofNat 0))
  | .string => some (.string "")
  | _ => none

/-- The default instance of a type. -/
def default? (S : Schema) : Ty → Option Datum
  | .option _ => some .none
  | .boxed t => S.default? t
  | .vec _ => some (.list [])
  | .array t n => (S.default? t).map fun d => .list (List.replicate n d)
  | .sortedMap _ | .hashMap _ | .fixedMap _ => some (.entries [])
  | .valueMap => some (.values .empty)
  | .nonZero _ => none
  | t@(.named _) | t@(.apply _ _) =>
    match S.scalar? t, S.opaque? t, S.record? t with
    | some s, _, _ => some (.int s.default)
    | none, some o, _ => some o.default
    | none, none, some (r, _) => r.default
    | none, none, none => none
  | t => zeroOf t

/-- One layer of the instance an absent property is filled with, with `opened` the record types
whose allocation defaults are being computed, one inside another, and `next` what computes the
defaults of a record's fields, if one more record may open. An option is absent, a box holds its
content's default, vectors and maps are empty, an array holds its length of its element's
default, and a scalar has its declared allocation default. A record has one if every adapted
property asks for the type's default and every other field has an allocation default, computed
in declaration order up to the first that has none; skipped fields and fields that ask for it
take the type's default. A record asked for while its own default is being computed never
returns, nor does one past the last record that may open. -/
def allocLayer (S : Schema) (next : Option (List Ty → Ty → Except AllocStop Datum))
    (opened : List Ty) : Ty → Except AllocStop Datum
  | .option _ => pure .none
  | .boxed t => S.allocLayer next opened t
  | .vec _ => pure (.list [])
  | .array t n =>
    if n = 0 then pure (.list [])
    else (fun d => .list (List.replicate n d)) <$> S.allocLayer next opened t
  | .sortedMap _ | .hashMap _ | .fixedMap _ => pure (.entries [])
  | .valueMap => pure (.values .empty)
  | .nonZero _ | .int .u64 => throw .none
  | t@(.named _) | t@(.apply _ _) =>
    match S.scalar? t, S.record? t with
    | some s, _ => pure (.int s.allocDefault)
    | none, some (r, args) =>
      let fields := r.fieldsAt args
      if fields.any (fun f => f.isProperty && f.adapted && !f.useDefault) then throw .none
      else if t ∈ opened then throw .endless
      else
        match next with
        | none => throw .endless
        | some fieldDefault =>
          .record <$> fields.mapM fun f =>
            if f.skip || f.useDefault then (S.default? f.ty).elim (throw .none) pure
            else fieldDefault (t :: opened) f.ty
    | none, none => throw .none
  | t => (zeroOf t).elim (throw .none) pure

/-- The instance an absent property is filled with, with `opened` the record types whose
allocation defaults are being computed and `fuel` the number of records that may still open one
inside another. -/
def allocIn (S : Schema) : Nat → List Ty → Ty → Except AllocStop Datum
  | 0, opened, t => S.allocLayer none opened t
  | fuel + 1, opened, t => S.allocLayer (some (S.allocIn fuel)) opened t

/-- How many records an allocation default may open one inside another, at distinct
instantiations: 128 for each record of the schema. A compiler that stops at a recursion limit of
128 instantiates no record's allocation default more than 128 times one inside another, so no
program it accepts opens more. -/
def nestingLimit (S : Schema) : Nat := 128 * S.records.length

/-- The allocation default of a type, with one step of fuel for the type itself and
`Schema.nestingLimit` below it. -/
def allocDefault (S : Schema) (t : Ty) : Except AllocStop Datum :=
  S.allocIn (S.nestingLimit + 1) [] t

/-- Whether the allocation defaults one layer of a type asks for open at most one record more
than `next` allows below it before one is asked for again inside itself, with `opened` those
already open: the fields are followed as `Schema.allocLayer` follows them, all of them and
whatever they give. -/
def nestsLayer (S : Schema) (next : Option (List Ty → Ty → Bool)) (opened : List Ty) : Ty → Bool
  | .boxed t => S.nestsLayer next opened t
  | .array t n => n == 0 || S.nestsLayer next opened t
  | t@(.named _) | t@(.apply _ _) =>
    match S.scalar? t, S.record? t with
    | none, some (r, args) =>
      let fields := r.fieldsAt args
      fields.any (fun f => f.isProperty && f.adapted && !f.useDefault) || t ∈ opened ||
        match next with
        | none => false
        | some nests => fields.all fun f => f.skip || f.useDefault || nests (t :: opened) f.ty
    | _, _ => true
  | _ => true

/-- Whether the allocation defaults a type asks for open at most `fuel` records one inside
another, at distinct instantiations, with `opened` those already open. -/
def nestsWithin (S : Schema) : Nat → List Ty → Ty → Bool
  | 0, opened, t => S.nestsLayer none opened t
  | fuel + 1, opened, t => S.nestsLayer (some (S.nestsWithin fuel)) opened t

/-- The fuel types are laid out with: each option, array or record layer inside a type takes one
step. -/
def depthBound (S : Schema) : Nat := 16 * (S.records.length + 4)

/-- A declared type with its wrappers of boxes removed. -/
def unbox : Ty → Ty
  | .boxed t => unbox t
  | t => t

/-- The value of an integer of a fixed-width type: its kind's width. -/
def intValue (w : IntType) (n : Int) : Value :=
  match w.kind? with
  | some .byte => .byte (Int8.ofInt n)
  | some .short => .short (Int16.ofInt n)
  | some .int => .int (Int32.ofInt n)
  | _ => .long (Int64.ofInt n)

mutual

/-- The value an instance is written as. A borrowed value refers to records where they are;
an owned one owns them, moved to a place of their own. A record with no fields has no place. -/
def valueOf (S : Schema) (owned : Bool) (t : Ty) (d : Datum) (place : Identity) : Value :=
  match unbox t, d with
  | .bool, .bool b | .atomicBool, .bool b => .bool b
  | .int w, .int n | .atomicInt w, .int n | .nonZero w, .int n => intValue w n
  | .f32, .f32 x => .float x
  | .f64, .f64 x => .double x
  | .char, .char c => .char c
  | .string, .string s => .string s
  | .option _, .none => .null
  | .option t, .some d => valueOf S owned t d place
  | .vec t, .list items | .array t _, .list items => .array (valuesOf S owned t items place 0)
  | .sortedMap v, .entries kvs | .hashMap v, .entries kvs | .fixedMap v, .entries kvs =>
    .map (ValueMap.ofList (entriesOf S owned v kvs place 0))
  | .valueMap, .values m => if owned then .map m else (Value.map m).reborrow
  | u, .int n =>
    match S.scalar? u with
    | some s => intValue s.repr n
    | none => .null
  | u, .record fields =>
    let here := if fields.isEmpty then .sizeless else if owned then place.move else place
    .object (.mk u d here owned)
  | _, _ => .null

def valuesOf (S : Schema) (owned : Bool) (t : Ty) : List Datum → Identity → Nat → List Value
  | [], _, _ => []
  | d :: ds, place, i => valueOf S owned t d (.part place i) :: valuesOf S owned t ds place (i + 1)

def entriesOf (S : Schema) (owned : Bool) (t : Ty) :
    List (String × Datum) → Identity → Nat → List (String × Value)
  | [], _, _ => []
  | (k, d) :: rest, place, i => (k, valueOf S owned t d (.part place i)) :: entriesOf S owned t rest place (i + 1)

end

end Schema

end ObjectMapping
