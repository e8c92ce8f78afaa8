import ObjectMapping.Schema.Basic
import ObjectMapping.Schema.Layout

/-!
# Descriptors

What the engine knows of a type (`TypeOps`): its name, its value representation, where its
default comes from, and its footprint in memory. A record's `Descriptor` lists its mapped
properties (`PropertyInfo`) in declaration order, numbered from 0, and its skipped fields
(`ExcludedField`).

* The `Footprint` of a type is its size, alignment and niche (`Schema.Layout`); a record's
  fields are placed by `Footprint.record`. A packed record has no field positions at all, which
  is what keeps offset-based access away from it.
* `PropertyFlags` are the volatile, nullable, adapted and renamed marks of a property, printed
  as `PropertyFlags(ADAPTED | RENAMED)` or `PropertyFlags(0x0)`.
-/

namespace ObjectMapping

open ObjectMapping.Text

/-- Where the default of a type comes from. -/
inductive DefaultSource where
  /-- No default. -/
  | none
  /-- The allocation default of the type's value representation. -/
  | alloc
  /-- The type's own default. -/
  | declared
  deriving DecidableEq, Repr, Inhabited

/-- What the engine knows of a type. -/
structure TypeOps where
  ty : Ty
  value : Option ValueOps
  default : DefaultSource
  footprint : Footprint
  deriving DecidableEq, Repr, Inhabited

/-- A mapped property of a record. -/
structure PropertyInfo where
  /-- The record the property belongs to. -/
  owner : Ty
  name : String
  rename : Option String
  /-- The number of the property among the mapped ones. -/
  index : Nat
  /-- The position of the field among all fields of the record. -/
  position : Nat
  offset : Option Nat
  ops : TypeOps
  volatile : Bool
  nullable : Bool
  adapted : Bool
  deriving DecidableEq, Repr, Inhabited

/-- A skipped field of a record, always filled with its type's default. -/
structure ExcludedField where
  name : String
  position : Nat
  offset : Option Nat
  ops : TypeOps
  deriving Repr, Inhabited

/-- The description of a record type. -/
structure Descriptor where
  ops : TypeOps
  ident : String
  properties : List PropertyInfo
  excluded : List ExcludedField
  /-- Fresh instances can be made by the type's default. -/
  constructible : Bool
  /-- Every field has a known position, so instances can be built field by field. -/
  exhaustive : Bool
  deriving Repr, Inhabited

namespace Schema

/-- The footprint of a type. Strings and vectors keep their capacity below `2^63`, which leaves
`2^63` patterns spare; boxes and hash tables hold a pointer that is never null. A record is laid
out from the footprints of its fields, with one step less of fuel. -/
def footprintOf (S : Schema) : Nat → Ty → Footprint
  | 0, _ => ⟨0, 1, none⟩
  | fuel + 1, t =>
    match t with
    | .bool => .scalar 1 254
    | .atomicBool => .ofWidth 1
    | .int w | .atomicInt w => .ofWidth (w.bits / 8)
    | .nonZero w => .scalar (w.bits / 8) 1
    | .f32 => .ofWidth 4
    | .char => .scalar 4 (Nat.pow 2 32 - 0x110000)
    | .f64 => .ofWidth 8
    | .string | .vec _ => ⟨24, 8, some ⟨0, 8, Nat.pow 2 63⟩⟩
    | .boxed _ => .scalar 8 1
    | .option t => (S.footprintOf fuel t).option
    | .array t n => (S.footprintOf fuel t).array n
    | .sortedMap _ => ⟨24, 8, none⟩
    | .hashMap _ => ⟨48, 8, some ⟨0, 8, 1⟩⟩
    | .fixedMap _ => ⟨32, 8, some ⟨0, 8, 1⟩⟩
    | .valueMap => ⟨56, 8, some ⟨0, 8, Nat.pow 2 63⟩⟩
    | .named _ | .apply _ _ =>
      match S.scalar? t, S.opaque? t, S.record? t with
      | some s, _, _ => .ofWidth (s.repr.bits / 8)
      | none, some o, _ => ⟨o.size, o.align, none⟩
      | none, none, some (r, args) =>
        (Footprint.record r.packed ((r.fieldsAt args).map fun f => S.footprintOf fuel f.ty)).1
      | none, none, none => ⟨0, 1, none⟩
    | .param _ => ⟨0, 1, none⟩

/-- The footprint of a record and the offsets of its fields in declaration order (none when
the record is packed). -/
def recordLayout (S : Schema) (fuel : Nat) (r : RecordDecl) (args : List Ty) :
    Footprint × List (Option Nat) :=
  let (print, offsets) := Footprint.record r.packed ((r.fieldsAt args).map fun f =>
    S.footprintOf fuel f.ty)
  (print, offsets.map fun o => if r.packed then none else some o)

/-- The footprint of a type, laid out with the fuel of `Schema.depthBound`. -/
def footprint (S : Schema) (t : Ty) : Footprint := S.footprintOf S.depthBound t

/-- The operations of a type with a value representation; its default is the allocation
default. -/
def typeOps (S : Schema) (t : Ty) : TypeOps :=
  ⟨t, S.valueOps? t, if (S.valueOps? t).isSome then .alloc else .none, S.footprint t⟩

/-- The operations of a type used without its value representation. -/
def opaqueOps (S : Schema) (t : Ty) : TypeOps := ⟨t, none, .none, S.footprint t⟩

/-- The descriptor of a record type. -/
def descriptor? (S : Schema) (t : Ty) : Option Descriptor := do
  let (r, args) ← S.record? t
  let fields := r.fieldsAt args
  let (print, offsets) := S.recordLayout S.depthBound r args
  let numbered := (List.range fields.length).zip fields
  let props := numbered.filter (·.2.isProperty)
  let skipped := numbered.filter (!·.2.isProperty)
  let properties := ((List.range props.length).zip props).map fun (index, position, f) =>
    let base := if f.adapted then S.opaqueOps f.ty else S.typeOps f.ty
    let ops := if f.useDefault then { base with default := .declared } else base
    let vo := if f.adapted then none else S.valueOps? f.ty
    { owner := t, name := f.name, rename := f.rename, index, position
      offset := offsets.getD position none, ops
      volatile := vo.any (·.volatile), nullable := vo.any (·.nullable), adapted := f.adapted }
  let excluded := skipped.map fun (position, f) =>
    { name := f.name, position, offset := offsets.getD position none
      ops := { S.opaqueOps f.ty with default := .declared } : ExcludedField }
  pure
    { ops := { ty := t, value := S.valueOps? t, default := .alloc, footprint := print }
      ident := r.ident, properties, excluded, constructible := r.constructible
      exhaustive := !r.packed }

end Schema

namespace TypeOps

def typeName (o : TypeOps) : String := o.ty.typeName

def hasDefault (o : TypeOps) : Bool := o.default != .none

/-- A fresh default instance, unless the type has none or computing it never returns. -/
def makeDefault (o : TypeOps) (S : Schema) : Except AllocStop Datum :=
  match o.default with
  | .none => throw .none
  | .alloc => S.allocDefault o.ty
  | .declared => (S.default? o.ty).elim (throw .none) pure

/-- What stops the type's default from being made, if anything does. -/
def defaultStop? (o : TypeOps) (S : Schema) : Option AllocStop :=
  match o.makeDefault S with
  | .ok _ => none
  | .error s => some s

end TypeOps

namespace ValueOps

def debug (o : ValueOps) : String :=
  "ValueOps \x7b kind: " ++ o.kind.debugName ++ ", primitive: " ++
    (match o.primitive with
      | some p => "Some(" ++ p.debugName ++ ")"
      | none => "None") ++
    ", volatile: " ++ toString o.volatile ++ ", nullable: " ++ toString o.nullable ++ ", .. \x7d"

end ValueOps

namespace TypeOps

def debug (o : TypeOps) : String :=
  "TypeOps \x7b type_name: " ++ debugQuote o.typeName ++ ", value: " ++
    (match o.value with
      | some v => "Some(" ++ v.debug ++ ")"
      | none => "None") ++
    ", has_default: " ++ toString o.hasDefault ++ ", .. \x7d"

end TypeOps

/-- The marks of a property, as bits: volatile 1, nullable 2, adapted 4, renamed 8. -/
def PropertyInfo.flagNames (p : PropertyInfo) : List String :=
  (if p.volatile then ["VOLATILE"] else []) ++ (if p.nullable then ["NULLABLE"] else []) ++
    (if p.adapted then ["ADAPTED"] else []) ++ (if p.rename.isSome then ["RENAMED"] else [])

namespace PropertyInfo

/-- `PropertyFlags(A | B)`, or `PropertyFlags(0x0)` with no mark. -/
def flagsDebug (p : PropertyInfo) : String :=
  match p.flagNames with
  | [] => "PropertyFlags(0x0)"
  | names => "PropertyFlags(" ++ " | ".intercalate names ++ ")"

def typeName (p : PropertyInfo) : String := p.ops.typeName

/-- Offsets are shown masked: they depend on the machine. -/
def offsetDebug (offset : Option Nat) : String :=
  match offset with
  | some _ => "Some(_)"
  | none => "None"

def debug (p : PropertyInfo) : String :=
  "PropertyInfo \x7b name: " ++ debugQuote p.name ++ ", rename: " ++
    (match p.rename with
      | some r => "Some(" ++ debugQuote r ++ ")"
      | none => "None") ++
    ", index: " ++ toString p.index ++ ", offset: " ++ offsetDebug p.offset ++ ", type_name: " ++
    debugQuote p.typeName ++ ", flags: " ++ p.flagsDebug ++ " \x7d"

end PropertyInfo

def ExcludedField.debug (f : ExcludedField) : String :=
  "ExcludedField \x7b name: " ++ debugQuote f.name ++ ", offset: " ++
    PropertyInfo.offsetDebug f.offset ++ ", ops: " ++ f.ops.debug ++ " \x7d"

namespace Descriptor

def ty (d : Descriptor) : Ty := d.ops.ty

def typeName (d : Descriptor) : String := d.ops.typeName

/-- The property of a field name. -/
def property? (d : Descriptor) (field : String) : Option PropertyInfo :=
  d.properties.find? (·.name == field)

/-- The number of the property within this descriptor: where that very property stands in its
list, if it is one of its own. -/
def position? (d : Descriptor) (p : PropertyInfo) : Option Nat :=
  d.properties.idxOf? p

def debug (d : Descriptor) : String :=
  "TypeDescriptor \x7b type_name: " ++ debugQuote d.typeName ++ ", properties: [" ++
    ", ".intercalate (d.properties.map PropertyInfo.debug) ++ "], excluded: [" ++
    ", ".intercalate (d.excluded.map ExcludedField.debug) ++ "], constructor: " ++
    toString d.constructible ++ " \x7d"

end Descriptor

end ObjectMapping
