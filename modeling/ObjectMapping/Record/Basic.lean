import ObjectMapping.Record.Attributes

/-!
# Mapped records

A `MappedRecord` is a struct declaration accepted for generation: its fields with their
`mapped` flags, its generic parameters and `where` predicates, its own flags, whether it is
packed, and the path of the mapping crate its generated code names.

`MappedRecord.ofDeclaration` accepts a declaration or says why not, checking in this order:
the item is a struct (not an enum or a union), its fields are named, it has no lifetime
parameters, every field's `mapped` attributes are valid; then the crate path is needed (a
failure there aborts), and last the type's own `mapped` attributes are read.
-/

namespace ObjectMapping

open ObjectMapping.Syntax ObjectMapping.Record

/-- A field of a mapped record. -/
structure MappedField where
  ident : Token
  ty : List Token
  flags : FieldFlags
  deriving Inhabited

namespace MappedField

/-- The field's name: its identifier without `r#`. -/
def name (f : MappedField) : String :=
  match f.ident with
  | .ident n _ => n
  | t => t.render

/-- Whether the field is left out of the properties. -/
def isSkipped (f : MappedField) : Bool := f.flags.skip

/-- Whether the field is read and written through adapters. -/
def isAdapted (f : MappedField) : Bool := f.flags.adapted

end MappedField

/-- A struct declaration accepted for generation. -/
structure MappedRecord where
  /-- The tokens of the path of the mapping crate. -/
  cratePath : List Token
  ident : Token
  params : List (GenericParam × List Token)
  predicates : List (List Token)
  flags : TypeFlags
  packed : Bool
  fields : List MappedField
  deriving Inhabited

/-- Why a declaration yields no code. -/
inductive Refusal where
  /-- The declaration is not one that can be mapped; reported in place of generated code. -/
  | invalid (message : String)
  /-- The build around the declaration is broken; generation aborts. -/
  | abort (message : String)
  deriving Inhabited

namespace MappedRecord

/-- The record's name: its identifier without `r#`. -/
def name (m : MappedRecord) : String :=
  match m.ident with
  | .ident n _ => n
  | t => t.render

/-- The fields that are properties, in declaration order. -/
def properties (m : MappedRecord) : List MappedField := m.fields.filter (!·.isSkipped)

/-- The skipped fields, in declaration order. -/
def excluded (m : MappedRecord) : List MappedField := m.fields.filter (·.isSkipped)

/-- Whether the record has generic parameters. -/
def isGeneric (m : MappedRecord) : Bool := !m.params.isEmpty

/-- Whether a generic parameter is a lifetime. -/
def isLifetime : GenericParam × List Token → Bool
  | (.lifetime _, _) => true
  | _ => false

/-- Accepts a declaration, given the crate path the manifest resolves (needed only once the
declaration itself is valid). -/
def ofDeclaration (d : Declaration) (cratePath : Except String (List Token)) :
    Except Refusal MappedRecord := do
  let fields ← match d.body with
    | .enum => throw (.invalid "`Mapped` cannot be derived for enums")
    | .union => throw (.invalid "`Mapped` cannot be derived for unions")
    | .struct (.named fs) => pure fs
    | .struct _ => throw (.invalid "`Mapped` requires a struct with named fields")
  if d.params.any isLifetime then
    throw (.invalid "`Mapped` types cannot have lifetime parameters")
  let fields ← fields.mapM fun f => do
    let flags ← (fieldFlags f.attrs).mapError Refusal.invalid
    pure ({ ident := f.ident, ty := f.ty, flags } : MappedField)
  let path ← cratePath.mapError Refusal.abort
  let flags ← (typeFlags d.attrs).mapError Refusal.invalid
  pure {
    cratePath := path
    ident := d.ident
    params := d.params
    predicates := d.predicates
    flags
    packed := isPacked d.attrs
    fields }

end MappedRecord

end ObjectMapping
