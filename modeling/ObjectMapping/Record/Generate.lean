import ObjectMapping.Record.Basic

/-!
# The code generated for a mapped record

`MappedRecord.generate` writes the implementations that make a record mappable, as tokens, in
one anonymous constant block so that nothing it names leaks out:

* the descriptor: a property for each field that is not skipped, in declaration order and with
  its index, name, rename, default and offset; an excluded field for each skipped one; the
  exhaustive-layout mark and field offsets unless the record is packed; a constructor when the
  record has `#[mapped(default)]`. It is built once and cached in a cell (one per instantiation
  for a generic record).
* the value conversions: a record is written as an object and read through its mapper; its
  allocation default has every field at its own allocation default (or `Default` for skipped
  and `default` fields), and none when an adapted field has no `default`.
* self-registration, for a record with `#[mapped(auto_register)]` that is not generic.

Generic records get a `where` clause that bounds every type parameter and every field type by
what its property needs.
-/

namespace ObjectMapping

open ObjectMapping.Tokens ObjectMapping.Syntax ObjectMapping.Record

namespace FullPath

/-- Standard items by their absolute paths, which generated code uses so that local names
cannot shadow them. -/
def any : List Token := words ":: core :: any :: Any"
def box : List Token := words ":: std :: boxed :: Box"
def default : List Token := words ":: core :: default :: Default"
def option : List Token := words ":: core :: option :: Option"
def result : List Token := words ":: core :: result :: Result"

end FullPath

namespace MappedRecord

/-- An item of the mapping crate. -/
def item (m : MappedRecord) (path : String) : List Token := m.cratePath ++ words (":: " ++ path)

/-- The identifier of a generic parameter, with the comma after it. -/
def paramIdent : GenericParam × List Token → List Token
  | (.type _ ident _ _, comma) => ident :: comma
  | (.const _ ident _ _, comma) => ident :: comma
  | (.lifetime _, _) => []

/-- A generic parameter as the implementation declares it: without its default. -/
def paramDeclared : GenericParam × List Token → List Token
  | (.type attrs ident bounds _, comma) =>
    attrs ++ [ident] ++ (if bounds.isEmpty then [] else op ":" ++ bounds) ++ comma
  | (.const attrs ident ty _, comma) => attrs ++ words "const" ++ [ident] ++ op ":" ++ ty ++ comma
  | (.lifetime _, _) => []

/-- The generic parameters of the implementations, `<T: Bound, const N: usize>`. -/
def implGenerics (m : MappedRecord) : List Token :=
  if m.params.isEmpty then [] else op "<" ++ m.params.flatMap paramDeclared ++ op ">"

/-- The record's type with its parameters, `<T, N>`. -/
def typeGenerics (m : MappedRecord) : List Token :=
  if m.params.isEmpty then [] else op "<" ++ m.params.flatMap paramIdent ++ op ">"

/-- The bound a field's type needs in a generic record. -/
def fieldBound (m : MappedRecord) (f : MappedField) : List Token :=
  if f.isSkipped || f.isAdapted then
    if f.isSkipped || f.flags.default then FullPath.any ++ op "+" ++ FullPath.default
    else FullPath.any
  else if f.flags.default then item m "Mappable" ++ op "+" ++ FullPath.default
  else item m "Mappable"

/-- The `where` clause of the implementations: the record's own predicates and, for a generic
record, `T: Any` for every type parameter and a bound for every field type. -/
def whereClause (m : MappedRecord) : List Token :=
  let existing := terminated (op ",") m.predicates
  if !m.isGeneric then
    if m.predicates.isEmpty then [] else words "where" ++ existing
  else
    let typeParams := m.params.filterMap fun
      | (.type _ ident _ _, _) => some ([ident] ++ op ":" ++ FullPath.any)
      | _ => none
    let fields := m.fields.map fun f => f.ty ++ op ":" ++ fieldBound m f
    words "where" ++ existing ++ terminated (op ",") typeParams ++ terminated (op ",") fields

/-- `.with_offset(offset_of!(Self, field))`, unless the record is packed. -/
def offset (m : MappedRecord) (f : MappedField) : List Token :=
  if m.packed then []
  else words ". with_offset" ++
    paren (words ":: core :: mem :: offset_of !" ++ paren (words "Self ," ++ [f.ident]))

/-- The property of a field, with its index among the properties. -/
def property (m : MappedRecord) (index : Nat) (f : MappedField) : List Token :=
  let ctor := if f.isAdapted then "adapted" else "new"
  let access (mutable : Bool) : List Token :=
    words "| owner | owner ." ++ words (if mutable then "downcast_mut" else "downcast_ref") ++
      words ":: < Self >" ++ paren [] ++ words ". map" ++
      paren (words "| v | &" ++ (if mutable then words "mut" else []) ++ words "v ." ++
        [f.ident] ++ words "as &" ++ (if mutable then words "mut" else []) ++ words "dyn" ++
        FullPath.any)
  let rename := match f.flags.rename with
    | some lit => words ". with_rename" ++ paren [lit]
    | none => []
  let default := if f.flags.default then words ". with_default :: <" ++ f.ty ++ words "> ()" else []
  item m "info :: PropertyInfo" ++ op "::" ++ words ctor ++ op "::" ++ op "<" ++ f.ty ++ op ">" ++
    paren ([Token.stringLiteral f.name] ++ op "," ++ [Token.usizeLiteral index] ++ op "," ++
      access false ++ op "," ++ access true ++ op ",") ++
    rename ++ default ++ offset m f

/-- The excluded field of a skipped field. -/
def excludedField (m : MappedRecord) (f : MappedField) : List Token :=
  item m "info :: ExcludedField" ++ words ":: new :: <" ++ f.ty ++ op ">" ++
    paren [Token.stringLiteral f.name] ++ offset m f

/-- The expression that builds the descriptor. -/
def descriptor (m : MappedRecord) : List Token :=
  let props := m.properties.zipIdx.map fun (f, i) => property m i f
  let excluded := m.excluded.map (excludedField m)
  let withExcluded := if excluded.isEmpty then []
    else words ". with_excluded" ++ paren (bracket (separated (op ",") excluded))
  let withExhaustive := if m.packed then [] else words ". with_exhaustive_layout ()"
  let withConstructor := if m.flags.default then words ". with_constructor :: < Self > ()" else []
  let built := item m "info :: TypeDescriptor" ++ words ":: new :: < Self >" ++
    paren ([Token.stringLiteral m.name] ++ op "," ++
      brace (words "let properties :" ++
        bracket (item m "info :: PropertyInfo" ++ op ";" ++ [Token.usizeLiteral props.length]) ++
        op "=" ++ bracket (separated (op ",") props) ++ words "; properties")) ++
    withExcluded ++ withExhaustive ++ withConstructor
  if m.packed then built else words "unsafe" ++ brace built

/-- The implementation of the descriptor trait. -/
def mappedImpl (m : MappedRecord) : List Token :=
  let cellType := item m (if m.isGeneric then "info :: GenericDescriptorCell"
    else "info :: NonGenericDescriptorCell")
  let getter := if m.isGeneric then words "get_or_insert :: < Self >" else words "get_or_init"
  let cell := words "static CELL :" ++ cellType ++ op "=" ++ cellType ++ words ":: new ()" ++
    op ";" ++ words "CELL ." ++ getter ++ paren (op "||" ++ brace (descriptor m))
  op "#" ++ bracket (words "allow" ++ paren (words "unsafe_code")) ++
    words "impl" ++ implGenerics m ++ item m "info :: Mapped" ++ words "for" ++ [m.ident] ++
    typeGenerics m ++ whereClause m ++
    brace (words "fn descriptor () -> & 'static" ++ item m "info :: TypeDescriptor" ++ brace cell)

/-- The allocation default: every field at its default, or none. -/
def allocDefault (m : MappedRecord) : List Token :=
  if m.properties.any fun f => f.isAdapted && !f.flags.default then FullPath.option ++ words ":: None"
  else
    let fields := m.fields.map fun f =>
      if f.isSkipped || f.flags.default then
        [f.ident] ++ op ":" ++ op "<" ++ f.ty ++ words "as" ++ FullPath.default ++ words "> :: default ()"
      else
        [f.ident] ++ op ":" ++ op "<" ++ f.ty ++ words "as" ++ item m "Mappable" ++
          words "> :: alloc_default () ?"
    FullPath.option ++ words ":: Some" ++ paren (words "Self" ++ brace (terminated (op ",") fields))

/-- The implementation of the value conversions. -/
def mappableImpl (m : MappedRecord) : List Token :=
  let inline := op "#" ++ bracket (words "inline")
  let value := item m "Value"
  let objectRef := item m "value :: ObjectRef"
  words "impl" ++ implGenerics m ++ item m "Mappable" ++ words "for" ++ [m.ident] ++
    typeGenerics m ++ whereClause m ++ brace (
      words "const KIND :" ++ item m "Kind" ++ op "=" ++ item m "Kind" ++ words ":: Object ;" ++
      inline ++ words "fn to_value" ++ paren (words "& self") ++ op "->" ++ value ++
        words "< '_ >" ++ brace (value ++ words ":: Object" ++
          paren (objectRef ++ words ":: borrowed" ++ paren (words "self"))) ++
      inline ++ words "fn into_value" ++ paren (words "self") ++ op "->" ++ value ++
        words "< 'static >" ++ brace (value ++ words ":: Object" ++
          paren (objectRef ++ words ":: owned" ++ paren (words "self"))) ++
      inline ++ words "fn from_value" ++
        paren (words "value :" ++ value ++ words "< 'static > , ctx : &" ++
          item m "SerializationContext" ++ words "< '_ > ,") ++ op "->" ++ FullPath.result ++
        op "<" ++ words "Self ," ++ item m "MapError" ++ op ">" ++
        brace (words "ctx . deserialize_nested" ++ paren (words "value")) ++
      words "fn alloc_default ()" ++ op "->" ++ FullPath.option ++ words "< Self >" ++
        brace (allocDefault m) ++
      inline ++ words "fn type_descriptor ()" ++ op "->" ++ FullPath.option ++ op "<" ++
        words "& 'static" ++ item m "info :: TypeDescriptor" ++ op ">" ++
        brace (FullPath.option ++ words ":: Some" ++
          paren (words "< Self as" ++ item m "info :: Mapped" ++ words "> :: descriptor ()")))

/-- Self-registration of a record with `#[mapped(auto_register)]` that is not generic. -/
def autoRegister (m : MappedRecord) : List Token :=
  if !m.flags.autoRegister || m.isGeneric then []
  else
    let exports := item m "__macro_exports"
    exports ++ words ":: inventory :: submit !" ++
      brace (exports ++ words ":: __AutoRegisterFunc" ++
        paren (op "<" ++ [m.ident] ++ words "as" ++ item m "info :: Mapped" ++
          words "> :: descriptor"))

/-- The code written in place of the implementations when a declaration is invalid: a
compile error with the message. -/
def compileError (message : String) : List Token :=
  words ":: core :: compile_error !" ++ brace [Token.stringLiteral message]

/-- The crate whose items generated code names. -/
def crateName : String := "vc_mapper"

/-- All the generated code, in one anonymous constant block. -/
def generate (m : MappedRecord) : List Token :=
  words "const _ : ()" ++ op "=" ++ brace (mappedImpl m ++ mappableImpl m ++ autoRegister m) ++ op ";"

end MappedRecord

end ObjectMapping
