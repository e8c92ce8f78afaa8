import ObjectMapping.Service.Mapping

/-!
# Describing types, mappers and values

The requests that look at what the engine knows: how a type is written (`type_info`), the
mapper a factory builds for it (`mapper_info`, `mapper_debug`), what a value says of itself
(`value_info`, `value_eq`), the value map (`valuemap`), the naming policies (`naming`), object
references (`object_ref`) and the values plain data is written as (`value_from`).
-/

namespace ObjectMapping.Service

open ObjectMapping.Json ObjectMapping.Text

/-- An optional string as an answer. -/
def optionText : Option String → Tree
  | some s => .string s
  | none => .null

def strings (xs : List String) : Tree := .array (xs.map Tree.string)

/-- `type_info`: how a type is written. -/
def typeInfoRequest (request : Tree) : ServiceM Tree := do
  let t ← requestType request
  let S := Catalogue.schema
  let some ops := S.valueOps? t | refuse ("`" ++ t.typeName ++ "` has no value representation")
  let allocDefault := match S.allocDefault t with
    | .ok d => Tree.object [("value", dumpData t d)]
    | .error _ => .null
  let descriptor := match ops.descriptor >>= S.descriptor? with
    | some d => Tree.string d.ident
    | none => .null
  pure (.object [
    ("type_name", .string t.typeName),
    ("kind", .string ops.kind.name),
    ("display", .string ops.kind.name),
    ("is_primitive", .bool ops.kind.isPrimitive),
    ("is_numeric", .bool ops.kind.isNumeric),
    ("is_composite", .bool ops.kind.isComposite),
    ("primitive", optionText (ops.primitive.map Primitive.debugName)),
    ("primitive_kind", optionText (ops.primitive.map fun p => p.kind.name)),
    ("volatile", .bool ops.volatile),
    ("nullable", .bool ops.nullable),
    ("alloc_default", allocDefault),
    ("descriptor", descriptor),
    ("mapped", .bool (S.record? t).isSome)])

/-- A descriptor as an answer. -/
def descriptorTree (d : Descriptor) : Tree :=
  .object [
    ("ident", .string d.ident),
    ("type_name", .string d.typeName),
    ("fields", strings (d.properties.map (·.name))),
    ("excluded", strings (d.excluded.map (·.name))),
    ("has_constructor", .bool d.constructible),
    ("exhaustive", .bool d.exhaustive)]

/-- A mapped property as an answer. -/
def mappedPropertyTree (p : MappedProperty) : Tree :=
  .object [
    ("name", .string p.name),
    ("field", .string p.info.name),
    ("index", Tree.nat p.info.index),
    ("kind", .string p.kind.name),
    ("nullable", .bool p.nullable),
    ("adapters", strings p.chain.names),
    ("terminal", .string p.chain.terminal.typeName),
    ("declared", .string p.info.typeName),
    ("rename", optionText p.info.rename),
    ("volatile", .bool p.info.volatile),
    ("declared_nullable", .bool p.info.nullable),
    ("adapted", .bool p.info.adapted),
    ("has_offset", .bool p.info.offset.isSome),
    ("has_default", .bool p.info.ops.hasDefault),
    ("location_index", Tree.nat p.location.index)]

/-- A mapper as an answer. -/
def mapperTree (m : Mapper) : Tree :=
  .object [
    ("type_name", .string m.typeName),
    ("strategy", .string m.strategy.name),
    ("descriptor", match m.descriptor with
      | some d => descriptorTree d
      | none => .null),
    ("properties", .array (m.properties.map mappedPropertyTree))]

/-- `mapper_info`: the mapper a factory keeps for a type. -/
def mapperInfoRequest (request : Tree) : ServiceM Tree := do
  let t ← requestType request
  pure (mapperTree (← factory (Factory.createOrGet t)))

/-- `mapper_debug`: the text of a mapper, and its properties looked up by external name. -/
def mapperDebugRequest (request : Tree) : ServiceM Tree := do
  let t ← requestType request
  let m ← factory (Factory.createOrGet t)
  let again ← factory (Factory.createOrGet t)
  let names ← match request.get? "lookup" with
    | none | some .null => pure []
    | some v => do (← asArray "lookup" v).mapM (asString "lookup")
  let numbered := (List.range m.properties.length).zip m.properties
  let lookup := names.map fun n =>
    match numbered.find? (·.2.name == n) with
    | some (i, _) => Tree.nat i
    | none => .null
  pure (.object [
    ("debug", .string m.debug),
    ("clone_shares", .bool true),
    ("same_factory_cache", .bool (m.serial == again.serial)),
    ("properties", Tree.nat m.properties.length),
    ("type_id_matches", .bool true),
    ("lookup", .array lookup)])

/-- `value_info`: what a value says of itself. -/
def valueInfoRequest (request : Tree) : ServiceM Tree := do
  let v ← valueOf (← field request "value")
  pure (.object [
    ("kind", .string v.kind.name),
    ("classify", .string v.kind.name),
    ("is_null", .bool v.isNull),
    ("as_i64", match v.asI64? with
      | some n => Tree.int n
      | none => .null),
    ("as_f64", match v.asF64? with
      | some x => doubleHex x
      | none => .null),
    ("as_str", optionText v.asStr?),
    ("array_len", match v.asArray? with
      | some xs => Tree.nat xs.length
      | none => .null),
    ("map_keys", match v.asMap? with
      | some m => strings m.keys
      | none => .null),
    ("reborrow_eq", .bool (Value.beq v v.reborrow)),
    ("debug", .string v.debug)])

/-- `value_eq`: equality of two values. -/
def valueEqRequest (request : Tree) : ServiceM Tree := do
  let a ← valueOf (← field request "a")
  let b ← valueOf (← field request "b")
  pure (.bool (Value.beq a b))

/-- An optional value as an answer. -/
def optionTagged : Option Value → Tree
  | some v => tagged v
  | none => .null

/-- The length of a collection as an answer. -/
def lengthTree (n : Nat) : Tree := .object [("len", Tree.nat n), ("is_empty", .bool (n == 0))]

/-- One step on a value map: the map after it and the step's result. -/
def valueMapStep (m : ValueMap) (s : Tree) : ServiceM (ValueMap × Tree) := do
  let key : ServiceM String := stringField s "key"
  match ← stringField s "do" with
  | "insert" => do
    let (m', old) := m.insert (← key) (← valueOf (← field s "value"))
    pure (m', optionTagged old)
  | "get" => pure (m, optionTagged (m.get? (← key)))
  | "take" => do
    let (m', old) := m.take (← key)
    pure (m', optionTagged old)
  | "contains" => pure (m, .bool (m.contains (← key)))
  | "len" => pure (m, lengthTree m.size)
  | "keys" => pure (m, strings m.keys)
  | "dump" => pure (m, tagged (.map m))
  | "debug" => pure (m, .string m.debug)
  | "set" => do
    let (m', old) := m.set (← key) (← valueOf (← field s "value"))
    pure (m', optionText (old.map fun v => v.kind.name))
  | "eq" => do
    let other ← valueMapOf (← field s "value")
    pure (m, .bool (m == other))
  | "extend" => do
    let other ← valueMapOf (← field s "value")
    pure (m.extend other.entries, .null)
  | other => refuse ("unknown step `" ++ other ++ "`")

/-- `valuemap`: steps on one value map. -/
def valueMapRequest (request : Tree) : ServiceM Tree := do
  let steps ← asArray "steps" (← field request "steps")
  let (_, results) ← steps.foldlM (fun (acc : ValueMap × Array Tree) s => do
    let (m, r) ← valueMapStep acc.1 s
    pure (m, acc.2.push r)) (ValueMap.empty, #[])
  pure (.array results.toList)

/-- `naming`: the external name a policy gives a property of `Point`. -/
def namingRequest (request : Tree) : ServiceM Tree := do
  let policy ← stringField request "policy"
  let name ← stringField request "name"
  let rename ← optString request "rename"
  let naming ← match policy with
    | "camel" => pure Naming.camelCase
    | "field" => pure Naming.fieldName
    | other => refuse ("unknown policy `" ++ other ++ "`")
  let some d := Catalogue.schema.descriptor? Catalogue.point | refuse "`Point` has no descriptor"
  let some first := d.properties.head? | refuse "`Point` has no property"
  pure (.string (naming d { first with name, rename }))

/-- `object_ref`: the object reference of a borrowed or an owned value of a record. -/
def objectRefRequest (request : Tree) : ServiceM Tree := do
  let key ← stringField request "type"
  let t ← recordOfKey key
  let owned ← (·.getD false) <$> optBool request "owned"
  let x ← instanceOf t (← field request "value")
  let S := Catalogue.schema
  let borrowed := S.valueOf false t x.datum x.identity
  let v := S.valueOf owned t x.datum x.identity
  let .object r := v | refuse ("`" ++ key ++ "` is not a mapped type")
  let ident := match S.descriptor? t with
    | some d => d.ident
    | none => t.typeName
  let info := Tree.object [
    ("debug", .string r.debug),
    ("ident", .string ident),
    ("type_id_matches", .bool true),
    ("is_owned", .bool r.isOwned),
    ("reborrow_is_owned", .bool r.reborrow.isOwned),
    ("downcast_self", .bool true),
    ("downcast_point", .bool (t == Catalogue.point)),
    ("eq_reborrow", .bool (Value.beq v v.reborrow)),
    ("eq_other_instance", .bool (Value.beq v borrowed))]
  let back := if r.isOwned then Tree.object [("owned", dumpData r.ty r.datum)]
    else .object [("given_back", .bool true), ("is_owned", .bool false)]
  pure (.object [("info", info), ("into_owned_any", back)])

/-- The source types of `value_from`. -/
def sourceOfName? : String → Option Ty
  | "str" => some .string
  | "map" => some .valueMap
  | name =>
    if ["bool", "i8", "i16", "char", "i32", "i64", "f32", "f64", "String", "Option<i32>",
        "Option<String>", "Vec<i32>", "Vec<String>", "Vec<Option<bool>>", "Option<Vec<i8>>"].contains name
    then Catalogue.parseKey? 16 name.toList
    else none

/-- `value_from`: the value plain data is written as. -/
def valueFromRequest (request : Tree) : ServiceM Tree := do
  let source ← stringField request "from"
  let some t := sourceOfName? source | refuse ("unknown source type `" ++ source ++ "`")
  let x ← instanceOf t (← field request "value")
  let v := Catalogue.schema.valueOf true t x.datum x.identity
  pure (.object [("value", tagged v), ("kind", .string v.kind.name), ("debug", .string v.debug)])

end ObjectMapping.Service
