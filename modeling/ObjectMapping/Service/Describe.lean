import ObjectMapping.Service.Strategies

/-!
# Type operations, descriptors and errors in detail

`type_ops` shows what the engine knows of a type (its value operations, its default) and runs
those operations on instances, also on instances of another type. `descriptor_info` shows a
record's descriptor and reads and resets fields through it. `error_info` and `make_error`
show every view of an error: its kind, text, diagnostic text and property path.
-/

namespace ObjectMapping.Service

open ObjectMapping.Json

/-- The types whose default `type_ops` may put in. -/
def defaultSourceOfName? (key : String) : Option Ty :=
  if ["i32", "u64", "String", "Point", "Settings", "Percent", "Celsius", "Code"].contains key then
    Catalogue.anyTypeOfKey? key
  else none

/-- An instance named by its key, as an answer; an absent option is `null` alone. -/
def keyedDump (key : String) (t : Ty) (d : Datum) : Tree :=
  match dumpData t d with
  | .null => .null
  | dump => .object [("as", .string key), ("value", dump)]

/-- The key a type is asked by. -/
def keyOf (t : Ty) : String := (Catalogue.keyOf? t).getD t.typeName

/-- Value operations as an answer. -/
def valueOpsTree (S : Schema) (o : ValueOps) : Tree :=
  .object [
    ("kind", .string o.kind.name),
    ("primitive", optionText (o.primitive.map Primitive.debugName)),
    ("volatile", .bool o.volatile),
    ("nullable", .bool o.nullable),
    ("descriptor", optionText ((o.descriptor >>= S.descriptor?).map (·.ident))),
    ("debug", .string o.debug)]

/-- A value operation on an instance: its borrowed or owned value, if the operations are those
of the instance's type. -/
def valueWith (S : Schema) (ops : TypeOps) (owned : Bool) (x : Instance) : Except MapError Value :=
  match ops.value with
  | none => throw (.shape (.wrongType ops.typeName))
  | some o =>
    if x.ty == ops.ty then pure (S.valueOf owned x.ty x.datum x.identity)
    else throw (.shape (.wrongType o.kind.name))

/-- `type_ops`: the operations of a type, and what they do to instances. -/
def typeOpsRequest (request : Tree) : ServiceM Tree := do
  let key ← stringField request "type"
  let t ← anyTypeOfKey key
  let S := Catalogue.schema
  let withoutValue := ((← optBool request "opaque").getD false) || Catalogue.opaqueKeys.contains key
  let base := if withoutValue then S.opaqueOps t else S.typeOps t
  let withDefault ← match ← optString request "with_default" with
    | none => pure none
    | some name =>
      match defaultSourceOfName? name with
      | some d => pure (some (name, d))
      | none => refuse ("no Default for `" ++ name ++ "`")
  let ops : TypeOps := if withDefault.isSome then { base with default := .declared } else base
  let made := match withDefault with
    | some (name, d) => (S.default? d).map fun v => (if d == t then key else name, d, v)
    | none => (ops.makeDefault S).toOption.map fun v => (key, t, v)
  let default := match made with
    | some (k, d, v) => keyedDump k d v
    | none => .null
  let mut members : List (String × Tree) := [
    ("debug", .string ops.debug),
    ("type_name", .string ops.typeName),
    ("has_default", .bool ops.hasDefault),
    ("default", default),
    ("value_ops", match ops.value with
      | some o => valueOpsTree S o
      | none => .null)]
  let value ← match request.get? "value" with
    | none => pure none
    | some v => some <$> instanceOf t v
  if let some x := value then
    if ops.value.isSome then
      members := members ++ [
        ("to_value", mappedTree ((valueWith S ops false x).map tagged)),
        ("into_value", mappedTree ((valueWith S ops true x).map tagged))]
  if let some other := request.get? "other" then
    let o ← instanceOf (← anyTypeOfKey (← stringField other "type")) (← field other "value")
    if ops.value.isSome then
      if value.isSome then
        members := members ++ [("to_value_other", mappedTree ((valueWith S ops false o).map tagged))]
      else
        members := members ++ [("into_value_other", mappedTree ((valueWith S ops true o).map tagged))]
    if value.isSome then
      let assigned : Except MapError Tree :=
        if o.ty == t then pure (keyedDump key t o.datum) else throw (.shape (.wrongType t.typeName))
      members := members ++ [("assign", mappedTree assigned)]
  let incoming ← match request.get? "wire", request.get? "boxed" with
    | some w, _ => some <$> (Incoming.wire <$> valueOf w)
    | none, some b => do
      some <$> (Incoming.boxed <$> instanceOf (← anyTypeOfKey (← stringField b "type")) (← field b "value"))
    | none, none => pure none
  if let some inc := incoming then
    let debug := match inc with
      | .wire v => "Wire(" ++ v.debug ++ ")"
      | .boxed _ => "Boxed"
    let place ← factory Factory.freshIdentity
    let boxed ← attempt (Strategy.intoBoxed (fun t v => Mapper.decode v.fuel 0 t v) ops place inc)
    members := members ++ [("incoming", .object [("debug", .string debug),
      ("into_boxed", mappedTree (boxed.map fun x => keyedDump (keyOf x.ty) x.ty x.datum))])]
  pure (.object members)

/-- `descriptor_info`: a record's descriptor, and fields read and reset through it. -/
def descriptorInfoRequest (request : Tree) : ServiceM Tree := do
  let d ← descriptorOfKey (← stringField request "type")
  let S := Catalogue.schema
  let construct := if d.constructible then (S.default? d.ty).map (dumpData d.ty) else none
  let mut members : List (String × Tree) := [
    ("debug", .string d.debug),
    ("ident", .string d.ident),
    ("type_id_matches", .bool true),
    ("ops_type_name", .string d.typeName),
    ("construct", construct.getD .null),
    ("excluded", .array (d.excluded.map fun f => .object [
      ("name", .string f.name),
      ("has_offset", .bool f.offset.isSome),
      ("debug", .string f.debug),
      ("default_present", .bool (f.ops.makeDefault S).toOption.isSome)])),
    ("properties", .array (d.properties.map fun p => .object [
      ("debug", .string p.debug),
      ("type_id_matches_ops", .bool true),
      ("flags", .string p.flagsDebug)]))]
  if let some names := request.get? "lookup" then
    let names ← (← asArray "lookup" names).mapM (asString "lookup")
    members := members ++ [("lookup", .array (names.map fun n =>
      match d.property? n with
      | some p => Tree.nat p.index
      | none => .null))]
  if let some dump := request.get? "instance" then
    let x ← instanceOf d.ty dump
    let get := d.properties.map fun p =>
      match p.ops.value with
      | some _ =>
        let field := x.datum.field p.position
        tagged (S.valueOf false p.ops.ty field (.part x.identity p.position))
      | none => .string "opaque"
    let names ← match request.get? "reset" with
      | none | some .null => pure []
      | some v => do (← asArray "reset" v).mapM (asString "reset")
    let (after, reset) ← names.foldlM (fun (acc : Datum × Array Tree) n => do
      let p ← propertyOf d n
      match p.ops.makeDefault S with
      | .ok v => pure (acc.1.setField p.position v, acc.2.push .null)
      | .error _ => pure (acc.1, acc.2.push (.string "no default"))) (x.datum, #[])
    members := members ++ [("get", .array get), ("reset", .array reset.toList),
      ("after", dumpData d.ty after)]
  if request.get? "other" |>.isSome then
    let falses := Tree.array (d.properties.map fun _ => .bool false)
    members := members ++ [("other_get", falses), ("other_get_mut", falses)]
  pure (.object members)

/-- Every view of an error. -/
def errorDetails (e : MapError) : List (String × Tree) :=
  [("kind", .string e.kindName),
    ("display", .string e.message),
    ("debug", .string e.debug),
    ("is_config", .bool e.isConfig),
    ("is_shape", .bool e.isShape),
    ("root", .string e.root.message),
    ("path", match e.path? with
      | some p => .object [
          ("display", .string p.display),
          ("len", Tree.nat p.segments.length),
          ("debug", .string p.debug),
          ("default_eq", .bool p.segments.isEmpty),
          ("clone_eq", .bool true)]
      | none => .null)]

/-- `error_info`: reads an instance from JSON text, and shows the error if that fails. -/
def errorInfoRequest (request : Tree) : ServiceM Tree := do
  let (r, f) := (ExceptT.run (deserializeRequest request true)).run (← get)
  set f
  match r with
  | .ok v => pure (.object [("value", v)])
  | .error (.mapping e _) => pure (.object (errorDetails e))
  | .error fault => throw fault

/-- A kind by its name. -/
def kindOfName (name : String) : ServiceM Kind :=
  match Kind.ofName? name with
  | some k => pure k
  | none => refuse ("unknown kind `" ++ name ++ "`")

/-- `make_error`: an error built directly, and its views. -/
def makeErrorRequest (request : Tree) : ServiceM Tree := do
  let e : MapError ← match ← stringField request "kind" with
    | "custom" => do pure (.custom (← stringField request "text"))
    | "mismatch" => do
      pure (.mismatch (← kindOfName (← stringField request "expected"))
        (← kindOfName (← stringField request "found")))
    | "fmt" => pure (.custom "formatter error")
    | "depth" => do pure (.depthExceeded (← asNat "max" (← field request "max")))
    | "locked" => pure (.config .strategyLocked)
    | "missing" => do pure (.config (.missingMapper (← stringField request "text")))
    | "length" => do
      pure (.shape (.length (← asNat "expected" (← field request "expected"))
        (← asNat "found" (← field request "found"))))
    | other => refuse ("unknown error kind `" ++ other ++ "`")
  let clone := match e with
    | .config _ => [("config_clone_eq", Tree.bool true)]
    | .shape _ => [("shape_clone_eq", Tree.bool true)]
    | _ => []
  pure (.object (errorDetails e ++ clone))

end ObjectMapping.Service
