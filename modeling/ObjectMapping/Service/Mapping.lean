import ObjectMapping.Service.Setup
import ObjectMapping.Format.Trace

/-!
# Writing and reading instances

The requests that run mappers and formats: `serialize` and `trace` write an instance of a type
with the mapper of the type, `deserialize` and its variants read one, `from_value` and `nested`
read a value as the value operations and the nesting of a context do, `read` and `write` run
the JSON format alone.

A write that fails after it started answers the output written so far (`partial`). A read into
an existing instance that fails answers the instance as the failure left it (`state`).
-/

namespace ObjectMapping.Service

open ObjectMapping.Json

/-- The type a request names in its `type` member. -/
def requestType (request : Tree) : ServiceM Ty := do typeOfKey (← stringField request "type")

/-- Writes an instance with a mapper and a format: the result and the output so far. -/
def writeWith {σ : Type} (F : Format σ) (m : Mapper) (x : Instance) (out : σ) :
    ServiceM (Except MapError Unit × σ) := do
  let (r, f, out) := WriteM.run (Mapper.write F m x) (← get) out
  set f
  pure (r, out)

/-- The instance a read produced, if it is of the type asked for. -/
def downcast (t : Ty) (x : Instance) : Except MapError Instance :=
  if x.ty == t then pure x else throw (.shape (.wrongType t.typeName))

/-- The JSON text of an instance, as the mapper of its type writes it. -/
def jsonText (m : Mapper) (x : Instance) : ServiceM (Except MapError String) := do
  let (r, out) ← writeWith JsonFormat.format m x ""
  pure (r.map fun _ => out)

/-- Refuses types whose maps have no reproducible order. -/
def refuseHashOrdered (t : Ty) : ServiceM Unit :=
  if t.hashOrdered then refuse "hash-ordered maps are not serialized" else pure ()

/-- `serialize`: the JSON text of an instance; `partial` tells whether a failed write answers
the output so far. -/
def serializeRequest (request : Tree) (withPartial : Bool) : ServiceM Tree := do
  let t ← requestType request
  refuseHashOrdered t
  let x ← instanceOf t (← field request "value")
  let m ← factory (Factory.createOrGet t)
  let (r, out) ← writeWith JsonFormat.format m x ""
  match r with
  | .ok _ => pure (.string out)
  | .error e => failWith e (if withPartial then [("partial", .string out)] else [])

/-- A trace entry as an answer. -/
def TraceEntry.tree : TraceEntry → Tree
  | .begin => .string "begin"
  | .finish => .string "end"
  | .beginObject => .string "\x7b"
  | .endObject => .string "\x7d"
  | .separator first last => .array [.string "sep", .bool first, .bool last]
  | .value name kind depth v =>
    .array [.string "value", (name.map Tree.string).getD .null, .string kind.name, Tree.nat depth,
      shallowTagged v]

/-- `trace`: the calls a mapper makes on a recording format. -/
def traceRequest (request : Tree) (plain : Bool) : ServiceM Tree := do
  let t ← requestType request
  refuseHashOrdered t
  let x ← instanceOf t (← field request "value")
  let m ← factory (Factory.createOrGet t)
  let (r, out) ← writeWith (Recorder.format plain) m x #[]
  let entries := Tree.array (out.toList.map TraceEntry.tree)
  match r with
  | .ok _ => pure entries
  | .error e => failWith e [("partial", entries)]

/-- The answer to a read: the instance and, unless its maps are hash-ordered, its text written
again (or the error of that write). -/
def readAnswer (m : Mapper) (t : Ty) (x : Instance) : ServiceM Tree := do
  let value := ("value", dumpOf x)
  if t.hashOrdered then return .object [value]
  match ← jsonText m x with
  | .ok text => pure (.object [value, ("json", .string text)])
  | .error e => pure (.object [value, ("json_error", errorTree e)])

/-- `deserialize`: reads a new instance from JSON text; `again` adds the text written again. -/
def deserializeRequest (request : Tree) (again : Bool) : ServiceM Tree := do
  let t ← requestType request
  let text ← stringField request "json"
  let m ← factory (Factory.createOrGet t)
  let v ← orFail (JsonFormat.read text) []
  let x ← factory (Mapper.readValue m v)
  let x ← orFail (downcast t x) []
  if again then readAnswer m t x else pure (.object [("value", dumpOf x)])

/-- Reads a value into an instance: the answer is the instance after the read, and a failure
carries it as `state`. -/
def readInto (m : Mapper) (v : Except MapError Value) (x : Instance) : ServiceM Tree := do
  let (after, failure) ← match v with
    | .error e => pure (x, some e)
    | .ok v => do
      match ← attempt (Mapper.readValueInto m v x) with
      | .ok r => pure r
      | .error e => pure (x, some e)
  match failure with
  | none => pure (.object [("value", dumpOf after)])
  | some e => failWith e [("state", dumpOf after)]

/-- `deserialize_into`: reads JSON text into an instance made from `init`. -/
def deserializeIntoRequest (request : Tree) : ServiceM Tree := do
  let t ← requestType request
  let x ← instanceOf t (← field request "init")
  let text ← stringField request "json"
  let m ← factory (Factory.createOrGet t)
  readInto m (JsonFormat.read text) x

/-- `deserialize_ref`: `deserialize`, or `deserialize_into` when `init` is given, answering
the instance only. -/
def deserializeRefRequest (request : Tree) : ServiceM Tree := do
  match request.get? "init" with
  | none | some .null => deserializeRequest request false
  | some _ => deserializeIntoRequest request

/-- `deserialize_map`: reads a value map into a new instance, or into one made from `init`. -/
def deserializeMapRequest (request : Tree) : ServiceM Tree := do
  let t ← requestType request
  let vm ← valueMapOf (← field request "map")
  match request.get? "init" with
  | none | some .null => do
    let m ← factory (Factory.createOrGet t)
    let x ← factory (Mapper.readValue m (.map vm))
    let x ← orFail (downcast t x) []
    readAnswer m t x
  | some init => do
    let x ← instanceOf t init
    let m ← factory (Factory.createOrGet t)
    readInto m (pure (.map vm)) x

/-- `read`: a value from JSON text. -/
def readRequest (request : Tree) : ServiceM Tree := do
  let text ← stringField request "json"
  let v ← orFail (JsonFormat.read text) []
  pure (tagged v)

/-- `read_map`: a value map from JSON text, which must hold an object. -/
def readMapRequest (request : Tree) : ServiceM Tree := do
  let text ← stringField request "json"
  match JsonFormat.readMap text with
  | .ok m => pure (tagged (.map m))
  | .error e => failWith (.json e) []

/-- The depth of the context after a call: nesting is given back on every way out. -/
def depthAfter : List (String × Tree) := [("depth", Tree.nat 0)]

/-- `write`: the JSON text of one value, as a format writes a property's value. -/
def writeRequest (request : Tree) : ServiceM Tree := do
  let v ← valueOf (← field request "value")
  let name ← optString request "name"
  let (r, f, out) := WriteM.run (Mapper.writeValue JsonFormat.format name v) (← get) ""
  set f
  match r with
  | .ok _ => pure (.string out)
  | .error e => failWith e ([("partial", .string out)] ++ depthAfter)

/-- `from_value`: reads a value as an instance of a type, and writes the instance back as a
borrowed and as an owned value. -/
def fromValueRequest (request : Tree) : ServiceM Tree := do
  let t ← requestType request
  let v ← valueOf (← field request "value")
  let d ← match ← attempt (Mapper.decode v.fuel 0 t v) with
    | .ok d => pure d
    | .error e => failWith e depthAfter
  let place ← factory Factory.freshIdentity
  let S := Catalogue.schema
  pure (.object [("value", dumpData t d), ("to_value", tagged (S.valueOf false t d place)),
    ("into_value", tagged (S.valueOf true t d place)), ("depth", Tree.nat 0)])

/-- `nested`: reads a value as a nested object of a type. -/
def nestedRequest (request : Tree) : ServiceM Tree := do
  let t ← requestType request
  let v ← valueOf (← field request "value")
  match ← attempt (Mapper.deserializeNested v.fuel 0 t v) with
  | .ok d => pure (.object [("value", dumpData t d), ("depth", Tree.nat 0)])
  | .error e => failWith e depthAfter

end ObjectMapping.Service
