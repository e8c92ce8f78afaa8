import ObjectMapping.Service.Session
import ObjectMapping.Service.Utilities
import ObjectMapping.Service.Generation

/-!
# Answering requests

`answer` reads one request, a JSON object whose `op` names the operation, runs it on a factory
of its own, and writes the answer as one line of JSON. Requests share nothing.
-/

namespace ObjectMapping.Service

open ObjectMapping.Json

/-- Runs the operation a request names. -/
def perform (request : Tree) (op : String) : ServiceM Tree := do
  match op with
  | "serialize" => do setupFactory request; serializeRequest request true
  | "serialize_ref" => do setupFactory request; serializeRequest request false
  | "trace" => do setupFactory request; traceRequest request false
  | "trace_plain" => do setupFactory request; traceRequest request true
  | "deserialize" => do setupFactory request; deserializeRequest request true
  | "deserialize_ref" => do setupFactory request; deserializeRefRequest request
  | "deserialize_into" => do setupFactory request; deserializeIntoRequest request
  | "deserialize_map" => do setupFactory request; deserializeMapRequest request
  | "read" => readRequest request
  | "read_map" => readMapRequest request
  | "write" => do setupFactory request; writeRequest request
  | "from_value" => do setupFactory request; fromValueRequest request
  | "nested" => do setupFactory request; nestedRequest request
  | "type_info" => typeInfoRequest request
  | "mapper_info" => do setupFactory request; mapperInfoRequest request
  | "mapper_debug" => do setupFactory request; mapperDebugRequest request
  | "value_info" => valueInfoRequest request
  | "value_eq" => valueEqRequest request
  | "valuemap" => valueMapRequest request
  | "naming" => namingRequest request
  | "object_ref" => objectRefRequest request
  | "value_from" => valueFromRequest request
  | "session" => do setupFactory request; sessionRequest request
  | "chain" => do setupFactory request; chainRequest request
  | "adapter_registry" => adapterRegistryRequest request
  | "factory_debug" => factoryDebugRequest request
  | "access" => do setupFactory request; accessRequest request
  | "allocate" => do setupFactory request; allocateRequest request
  | "type_ops" => do setupFactory request; typeOpsRequest request
  | "descriptor_info" => descriptorInfoRequest request
  | "error_info" => do setupFactory request; errorInfoRequest request
  | "make_error" => makeErrorRequest request
  | "noop_hash" => noopHashRequest request
  | "typeid_map" => typeMapRequest request
  | "typeid_set" => typeSetRequest request
  | "descriptor_cells" => descriptorCellsRequest
  | "raw_storage" => rawStorageRequest request
  | "serde_value" => serdeValueRequest request
  | "derive" => deriveRequest request
  | "manifest_path" => manifestPathRequest request
  | "full_path" => pure fullPathRequest
  | other => refuse ("unknown op `" ++ other ++ "`")

/-- The answer to a request, as a document. -/
def answerTree (request : Tree) : Tree :=
  let run : ServiceM Tree := do perform request (← stringField request "op")
  let (r, f) := (ExceptT.run run).run { schema := Catalogue.schema }
  let members := match r with
    | .ok v => [("ok", v)]
    | .error fault => fault.members
  let log := match request.get? "log" with
    | some (.bool true) => [("log", Tree.array (f.log.toList.map Tree.string))]
    | _ => []
  .object (members ++ log)

/-- The answer to one line of request text, as one line of JSON. -/
def answer (line : String) : String :=
  match Tree.ofText line with
  | .ok request => (answerTree request).render
  | .error e => (Tree.object [("error", .string "DriverInput"), ("message", .string e.message)]).render

end ObjectMapping.Service
