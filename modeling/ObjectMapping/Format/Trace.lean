import ObjectMapping.Mapper.Write

/-!
# Recording the calls of a mapper

A format that writes nothing but a record of the calls it receives (`TraceEntry`), so that the
protocol between a mapper and a format can be seen. After recording a value it hands every
object inside the value back to the mapper, searching arrays and the values of maps in order,
so that nested objects show their own frames. The plain recorder keeps the default begin and
end, which record nothing.
-/

namespace ObjectMapping

/-- One call a mapper made. -/
inductive TraceEntry where
  | begin
  | finish
  | beginObject
  | endObject
  | separator (first last : Bool)
  /-- A value with its external name, its kind and the depth of nesting it was written at. -/
  | value (name : Option String) (kind : Kind) (depth : Nat) (v : Value)

mutual

/-- The objects inside a value, in order. -/
def Value.objects : Value → List ObjectRef
  | .object r => [r]
  | .array items => Value.objectsList items
  | .map (.ofEntries es) => Value.objectsEntries es
  | _ => []

def Value.objectsList : List Value → List ObjectRef
  | [] => []
  | v :: vs => Value.objects v ++ Value.objectsList vs

def Value.objectsEntries : List (String × Value) → List ObjectRef
  | [] => []
  | (_, v) :: rest => Value.objects v ++ Value.objectsEntries rest

end

namespace Recorder

/-- The recorder; the plain one does not record begin and end. -/
def format (plain : Bool) : Format (Array TraceEntry) where
  writeBegin := FormatCall.append (if plain then id else (·.push .begin))
  writeValue name kind v depth :=
    .emit (·.push (.value name kind depth v)) :: v.objects.map .nested
  writeBeginObject := FormatCall.append (·.push .beginObject)
  writeSeparator first last := FormatCall.append (·.push (.separator first last))
  writeEndObject := FormatCall.append (·.push .endObject)
  writeEnd := FormatCall.append (if plain then id else (·.push .finish))

end Recorder

end ObjectMapping
