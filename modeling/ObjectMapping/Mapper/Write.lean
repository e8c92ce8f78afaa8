import ObjectMapping.Mapper.Read

/-!
# Writing instances to a format

A `Format` receives a mapper's output as a sequence of calls: `writeBegin`, then either one
`writeValue` for a value or the frame of an object, then `writeEnd`. The frame of an object is
`writeBeginObject`, then for each property its value (`writeValue` with the external name) and
a separator (`writeSeparator first last`), then `writeEndObject`.

A format writes a value as a list of `Piece`s: output it appends, a failure, or a nested object
that it hands back to the mapper (`serializeNested`), which writes the object's frame with the
mapper of its type, one level deeper. Every other call (`FormatCall`) may fail too, after
writing what it wrote. The output written before a failure stays written.

* The getter of a property with adapters refers to the field, adapts it through the chain and
  writes the terminal type's owned value.
* A property whose value is `null` is written with the kind `null`.
-/

namespace ObjectMapping

/-- A piece of what a format writes for a value. -/
inductive Piece (σ : Type) where
  /-- Output appended. -/
  | emit (f : σ → σ)
  /-- The value cannot be written. -/
  | fail (e : MapError)
  /-- A nested object, written by its own mapper. -/
  | nested (r : ObjectRef)

/-- A call of a format that writes no value: from the output it is given, whether it failed
and the output it leaves, which stays written also when it fails. -/
abbrev FormatCall (σ : Type) := σ → Except MapError Unit × σ

/-- A call that appends output and does not fail. -/
def FormatCall.append {σ : Type} (g : σ → σ) : FormatCall σ := fun out => (.ok (), g out)

/-- A format: how the calls of a mapper become output of type `σ`. -/
structure Format (σ : Type) where
  writeBegin : FormatCall σ := FormatCall.append id
  /-- The pieces of a value, with its external name, kind and the current depth. -/
  writeValue : Option String → Kind → Value → Nat → List (Piece σ)
  writeBeginObject : FormatCall σ
  writeSeparator : Bool → Bool → FormatCall σ
  writeEndObject : FormatCall σ
  writeEnd : FormatCall σ := FormatCall.append id

/-- A write: it changes the factory and the output, both kept when it fails. -/
abbrev WriteM (σ : Type) := ExceptT MapError (StateM (Factory × σ))

namespace WriteM

/-- Runs a factory operation inside a write. -/
def factory {σ α : Type} (x : FactoryM α) : WriteM σ α := do
  let (f, out) ← get
  let (r, f') := Factory.run x f
  set (f', out)
  match r with
  | .ok a => pure a
  | .error e => throw e

/-- Appends output. -/
def emit {σ : Type} (g : σ → σ) : WriteM σ Unit := modify fun (f, out) => (f, g out)

/-- Makes a call of the format: what it writes stays written, and its failure is the write's. -/
def call {σ : Type} (c : FormatCall σ) : WriteM σ Unit := do
  let (f, out) ← get
  let (r, out') := c out
  set (f, out')
  match r with
  | .ok a => pure a
  | .error e => throw e

/-- Runs a write from a factory and an output: the result, the factory and the output. -/
def run {σ α : Type} (x : WriteM σ α) (f : Factory) (out : σ) : Except MapError α × Factory × σ :=
  (ExceptT.run x).run (f, out)

end WriteM

/-- The instance an object refers to. -/
def ObjectRef.instance (r : ObjectRef) : Instance := ⟨r.ty, r.datum, r.identity⟩

mutual

/-- The number of nodes of an instance's data, counting a held value map by its values. -/
def Datum.size : Datum → Nat
  | .some d => Datum.size d + 1
  | .list items | .record items => Datum.sizeList items + 1
  | .entries kvs => Datum.sizeEntries kvs + 1
  | .values m => (Value.map m).size + 1
  | _ => 1

def Datum.sizeList : List Datum → Nat
  | [] => 0
  | d :: ds => Datum.size d + Datum.sizeList ds

def Datum.sizeEntries : List (String × Datum) → Nat
  | [] => 0
  | (_, d) :: rest => Datum.size d + Datum.sizeEntries rest

end

/-- Fuel enough to write an instance: a few steps per node of its data. -/
def Datum.fuel (d : Datum) : Nat := 4 * d.size + 16

namespace Mapper

/-- The value of a property of an instance: through the strategy's getter, or adapted. -/
def readProperty (S : Schema) (m : Mapper) (p : MappedProperty) (x : Instance) :
    Except MapError Value :=
  if p.chain.isEmpty then m.strategy.getter S p.location x
  else do
    let field ← m.strategy.reference p.location x
    let adapted ← p.chain.adapt field
    pure (S.valueOf true adapted.ty adapted.datum adapted.identity)


mutual

/-- Writes the frame of an instance of the mapper's record at a nesting depth; `limit` is the
factory's limit of nesting, which no write changes. -/
def writeObject {σ : Type} (F : Format σ) (limit depth : Nat) (m : Mapper) (x : Instance) :
    WriteM σ Unit := do
  if x.ty != m.ops.ty then throw (.shape (.wrongType m.typeName))
  let S := (← get).1.schema
  WriteM.call F.writeBeginObject
  writeProperties F limit depth m x S (m.properties.length - 1) 0 m.properties
  WriteM.call F.writeEndObject
termination_by (limit - depth, 3, 0)

/-- Writes the properties from number `i` on, each value followed by its separator; `last` is
the number of the last property. -/
def writeProperties {σ : Type} (F : Format σ) (limit depth : Nat) (m : Mapper) (x : Instance)
    (S : Schema) (last : Nat) : Nat → List MappedProperty → WriteM σ Unit
  | _, [] => pure ()
  | i, p :: ps => do
    let owner := m.ownerName
    let field := p.info.name
    let raw ← match readProperty S m p x with
      | .ok v => pure v
      | .error e => throw (e.within owner field)
    let kind := if raw.isNull then Kind.null else p.kind
    tryCatch (writePieces F limit depth (F.writeValue (some p.name) kind raw depth))
      (fun e => throw (e.within owner field))
    WriteM.call (F.writeSeparator (i == 0) (i == last))
    writeProperties F limit depth m x S last (i + 1) ps
termination_by _ ps => (limit - depth, 2, ps.length)

/-- Writes the pieces of a value in order. -/
def writePieces {σ : Type} (F : Format σ) (limit depth : Nat) : List (Piece σ) → WriteM σ Unit
  | [] => pure ()
  | .emit g :: ps => do
    WriteM.emit g
    writePieces F limit depth ps
  | .fail e :: _ => throw e
  | .nested r :: ps => do
    serializeNested F limit depth r
    writePieces F limit depth ps
termination_by ps => (limit - depth, 1, ps.length)

/-- Writes a nested object with the mapper of its type, one level deeper; past the limit it
fails before the mapper is looked up. -/
def serializeNested {σ : Type} (F : Format σ) (limit depth : Nat) (r : ObjectRef) :
    WriteM σ Unit :=
  if _ : limit < depth + 1 then throw (.depthExceeded limit)
  else do
    let S := (← get).1.schema
    match S.descriptor? r.ty with
    | none => throw (.config (.missingMapper r.ty.typeName))
    | some d =>
      let mapper ← WriteM.factory (Factory.mapperFor d)
      writeObject F limit (depth + 1) mapper r.instance
termination_by (limit - depth, 0, 0)
decreasing_by omega

end

/-- Writes an instance of the mapper's type: the frame of a record, or the value of any other
type, between the format's begin and end. -/
def write {σ : Type} (F : Format σ) (m : Mapper) (x : Instance) : WriteM σ Unit := do
  let limit := (← get).1.config.maxDepth
  WriteM.call F.writeBegin
  match m.descriptor with
  | some _ => writeObject F limit 0 m x
  | none =>
    match m.ops.value with
    | none => throw (.shape (.wrongType m.typeName))
    | some ops =>
      let S := (← get).1.schema
      if x.ty != m.ops.ty then throw (.shape (.wrongType ops.kind.name))
      let v := S.valueOf false x.ty x.datum x.identity
      let kind := if v.isNull then Kind.null else ops.kind
      writePieces F limit 0 (F.writeValue none kind v 0)
  WriteM.call F.writeEnd

/-- Writes one value as the format writes a property's value, with nested objects written by
their mappers. -/
def writeValue {σ : Type} (F : Format σ) (name : Option String) (v : Value) : WriteM σ Unit := do
  writePieces F (← get).1.config.maxDepth 0 (F.writeValue name v.kind v 0)

end Mapper

end ObjectMapping
