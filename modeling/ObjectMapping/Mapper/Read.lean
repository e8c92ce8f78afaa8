import ObjectMapping.Factory

/-!
# Reading instances from values

`decode` reads an instance of a type from a value: scalars by their kind (integers of any
width, checked against the target's range), strings, options (`null` is absent), boxes,
lists and arrays (all elements first, then the length), maps from strings, value maps,
atomics, non-zero integers, the scalars of the schema, and records. A record is read from a
map by its mapper, one level deeper (`Factory.enter`), or taken whole from an owned object
reference of its own type (`deserializeNested`).

`readMap` reads a fresh instance of a record: it allocates one with the mapper's strategy,
sets each property whose external name is in the map (a `null` counts as absent unless the
property is nullable), and finishes it. A property with adapters reads the terminal type and
restores it through the chain. An error inside a property is attributed to it
(`MapError.within`).

Every level of a value spends a few units of fuel; `Value.fuel` gives enough for a value.
-/

namespace ObjectMapping

open ObjectMapping.Float ObjectMapping.Text

mutual

/-- The number of nodes of a value. -/
def Value.size : Value → Nat
  | .array items => Value.sizeList items + 1
  | .map (.ofEntries es) => Value.sizeEntries es + 1
  | _ => 1

def Value.sizeList : List Value → Nat
  | [] => 0
  | v :: vs => Value.size v + Value.sizeList vs

def Value.sizeEntries : List (String × Value) → Nat
  | [] => 0
  | (_, v) :: rest => Value.size v + Value.sizeEntries rest

end

/-- Fuel enough to read a value: a few steps per node. -/
def Value.fuel (v : Value) : Nat := 8 * v.size + 16

namespace Mapper

/-- The error of a value of the wrong kind. -/
def mismatch (expected : Kind) (v : Value) : MapError := .mismatch expected v.kind

/-- An integer of a fixed-width type: any integer kind in the type's range. -/
def readInteger (w : IntType) (v : Value) : Except MapError Int :=
  match v.asI64?, w.kind? with
  | none, k => throw (mismatch (k.getD .long) v)
  | some n, _ => if w.contains n then pure n else throw (.shape (.outOfRange (toString n) w.name))

/-- A single from a single, or from any number rounded to the nearest single. -/
def readF32 (v : Value) : Except MapError Binary32 :=
  match v with
  | .float x => pure x
  | _ =>
    match v.asF64? with
    | some x => pure x.toBinary32
    | none => throw (mismatch .float v)

/-- A character from a character or a string of one character. -/
def readChar (v : Value) : Except MapError Char :=
  match v with
  | .char c => pure c
  | .string s =>
    match s.toList with
    | [c] => pure c
    | _ => throw (.shape (.outOfRange (debugQuote s) "char"))
  | _ => throw (mismatch .char v)

/-- Lifts a check into a factory operation. -/
def lift {α : Type} : Except MapError α → FactoryM α
  | .ok a => pure a
  | .error e => throw e

/-- The entries of a map in key order, with one entry per key. -/
def sortEntries (kvs : List (String × Datum)) : List (String × Datum) :=
  kvs.mergeSort fun a b => decide (a.1 ≤ b.1)

/-- The value of a property in a map: a `null` counts as absent unless the property is
nullable. -/
def take (vm : ValueMap) (p : MappedProperty) : Option Value :=
  match vm.get? p.name with
  | some .null => if p.nullable then some .null else none
  | other => other

/-- Reads one level of a value as an instance of a type: scalars, strings and value maps whole,
options and boxes through the type they hold, the elements of lists and arrays and the values
of maps by `inner`, and a type written as an object by `nested`. -/
def decodeWith (S : Schema) (inner nested : Ty → Value → FactoryM Datum) :
    Ty → Value → FactoryM Datum
  | .bool, v | .atomicBool, v =>
    match v with
    | .bool b => pure (.bool b)
    | _ => throw (mismatch .bool v)
  | .int w, v | .atomicInt w, v => .int <$> lift (readInteger w v)
  | .f32, v => .f32 <$> lift (readF32 v)
  | .f64, v =>
    match v.asF64? with
    | some x => pure (.f64 x)
    | none => throw (mismatch .double v)
  | .char, v => .char <$> lift (readChar v)
  | .string, v =>
    match v with
    | .string s => pure (.string s)
    | .char c => pure (.string (String.singleton c))
    | _ => throw (mismatch .string v)
  | .option t, v =>
    match v with
    | .null => pure .none
    | v => .some <$> decodeWith S inner nested t v
  | .boxed t, v => decodeWith S inner nested t v
  | .vec t, v =>
    match v with
    | .array items => .list <$> items.mapM (inner t)
    | _ => throw (mismatch .array v)
  | .array t n, v =>
    match v with
    | .array items => do
      let ds ← items.mapM (inner t)
      if ds.length == n then pure (.list ds) else throw (.shape (.length n ds.length))
    | _ => throw (mismatch .array v)
  | .sortedMap e, v | .hashMap e, v | .fixedMap e, v =>
    match v with
    | .map m => do
      let kvs ← m.entries.mapM fun (k, x) => do pure (k, ← inner e x)
      pure (.entries (sortEntries kvs))
    | _ => throw (mismatch .map v)
  | .valueMap, v =>
    match v with
    | .map m => pure (.values m)
    | _ => throw (mismatch .map v)
  | .nonZero w, v => do
    let n ← lift (readInteger w v)
    if n == 0 then throw (.shape (.outOfRange "0" w.nonZeroName)) else pure (.int n)
  | t@(.named _), v | t@(.apply _ _), v =>
    match S.scalar? t with
    | some s => do
      let n ← lift (readInteger s.repr v)
      match s.refusal n with
      | some msg => throw (.custom msg)
      | none => pure (.int n)
    | none => nested t v
  | t@(.param _), _ => throw (.shape (.wrongType t.typeName))

/-- Reads an instance of a type that is written as an object: from a map through the mapper of
the record the type carries, one level deeper, by `readRecord`; or from an owned object of the
same type. -/
def nestedWith (readRecord : Nat → Mapper → ValueMap → FactoryM Instance) (depth : Nat) (t : Ty)
    (v : Value) : FactoryM Datum := do
  let S ← Factory.schemaM
  let wrongType : MapError := .shape (.wrongType t.typeName)
  match v with
  | .map m =>
    match Factory.descriptorOf S t with
    | none => throw (.config (.missingMapper t.typeName))
    | some d => do
      let inner ← Factory.enter depth
      let mapper ← Factory.mapperFor d
      let x ← readRecord inner mapper m
      if x.ty == t then pure x.datum else throw wrongType
  | .object r =>
    if r.isOwned && r.ty == t then pure r.datum else throw wrongType
  | other => throw (.mismatch .object other.kind)

/-- Writes a value to a property of a target, through the property's adapters; `dec` reads the
value as an instance of a type. -/
def setPropertyWith (dec : Ty → Value → FactoryM Datum) (m : Mapper) (p : MappedProperty)
    (target : Target) (v : Value) : FactoryM Target :=
  if p.chain.isEmpty then
    m.strategy.setter dec p.location target (.wire v)
  else do
    let d ← dec p.chain.terminal.ty v
    let restored ← lift (p.chain.restore ⟨p.chain.terminal.ty, d, .sizeless⟩)
    m.strategy.setter dec p.location target (.boxed restored)

/-- Reads a fresh instance of the mapper's record from a map: it allocates one with the mapper's
strategy, sets each property present in the map by `set`, and finishes it. -/
def readMapWith (set : MappedProperty → Target → Value → FactoryM Target) (m : Mapper)
    (vm : ValueMap) : FactoryM Instance := do
  let S ← Factory.schemaM
  let some d := m.descriptor | throw (.shape (.wrongType m.typeName))
  let place ← Factory.freshIdentity
  let allocation ← lift (m.strategy.allocate S d place)
  let target ← m.properties.foldlM (fun target p => do
    match take vm p with
    | none => pure target
    | some v => tryCatch (set p target v) (fun e => throw (e.within d.ident p.info.name)))
    allocation.target
  lift (Strategy.finish S (Allocation.ofTarget target))

/-- Reads the properties present in a map into an existing instance by `set`, in declaration
order; at the first error it stops, with the properties written so far kept. -/
def readMapIntoWith (set : MappedProperty → Target → Value → FactoryM Target) (m : Mapper)
    (vm : ValueMap) (x : Instance) : FactoryM (Instance × Option MapError) := do
  let some d := m.descriptor | pure (x, some (.shape (.wrongType m.typeName)))
  if x.ty != m.ops.ty then return (x, some (.shape (.wrongType m.typeName)))
  m.properties.foldlM (fun (acc : Instance × Option MapError) p => do
    match acc with
    | (_, some _) => pure acc
    | (cur, none) =>
      match take vm p with
      | none => pure acc
      | some v =>
        tryCatch (do
            match ← set p (.existing cur) v with
            | .existing y => pure (y, none)
            | .uninit _ => pure (cur, none))
          (fun e => pure (cur, some (e.within d.ident p.info.name)))) (x, none)

mutual

/-- Reads an instance of a type from a value. Fuel is spent per level of the value: one for an
element or a map's value, four for a record's property; options and boxes spend none. -/
def decode (fuel depth : Nat) (t : Ty) (v : Value) : FactoryM Datum :=
  match fuel with
  | 0 => do throw (.depthExceeded (← get).config.maxDepth)
  | fuel + 1 => do
    let S ← Factory.schemaM
    decodeWith S (decode fuel depth) (deserializeNested fuel depth) t v

/-- Reads an instance of a type that is written as an object. -/
def deserializeNested (fuel depth : Nat) (t : Ty) (v : Value) : FactoryM Datum :=
  match fuel with
  | 0 => do throw (.depthExceeded (← get).config.maxDepth)
  | fuel + 1 => nestedWith (readMap fuel) depth t v

/-- Reads a fresh instance of the mapper's record from a map. -/
def readMap (fuel depth : Nat) (m : Mapper) (vm : ValueMap) : FactoryM Instance :=
  match fuel with
  | 0 => do throw (.depthExceeded (← get).config.maxDepth)
  | fuel + 1 => readMapWith (setProperty fuel depth m) m vm

/-- Writes a value to a property of a target, through the property's adapters. -/
def setProperty (fuel depth : Nat) (m : Mapper) (p : MappedProperty) (target : Target)
    (v : Value) : FactoryM Target :=
  match fuel with
  | 0 => do throw (.depthExceeded (← get).config.maxDepth)
  | fuel + 1 => setPropertyWith (decode fuel depth) m p target v

end

/-- Reads the properties present in a map into an existing instance, in declaration order;
at the first error it stops, with the properties written so far kept. -/
def readMapInto (fuel depth : Nat) (m : Mapper) (vm : ValueMap) (x : Instance) :
    FactoryM (Instance × Option MapError) :=
  readMapIntoWith (setProperty fuel depth m) m vm x

/-- Reads a value as an instance of the mapper's type: a record from a map, any other type by
its value representation. -/
def readValue (m : Mapper) (v : Value) : FactoryM Instance := do
  match m.descriptor with
  | some _ =>
    match v with
    | .map vm => readMap v.fuel 0 m vm
    | other => throw (.mismatch .object other.kind)
  | none =>
    match m.ops.value with
    | none => throw (.shape (.wrongType m.typeName))
    | some _ => do
      let d ← decode v.fuel 0 m.ops.ty v
      pure ⟨m.ops.ty, d, ← Factory.freshIdentity⟩

/-- Reads a value into an existing instance of the mapper's type. A record takes the
properties present in a map; any other type is replaced by the value it reads. -/
def readValueInto (m : Mapper) (v : Value) (x : Instance) : FactoryM (Instance × Option MapError) := do
  match m.descriptor with
  | some _ =>
    match v with
    | .map vm => readMapInto v.fuel 0 m vm x
    | other => pure (x, some (.mismatch .object other.kind))
  | none =>
    match m.ops.value with
    | none => pure (x, some (.shape (.wrongType m.typeName)))
    | some _ =>
      tryCatch (do
          let d ← decode v.fuel 0 m.ops.ty v
          if x.ty != m.ops.ty then pure (x, some (.shape (.wrongType m.typeName)))
          else pure ({ x with datum := d }, none))
        (fun e => pure (x, some e))

end Mapper

end ObjectMapping
