import ObjectMapping.Catalogue.Adapters
import ObjectMapping.Format.Json
import ObjectMapping.Json.Tree
import ObjectMapping.Mapper.Read
import ObjectMapping.Mapper.Write

/-!
# Encodings of the service

How requests carry instances and values, and how answers show them.

* A *dump* is an instance as JSON, read by its type (`decodeDump`) and written back
  (`encodeDump`): integers as numbers, floats as their bit pattern in lower-case hex (on input
  also a number, `NaN`, `inf` or `-inf`), characters and strings as strings, `null` for an
  absent option, arrays for lists, objects with sorted keys for maps, the tagged form for a
  value map, and records as objects keyed by field name.
* A *tagged value* is a value as a JSON array whose first element names its kind:
  `["int", 5]`, `["map", [["k", v]]]`, `["object", key, dump]`. On input `["borrowed", key,
  dump]` is the borrowed value of a new instance of any type (`decodeTagged`).
* A `Fault` is why a request has no answer of the library: a malformed request, a failure of
  the library, a panic.
-/

namespace ObjectMapping.Service

open ObjectMapping.Float ObjectMapping.Text ObjectMapping.Json

/-- Why a request has no regular answer. -/
inductive Fault where
  /-- The request is malformed or refused. -/
  | input (message : String)
  /-- The library failed; extra members go into the answer. -/
  | mapping (e : MapError) (extra : List (String × Tree))
  /-- The library stopped with a message. -/
  | panic (message : String)
  /-- A failure of another kind, with its members. -/
  | other (kind message : String) (extra : List (String × Tree))
  /-- A failure answered by its kind alone, where the message would not be reproducible. -/
  | kindOnly (kind : String)

/-- The work of a request: it changes a factory, kept also when it fails. -/
abbrev ServiceM := ExceptT Fault (StateM Factory)

/-- Refuses a request. -/
def refuse {α : Type} (message : String) : ServiceM α := throw (.input message)

/-- Runs a factory operation; a failure of the library is a fault. -/
def factory {α : Type} (x : FactoryM α) : ServiceM α := do
  let (r, f) := Factory.run x (← get)
  set f
  match r with
  | .ok a => pure a
  | .error e => throw (.mapping e [])

/-- Runs a factory operation and keeps its result, failure included. -/
def attempt {α : Type} (x : FactoryM α) : ServiceM (Except MapError α) := do
  let (r, f) := Factory.run x (← get)
  set f
  pure r

def liftInput {α : Type} : Except String α → ServiceM α
  | .ok a => pure a
  | .error m => refuse m

/-! ## Fields of a request -/

def Tree.kindName : Tree → String
  | .null => "null"
  | .bool _ => "a boolean"
  | .number _ => "a number"
  | .string _ => "a string"
  | .array _ => "an array"
  | .object _ => "an object"

/-- A member that must be there. -/
def field (t : Tree) (name : String) : ServiceM Tree :=
  match t.get? name with
  | some v => pure v
  | none => refuse ("missing `" ++ name ++ "`")

def asString (name : String) : Tree → ServiceM String
  | .string s => pure s
  | _ => refuse ("`" ++ name ++ "` must be a string")

def asBool (name : String) : Tree → ServiceM Bool
  | .bool b => pure b
  | _ => refuse ("`" ++ name ++ "` must be a boolean")

def asArray (name : String) : Tree → ServiceM (List Tree)
  | .array xs => pure xs
  | _ => refuse ("`" ++ name ++ "` must be an array")

/-- An integer member. -/
def asInt (name : String) : Tree → ServiceM Int
  | .number (.unsigned n) => pure n
  | .number (.signed n) => pure n
  | _ => refuse ("`" ++ name ++ "` must be an integer")

def stringField (t : Tree) (name : String) : ServiceM String := do asString name (← field t name)

def optString (t : Tree) (name : String) : ServiceM (Option String) :=
  match t.get? name with
  | none | some .null => pure none
  | some v => some <$> asString name v

def optBool (t : Tree) (name : String) : ServiceM (Option Bool) :=
  match t.get? name with
  | none | some .null => pure none
  | some v => some <$> asBool name v

/-- The type of a key the service accepts. -/
def typeOfKey (key : String) : ServiceM Ty :=
  match Catalogue.typeOfKey? key with
  | some t => pure t
  | none => refuse ("unknown type `" ++ key ++ "`")

/-- The type of a key, opaque types included. -/
def anyTypeOfKey (key : String) : ServiceM Ty :=
  match Catalogue.anyTypeOfKey? key with
  | some t => pure t
  | none => refuse ("unknown type `" ++ key ++ "`")

/-! ## Numbers and floats -/

def hexDigitsOf (width n : Nat) : String := hexPadded width n

/-- A float's bits from lower-case hex of the right width. -/
def bitsOfHex? (width : Nat) (s : String) : Option Nat :=
  if s.length == width && s.toList.all (fun c => c.isDigit || ('a' ≤ c && c ≤ 'f')) then
    some (s.toList.foldl (fun acc c => acc * 16 + hexDigitValue c) 0)
  else none

/-- A number of a document as a double. -/
def numberDouble : Number → Binary64
  | .unsigned n => Binary64.ofInt n
  | .signed n => Binary64.ofInt n
  | .float x => x

/-- A double from its hex pattern, a number or a word. -/
def readDouble (t : Tree) : ServiceM Binary64 :=
  match t with
  | .number n => pure (numberDouble n)
  | .string "NaN" => pure Binary64.nan
  | .string "inf" => pure (Binary64.infinity false)
  | .string "-inf" => pure (Binary64.infinity true)
  | .string s =>
    match bitsOfHex? 16 s with
    | some b => pure ⟨b.toUInt64⟩
    | none => refuse ("bad f64 `" ++ s ++ "`")
  | other => refuse ("expected f64, found " ++ Tree.kindName other)

/-- A single from its hex pattern, or a double narrowed. -/
def readSingle (t : Tree) : ServiceM Binary32 :=
  match t with
  | .string s =>
    match bitsOfHex? 8 s with
    | some b => pure ⟨b.toUInt32⟩
    | none => do return (← readDouble t).toBinary32
  | _ => do return (← readDouble t).toBinary32

def doubleHex (x : Binary64) : Tree := .string (hexPadded 16 x.bits.toNat)
def singleHex (x : Binary32) : Tree := .string (hexPadded 8 x.bits.toNat)

/-- An integer of a fixed-width type. -/
def readInt (w : IntType) (t : Tree) : ServiceM Int := do
  let n ← match t with
    | .number (.unsigned n) => pure (n : Int)
    | .number (.signed n) => pure n
    | .string s =>
      match parseInteger? true s with
      | some n => pure n
      | none => refuse ("expected " ++ w.name ++ ", found a string")
    | other => refuse ("expected " ++ w.name ++ ", found " ++ Tree.kindName other)
  if w.contains n then pure n else refuse (toString n ++ " out of range for " ++ w.name)

/-! ## Dumps -/

/-- A character from a string of one character. -/
def readCharTree (t : Tree) : ServiceM Char :=
  match t with
  | .string s =>
    match s.toList with
    | [c] => pure c
    | _ => refuse ("expected one character, found " ++ debugQuote s)
  | other => refuse ("expected a character, found " ++ Tree.kindName other)

mutual

/-- Reads an instance of a type from its dump. -/
def decodeDump (S : Schema) : Nat → Ty → Tree → ServiceM Datum
  | 0, _, _ => refuse "dump nested too deep"
  | fuel + 1, t, j =>
    match t, j with
    | .bool, .bool b | .atomicBool, .bool b => pure (.bool b)
    | .int w, j | .atomicInt w, j => .int <$> readInt w j
    | .nonZero w, j => do
      let n ← readInt w j
      if n == 0 then refuse ("0 out of range for " ++ w.nonZeroName) else pure (.int n)
    | .f32, j => .f32 <$> readSingle j
    | .f64, j => .f64 <$> readDouble j
    | .char, j => .char <$> readCharTree j
    | .string, .string s => pure (.string s)
    | .option _, .null => pure .none
    | .option t, j => .some <$> decodeDump S fuel t j
    | .boxed t, j => decodeDump S fuel t j
    | .vec t, .array items => .list <$> items.mapM (decodeDump S fuel t)
    | .array t n, .array items =>
      if items.length == n then .list <$> items.mapM (decodeDump S fuel t)
      else refuse ("expected " ++ toString n ++ " elements, found " ++ toString items.length)
    | .sortedMap v, .object members | .hashMap v, .object members | .fixedMap v, .object members => do
      let kvs ← members.mapM fun (k, x) => do pure (k, ← decodeDump S fuel v x)
      pure (.entries (Mapper.sortEntries kvs))
    | .valueMap, j => do
      match ← decodeTagged S fuel j with
      | .map m => pure (.values m)
      | _ => refuse "expected a tagged map"
    | t, j =>
      match S.scalar? t, S.opaque? t, S.record? t with
      | some s, _, _ => .int <$> readInt s.repr j
      | none, some o, _ =>
        match o.default, j with
        | .f64 _, j => .f64 <$> readDouble j
        | .record _, .array [a, b] => do pure (.record [.int (← readInt .i32 a), .int (← readInt .i32 b)])
        | .int _, j => .int <$> readInt .i32 j
        | _, _ => refuse ("bad dump of `" ++ t.typeName ++ "`")
      | none, none, some (r, args) =>
        match j with
        | .object _ => .record <$> (r.fieldsAt args).mapM fun f => do
            match j.get? f.name with
            | some x => decodeDump S fuel f.ty x
            | none => refuse ("missing field `" ++ f.name ++ "`")
        | other => refuse ("expected an object, found " ++ Tree.kindName other)
      | none, none, none => refuse ("expected " ++ t.typeName ++ ", found " ++ Tree.kindName j)

/-- Reads a value from its tagged form. -/
def decodeTagged (S : Schema) : Nat → Tree → ServiceM Value
  | 0, _ => refuse "value nested too deep"
  | fuel + 1, j =>
    match j with
    | .array (.string tag :: rest) =>
      match tag, rest with
      | "null", [] => pure .null
      | "bool", [.bool b] => pure (.bool b)
      | "byte", [n] => do pure (.byte (Int8.ofInt (← readInt .i8 n)))
      | "short", [n] => do pure (.short (Int16.ofInt (← readInt .i16 n)))
      | "int", [n] => do pure (.int (Int32.ofInt (← readInt .i32 n)))
      | "long", [n] => do pure (.long (Int64.ofInt (← readInt .i64 n)))
      | "char", [c] => .char <$> readCharTree c
      | "float", [x] => .float <$> readSingle x
      | "double", [x] => .double <$> readDouble x
      | "string", [.string s] => pure (.string s)
      | "array", [.array items] => .array <$> items.mapM (decodeTagged S fuel)
      | "map", [.array entries] => do
        let kvs ← entries.mapM fun e =>
          match e with
          | .array [.string k, v] => do pure (k, ← decodeTagged S fuel v)
          | _ => refuse "a map entry must be [key, value]"
        pure (.map (ValueMap.ofList kvs))
      | "object", [.string key, dump] => do
        let t ← typeOfKey key
        if (S.record? t).isNone then refuse ("`" ++ key ++ "` is not a mapped type")
        let d ← decodeDump S fuel t dump
        let place ← factory Factory.freshIdentity
        pure (S.valueOf true t d place)
      | "borrowed", [.string key, dump] => do
        let t ← typeOfKey key
        let d ← decodeDump S fuel t dump
        let place ← factory Factory.freshIdentity
        pure (S.valueOf false t d place)
      | _, _ => refuse ("bad tagged value `" ++ tag ++ "`")
    | _ => refuse "a tagged value must be an array starting with its kind"

end

mutual

/-- Writes an instance of a type as its dump. -/
def encodeDump (S : Schema) : Nat → Ty → Datum → Tree
  | 0, _, _ => .null
  | fuel + 1, t, d =>
    match d with
    | .bool b => .bool b
    | .int n => Tree.int n
    | .f32 x => singleHex x
    | .f64 x => doubleHex x
    | .char c => .string (String.singleton c)
    | .string s => .string s
    | .none => .null
    | .some x =>
      match Schema.unbox t with
      | .option inner => encodeDump S fuel inner x
      | _ => encodeDump S fuel t x
    | .list items =>
      let inner := match Schema.unbox t with
        | .vec e | .array e _ => e
        | other => other
      .array (items.map (encodeDump S fuel inner))
    | .entries kvs =>
      let inner := match Schema.unbox t with
        | .sortedMap e | .hashMap e | .fixedMap e => e
        | other => other
      .object (kvs.map fun (k, x) => (k, encodeDump S fuel inner x))
    | .values m => encodeTagged S false fuel (.map m)
    | .record fields =>
      match S.record? (Schema.unbox t) with
      | some (r, args) =>
        .object ((r.fieldsAt args).zip fields |>.map fun (f, x) => (f.name, encodeDump S fuel f.ty x))
      | none => .array (fields.map (encodeDump S fuel (.int .i32)))

/-- Writes a value in its tagged form; a shallow one names the type of an object and leaves
its data out. -/
def encodeTagged (S : Schema) (shallow : Bool) : Nat → Value → Tree
  | 0, _ => .null
  | fuel + 1, v =>
    match v with
    | .null => .array [.string "null"]
    | .bool b => .array [.string "bool", .bool b]
    | .byte n => .array [.string "byte", Tree.int n.toInt]
    | .short n => .array [.string "short", Tree.int n.toInt]
    | .int n => .array [.string "int", Tree.int n.toInt]
    | .long n => .array [.string "long", Tree.int n.toInt]
    | .char c => .array [.string "char", .string (String.singleton c)]
    | .float x => .array [.string "float", singleHex x]
    | .double x => .array [.string "double", doubleHex x]
    | .string s => .array [.string "string", .string s]
    | .array items => .array [.string "array", .array (items.map (encodeTagged S shallow fuel))]
    | .map m => .array [.string "map", .array (m.entries.map fun (k, x) =>
        .array [.string k, encodeTagged S shallow fuel x])]
    | .object r =>
      let key := Tree.string ((Catalogue.keyOf? r.ty).getD r.ty.typeName)
      if shallow then .array [.string "object", key]
      else .array [.string "object", key, encodeDump S fuel r.ty r.datum]

end

end ObjectMapping.Service

namespace ObjectMapping.Service

open ObjectMapping.Json

/-- The dump of an instance. -/
def dumpOf (x : Instance) : Tree := encodeDump Catalogue.schema x.datum.fuel x.ty x.datum

/-- The dump of data of a type. -/
def dumpData (t : Ty) (d : Datum) : Tree := encodeDump Catalogue.schema d.fuel t d

/-- The tagged form of a value. -/
def tagged (v : Value) : Tree := encodeTagged Catalogue.schema false v.fuel v

/-- The tagged form of a value with objects named only. -/
def shallowTagged (v : Value) : Tree := encodeTagged Catalogue.schema true v.fuel v

/-- A new instance of a type from its dump. -/
def instanceOf (t : Ty) (dump : Tree) : ServiceM Instance := do
  let d ← decodeDump Catalogue.schema dump.fuel t dump
  pure ⟨t, d, ← factory Factory.freshIdentity⟩

/-- A value from its tagged form. -/
def valueOf (j : Tree) : ServiceM Value := decodeTagged Catalogue.schema j.fuel j

/-- A value map from its tagged form. -/
def valueMapOf (j : Tree) : ServiceM ValueMap := do
  match ← valueOf j with
  | .map m => pure m
  | _ => refuse "expected a tagged map"

end ObjectMapping.Service
