import ObjectMapping.Schema.Descriptor
import ObjectMapping.Text.Integer

/-!
# The catalogue of types

The types the service offers, declared in the crate `driver`: records with their field
attributes, two scalars with rules of their own (`Percent`, `Level`) and three opaque types
(`Celsius`, `Range`, `Code`) that only adapters reach. `Catalogue.schema` collects them.

Every type the service accepts has a key (`Catalogue.keys`): the short spelling a request
names it by, such as `Vec<Point>`, `[i32;2]` or `Tagged<Option<Leaf>>`. `Catalogue.parseKey?`
reads a key's spelling into a type and `Catalogue.keyOf?` finds the key of a type.
-/

namespace ObjectMapping.Catalogue

open ObjectMapping.Float ObjectMapping.Text

/-- A type of the crate, by its name. -/
def declared (name : String) : Ty := .named ("driver::" ++ name)

/-- A field with no attributes. -/
def field (name : String) (ty : Ty) : FieldDecl := { name, ty }

def point : Ty := declared "Point"
def leaf : Ty := declared "Leaf"
def celsius : Ty := declared "Celsius"
def range : Ty := declared "Range"
def code : Ty := declared "Code"
def percent : Ty := declared "Percent"
def level : Ty := declared "Level"

def i8 : Ty := .int .i8
def i16 : Ty := .int .i16
def i32 : Ty := .int .i32
def i64 : Ty := .int .i64
def u8 : Ty := .int .u8
def u16 : Ty := .int .u16
def u32 : Ty := .int .u32
def u64 : Ty := .int .u64

/-- A record of the crate with no type attributes. -/
def plainRecord (name : String) (fields : List FieldDecl) : RecordDecl :=
  { ident := name, path := "driver::" ++ name, fields }

def records : List RecordDecl := [
  { plainRecord "Point" [field "x" i32, field "y" i32] with
    constructible := true, autoRegister := true, default := some (.record [.int 0, .int 0]) },
  { plainRecord "Message" [field "text" .string] with autoRegister := true },
  plainRecord "Shape" [{ field "name" .string with rename := some "label" }, field "points" (.vec point)],
  plainRecord "Prims" [field "flag" .bool, field "tiny" i8, field "small" i16, field "int" i32,
    field "long" i64, field "ubyte" u8, field "ushort" u16, field "uint" u32, field "single" .f32,
    field "double" .f64, field "letter" .char, field "text" .string],
  plainRecord "Opts" [field "a" (.option i32), field "s" (.option .string),
    field "p" (.option point), field "v" (.option (.vec i32)), field "bx" (.boxed i64),
    field "bo" (.boxed (.option .string)), field "oo" (.option (.option i32))],
  plainRecord "Colls" [field "list" (.vec i32), field "grid" (.vec (.vec i8)),
    field "pair" (.array i32 2), field "names" (.array .string 3), field "none" (.array u8 0),
    field "scores" (.sortedMap i32), field "nested" (.sortedMap (.vec point)), field "doc" .valueMap],
  plainRecord "Flags" [field "ready" .atomicBool, field "tiny" (.atomicInt .i8),
    field "small" (.atomicInt .i16), field "level" (.atomicInt .i32), field "hits" (.atomicInt .i64)],
  plainRecord "Port" [field "number" (.nonZero .u16), field "name" .string],
  plainRecord "Strict" [field "a" (.nonZero .i8), field "b" (.nonZero .i16), field "c" (.nonZero .i32),
    field "d" (.nonZero .i64), field "e" (.nonZero .u8), field "f" (.nonZero .u32),
    field "g" (.option (.nonZero .u32))],
  plainRecord "Station" [field "name" .string, { field "temperature" celsius with adapted := true },
    field "samples" (.vec point)],
  { plainRecord "Reading" [{ field "temperature" celsius with adapted := true, useDefault := true },
      field "station_name" .string, { field "cache" (.option .string) with skip := true },
      field "_cache_size" u32, { field "record_id" i64 with rename := some "ID" }] with
    autoRegister := true },
  plainRecord "Renamed" [{ field "key" i32 with rename := some "id" }, field "id" i32],
  plainRecord "CamelClash" [field "a_b" i32, field "aB" i32],
  plainRecord "Leaf" [field "id" i32],
  plainRecord "Mid" [field "leaf" leaf, field "tags" (.vec leaf)],
  plainRecord "Top" [field "mid" (declared "Mid"), field "name" .string],
  plainRecord "Node" [field "value" i32, field "next" (.option (.boxed (declared "Node")))],
  plainRecord "Tree" [field "label" .string, field "children" (.vec (declared "Tree"))],
  { plainRecord "Packed" [field "a" u8, field "b" i8, field "c" .bool] with
    packed := true, constructible := true, default := some (.record [.int 0, .int 0, .bool false]) },
  { plainRecord "Settings" [field "volume" u8, field "title" .string,
      { field "level" percent with useDefault := true }, field "ratio" .f32,
      { field "revision" u32 with skip := true }] with
    constructible := true
    default := some (.record [.int 50, .string "untitled", .int 75, .f32 ⟨0x3F000000⟩, .int 7]) },
  plainRecord "Big" [{ field "id" u64 with adapted := true },
    { field "span" range with adapted := true, useDefault := true }, field "label" (.option .string)],
  { plainRecord "Empty" [] with constructible := true, default := some (.record []) },
  plainRecord "Skipper" [{ field "hidden" i32 with skip := true }, field "visible" i32,
    { field "notes" (.vec .string) with skip := true }],
  plainRecord "Coded" [{ field "code" code with adapted := true },
    { field "backup" code with adapted := true, useDefault := true }],
  plainRecord "Names" [{ field "name" .string with rename := some "名前" },
    { field "quoted" i32 with rename := some "with \"quote\"\n" }, field "type" .string,
    field "snake_case_field" .bool, field "__double_lead" i8],
  plainRecord "Pointy" [field "at" point, field "path" (.vec point), field "maybe" (.option point)],
  plainRecord "Wrapper" [field "inner" (.boxed leaf), field "list" (.boxed (.vec leaf)),
    field "percent" percent],
  plainRecord "Gauge" [field "level" level, field "raw" i16, { field "spare" level with useDefault := true }],
  { plainRecord "Tagged" [field "tag" (.param 0), field "count" u16] with params := 1 }
]

def scalars : List ScalarDecl := [
  { path := "driver::Percent", repr := .u8, kind := .short, primitive := none
    refusal := fun v => if v ≤ 100 then none else some (toString v ++ "% is not a percentage")
    allocDefault := 0, default := 50 },
  { path := "driver::Level", repr := .i16, kind := .short, primitive := some .i16
    refusal := fun _ => none, allocDefault := -1, default := 0 }
]

def opaques : List OpaqueDecl := [
  { path := "driver::Celsius", default := .f64 Binary64.zero, size := 8, align := 8 },
  { path := "driver::Range", default := .record [.int 0, .int 0], size := 8, align := 4 },
  { path := "driver::Code", default := .int 42, size := 4, align := 4 }
]

/-- The declarations of the catalogue. -/
def schema : Schema := ⟨records, scalars, opaques⟩

/-- The keys of the types a request may name. -/
def keys : List String := [
  "Level", "bool", "i8", "i16", "i32", "i64", "u8", "u16", "u32", "f32", "f64", "char", "String",
  "Option<i32>", "Option<String>", "Option<Point>", "Option<Option<i32>>", "Option<NonZeroU32>",
  "Box<i32>", "Box<Point>", "Box<Option<i8>>", "Vec<i32>", "Vec<String>", "Vec<Point>",
  "Vec<Option<i32>>", "Vec<Vec<u8>>", "Vec<f32>", "Vec<char>", "[i32;2]", "[String;2]", "[u8;0]",
  "[Point;1]", "[NonZeroU8;2]", "BTreeMap<String,i32>", "BTreeMap<String,Point>",
  "BTreeMap<String,Option<f64>>", "HashMap<String,i64>", "FixedMap<String,u8>", "ValueMap",
  "AtomicBool", "AtomicI8", "AtomicI16", "AtomicI32", "AtomicI64", "NonZeroI8", "NonZeroI16",
  "NonZeroI32", "NonZeroI64", "NonZeroU8", "NonZeroU16", "NonZeroU32", "Percent",
  "Point", "Message", "Shape", "Prims", "Opts", "Colls", "Flags", "Port", "Strict", "Station",
  "Reading", "Renamed", "CamelClash", "Leaf", "Mid", "Top", "Node", "Tree", "Packed", "Settings",
  "Big", "Empty", "Skipper", "Coded", "Names", "Pointy", "Wrapper", "Gauge",
  "Tagged<i32>", "Tagged<String>", "Tagged<Point>", "Tagged<Option<Leaf>>"
]

/-- The keys of the types reached only through adapters. -/
def opaqueKeys : List String := ["Celsius", "Range", "Code", "u64"]

/-- A scalar type by its short name. -/
def scalarOfName? : String → Option Ty
  | "bool" => some .bool
  | "i8" => some i8
  | "i16" => some i16
  | "i32" => some i32
  | "i64" => some i64
  | "u8" => some u8
  | "u16" => some u16
  | "u32" => some u32
  | "u64" => some u64
  | "f32" => some .f32
  | "f64" => some .f64
  | "char" => some .char
  | "String" => some .string
  | "ValueMap" => some .valueMap
  | "AtomicBool" => some .atomicBool
  | "AtomicI8" => some (.atomicInt .i8)
  | "AtomicI16" => some (.atomicInt .i16)
  | "AtomicI32" => some (.atomicInt .i32)
  | "AtomicI64" => some (.atomicInt .i64)
  | "NonZeroI8" => some (.nonZero .i8)
  | "NonZeroI16" => some (.nonZero .i16)
  | "NonZeroI32" => some (.nonZero .i32)
  | "NonZeroI64" => some (.nonZero .i64)
  | "NonZeroU8" => some (.nonZero .u8)
  | "NonZeroU16" => some (.nonZero .u16)
  | "NonZeroU32" => some (.nonZero .u32)
  | name =>
    if schema.records.any (·.ident == name) || schema.scalars.any (·.path == "driver::" ++ name) ||
        schema.opaques.any (·.path == "driver::" ++ name) then
      some (declared name)
    else none

/-- Reads the spelling of a key: `Option<..>`, `Box<..>`, `Vec<..>`, `[..;n]`, maps from
`String`, `Tagged<..>` and names. -/
def parseKey? : Nat → List Char → Option Ty
  | 0, _ => none
  | fuel + 1, cs =>
    let s := String.ofList cs
    let inner (pre : String) : Option (List Char) :=
      if s.startsWith pre && s.endsWith ">" then
        some ((cs.drop pre.length).dropLast)
      else none
    match inner "Option<", inner "Box<", inner "Vec<", inner "BTreeMap<String,",
        inner "HashMap<String,", inner "FixedMap<String,", inner "Tagged<" with
    | some a, _, _, _, _, _, _ => (parseKey? fuel a).map .option
    | _, some a, _, _, _, _, _ => (parseKey? fuel a).map .boxed
    | _, _, some a, _, _, _, _ => (parseKey? fuel a).map .vec
    | _, _, _, some a, _, _, _ => (parseKey? fuel a).map .sortedMap
    | _, _, _, _, some a, _, _ => (parseKey? fuel a).map .hashMap
    | _, _, _, _, _, some a, _ => (parseKey? fuel a).map .fixedMap
    | _, _, _, _, _, _, some a => (parseKey? fuel a).map (.apply (declared "Tagged"))
    | none, none, none, none, none, none, none =>
      match cs with
      | '[' :: rest =>
        let body := rest.dropLast
        let elem := body.takeWhile (· != ';')
        let count := (body.dropWhile (· != ';')).drop 1
        if rest.getLast? == some ']' && !count.isEmpty && count.all Char.isDigit then
          (parseKey? fuel elem).map fun t => .array t (digitsValue count)
        else none
      | _ => scalarOfName? s

/-- The type of a key the service accepts. -/
def typeOfKey? (key : String) : Option Ty :=
  if keys.contains key then parseKey? 16 key.toList else none

/-- The type of a key the service accepts, or of a type reached only through adapters. -/
def anyTypeOfKey? (key : String) : Option Ty :=
  if keys.contains key || opaqueKeys.contains key then parseKey? 16 key.toList else none

/-- The key of a type. -/
def keyOf? (t : Ty) : Option String :=
  (keys ++ opaqueKeys).find? fun k => parseKey? 16 k.toList == some t

end ObjectMapping.Catalogue
