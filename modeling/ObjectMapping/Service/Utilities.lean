import ObjectMapping.Service.Describe
import ObjectMapping.Hashing
import ObjectMapping.Storage

/-!
# Hashers, type-keyed maps, raw storage and value building

The requests on the supporting pieces: the pass-through hasher (`noop_hash`), maps and sets
keyed by types (`typeid_map`, `typeid_set`), descriptor cells (`descriptor_cells`), raw storage
(`raw_storage`), and building values from plain data sources (`serde_value`).
-/

namespace ObjectMapping.Service

open ObjectMapping.Json ObjectMapping.Float ObjectMapping.Text

/-- A natural number member, given as a number or as decimal text. -/
def asNatOrText (name : String) (t : Tree) : ServiceM Nat :=
  match t with
  | .number (.unsigned n) => pure n
  | .string s =>
    match parseInteger? false s with
    | some n => pure n.toNat
    | none => refuse ("`" ++ name ++ "` must be an unsigned integer")
  | _ => refuse ("`" ++ name ++ "` must be an unsigned integer")

/-- A member that must be an integer of a type that holds `0` to `max`: out of range it is
refused with its value, and anything but an integer with its JSON text. -/
def boundedInteger (typeName : String) (max : Nat) (t : Tree) : ServiceM Nat :=
  let inRange (n : Int) : ServiceM Nat :=
    if 0 ≤ n && n ≤ max then pure n.toNat else refuse (toString n ++ " out of range for " ++ typeName)
  match t with
  | .number (.unsigned n) => inRange n
  | .number (.signed n) => inRange n
  | other => refuse ("expected integer, got " ++ other.render)

/-- A 64-bit unsigned integer written as decimal text. -/
def decimalU64 (t : Tree) : ServiceM Nat :=
  match t with
  | .string s =>
    match parseInteger? false s with
    | some n => if n < Int.pow 2 64 then pure n.toNat else refuse "u64 must be a decimal string"
    | none => refuse "u64 must be a decimal string"
  | _ => refuse "u64 must be a decimal string"

/-- `noop_hash`: writes into a pass-through hasher. -/
def noopHashRequest (request : Tree) : ServiceM Tree := do
  let writes ← asArray "writes" (← field request "writes")
  let h ← writes.foldlM (fun (h : NoOpHasher) w => do
    match w.get? "bytes", w.get? "u64", w.get? "u32", w.get? "u8" with
    | some bs, _, _, _ => do
      let bytes ← (← asArray "bytes" bs).mapM (boundedInteger "u8" 255)
      pure (h.write (bytes.map Nat.toUInt8))
    | none, some n, _, _ => do pure (h.writeU64 (← decimalU64 n).toUInt64)
    | none, none, some n, _ => do
      pure (h.writeU32 (← boundedInteger "u32" (Nat.pow 2 32 - 1) n).toUInt32)
    | none, none, none, some n => do pure (h.writeU8 (← boundedInteger "u8" 255 n).toUInt8)
    | none, none, none, none => refuse "unknown write") {}
  pure (.string (toString h.finish.toNat))

/-- The type names a type-keyed map accepts. -/
def keyTypes : List String := ["u8", "u16", "i32", "i64", "String", "str", "[u8]", "()", "Point", "Option<i32>"]

/-- The type a step names: `type` when it is text, else `u8`. -/
def keyType (s : Tree) : ServiceM String := do
  let key := ((s.get? "type").bind textOf?).getD "u8"
  if keyTypes.contains key then pure key else refuse ("unknown key type `" ++ key ++ "`")

/-- A member read as a 64-bit signed integer; anything else, or nothing, is `0`. -/
def int64Field (s : Tree) (name : String) : ServiceM Int64 :=
  let n : Int := match s.get? name with
    | some (.number (.unsigned n)) => if n < Nat.pow 2 63 then n else 0
    | some (.number (.signed n)) => if -Int.pow 2 63 ≤ n then n else 0
    | _ => 0
  pure (Int64.ofInt n)

def int64Tree (n : Int64) : Tree := Tree.int n.toInt

def optionInt64 : Option Int64 → Tree
  | some n => int64Tree n
  | none => .null

/-- A step's refusal, answered in place of its result. -/
def refusalTree (message : String) : Tree :=
  .object [("error", .string "DriverInput"), ("message", .string message)]

/-- One step on a type-keyed map. -/
def typeMapStep (m : TypeMap Int64) (s : Tree) : ServiceM (TypeMap Int64 × Tree) := do
  match ← stringField s "do" with
  | "try_insert" => do
    let (m', inserted) := m.tryInsert (← keyType s) (← int64Field s "value")
    pure (m', .object [("inserted", .bool inserted), ("called", .bool inserted)])
  | "get_or_insert" => do
    let key ← keyType s
    let current := (m.get? key).getD (← int64Field s "value")
    let updated := current + (← int64Field s "add")
    pure ((m.insert key updated).1, int64Tree updated)
  | "get" => do pure (m, optionInt64 (m.get? (← keyType s)))
  | "insert" => do
    let (m', old) := m.insert (← keyType s) (← int64Field s "value")
    pure (m', optionInt64 old)
  | "remove" => do
    let (m', old) := m.remove (← keyType s)
    pure (m', optionInt64 old)
  | "contains" => do pure (m, .bool (m.contains (← keyType s)))
  | "clear" => pure ({}, .null)
  | "len" => pure (m, lengthTree m.size)
  | "values" =>
    pure (m, .array ((m.values.map Int64.toInt).mergeSort (· ≤ ·) |>.map Tree.int))
  | "clone" => pure (m, Tree.nat m.size)
  | "default" => pure ({}, Tree.nat 0)
  | "debug" =>
    match m.values with
    | [] => pure (m, .string "\x7b\x7d")
    | [v] => pure (m, .string ("\x7bTypeId(_): " ++ toString v.toInt ++ "\x7d"))
    | _ => pure (m, refusalTree "debug needs at most one entry")
  | other => refuse ("unknown step `" ++ other ++ "`")

/-- `typeid_map`: steps on one type-keyed map. -/
def typeMapRequest (request : Tree) : ServiceM Tree := do
  let steps ← asArray "steps" (← field request "steps")
  let (_, results) ← steps.foldlM (fun (acc : TypeMap Int64 × Array Tree) s => do
    let (m, r) ← typeMapStep acc.1 s
    pure (m, acc.2.push r)) ({}, #[])
  pure (.array results.toList)

/-- One step on a type set. -/
def typeSetStep (set : TypeSet) (s : Tree) : ServiceM (TypeSet × Tree) := do
  match ← stringField s "do" with
  | "insert" => do
    let (set', inserted) := set.insert (← keyType s)
    pure (set', .bool inserted)
  | "contains" => do pure (set, .bool (set.contains (← keyType s)))
  | "len" => pure (set, lengthTree set.size)
  | "clone" => pure (set, Tree.nat set.size)
  | "default" => pure ({}, Tree.nat 0)
  | "debug" =>
    match set.keys with
    | [] => pure (set, .string "TypeIdSet(\x7b\x7d)")
    | [_] => pure (set, .string "TypeIdSet(\x7bTypeId(_)\x7d)")
    | _ => pure (set, refusalTree "debug needs at most one entry")
  | other => refuse ("unknown step `" ++ other ++ "`")

/-- `typeid_set`: steps on one type set. -/
def typeSetRequest (request : Tree) : ServiceM Tree := do
  let steps ← asArray "steps" (← field request "steps")
  let (_, results) ← steps.foldlM (fun (acc : TypeSet × Array Tree) s => do
    let (set, r) ← typeSetStep acc.1 s
    pure (set, acc.2.push r)) ({}, #[])
  pure (.array results.toList)

/-- `descriptor_cells`: a cell keeps the first descriptor it is given, a generic cell one per
type argument. -/
def descriptorCellsRequest : ServiceM Tree := do
  let cell : OnceCell String := {}
  let (cell, first) := cell.getOrInit "First"
  let (_, second) := cell.getOrInit "Second"
  let cells : TypeCells String := {}
  let (cells, a) := cells.getOrInit "u8" "ForU8"
  let (cells, b) := cells.getOrInit "u16" "ForU16"
  let (cells, c) := cells.getOrInit "u8" "ForU8Again"
  let (_, d) := cells.getOrInit "str" "ForStr"
  pure (.object [("non_generic", strings [first, second]), ("generic", strings [a, b, c, d])])

/-! ## Raw storage -/

/-- A slot type by name. -/
def slotOfName (name : String) : ServiceM Slot :=
  match name with
  | "u8" => pure .u8
  | "u16" => pure .u16
  | "u32" => pure .u32
  | "u64" => pure .u64
  | "String" => pure .string
  | other => refuse ("unknown type `" ++ other ++ "`")

/-- The types a whole block can be taken as, with their layouts. -/
def wholeOfName (name : String) : ServiceM Layout :=
  match name with
  | "u8" => pure ⟨1, 1⟩
  | "u64" => pure ⟨8, 8⟩
  | "String" => pure ⟨24, 8⟩
  | "[u32;4]" => pure ⟨16, 4⟩
  | "()" => pure ⟨0, 1⟩
  | other => refuse ("unknown type `" ++ other ++ "`")

/-- A 64-bit unsigned integer: a number up to `2^53`, decimal text above. -/
def u64Tree (n : Nat) : Tree := if n ≤ Nat.pow 2 53 then Tree.nat n else .string (toString n)

/-- An integer read from a slot. -/
def slotTree (slot : Slot) (n : Nat) : Tree := if slot == .u64 then u64Tree n else Tree.nat n

/-- The integer a step writes to a slot. -/
def slotValue (slot : Slot) (v : Tree) : ServiceM Nat := do
  let bad : ServiceM Nat := refuse ("bad value for " ++ slot.debugName ++ ": " ++ v.render)
  let n : Option Int := match v with
    | .number (.unsigned n) => some n
    | .number (.signed n) => some n
    | .string s => parseInteger? true s
    | _ => none
  match n with
  | some n => if 0 ≤ n && n ≤ slot.max then pure n.toNat else bad
  | none => bad

/-- A refusal of the storage as a step's error. -/
def refused {α : Type} : Except Storage.Refusal α → ServiceM α
  | .ok a => pure a
  | .error r => refuse r.text

/-- What a storage session holds: the block, or nothing once it was consumed. -/
abbrev Block := Option Storage

/-- A member read as a 64-bit unsigned integer; anything else, or nothing, is `0`. -/
def unsignedOrZero (s : Tree) (name : String) : Nat :=
  match s.get? name with
  | some (.number (.unsigned n)) => if n < Nat.pow 2 64 then n else 0
  | _ => 0

/-- The offset a step names: `at` when it is an unsigned integer, else `0`. -/
def offsetField (s : Tree) : ServiceM Nat := pure (unsignedOrZero s "at")

/-- The slot a step names: `ty` when it is text, else `u8`. -/
def slotField (s : Tree) : ServiceM Slot :=
  slotOfName (((s.get? "ty").bind textOf?).getD "u8")

/-- Takes the whole block as a value of a type: every byte must be written (a string for a
string type), and the block's layout must be the type's. -/
def takeWhole (b : Storage) (name : String) : ServiceM Tree := do
  let l ← wholeOfName name
  let value ← if name == "String" then
      match b.strings.lookup 0 with
      | some str => pure (Tree.string str.text)
      | none => refuse Storage.Refusal.noStringAtStart.text
    else if !b.fullyWritten then refuse Storage.Refusal.notFullyInitialized.text
    else pure (match name with
      | "u8" => Tree.nat ((b.words 1).headD 0)
      | "u64" => u64Tree ((b.words 8).headD 0)
      | "[u32;4]" => .array ((b.words 4).map Tree.nat)
      | _ => .null)
  if b.layout != l then
    throw (.panic ("assertion `left == right` failed\n  left: " ++ b.layout.debug ++ "\n right: " ++
      l.debug))
  pure value

/-- One step on a block: the block after it and the step's result. A step that takes the block
consumes it, also when its assertion fails. -/
def storageStep (block : Block) (s : Tree) : ServiceM (Block × Tree) := do
  let some b := block | refuse "storage was consumed"
  match ← stringField s "do" with
  | "layout" => pure (block, .object [("size", Tree.nat b.layout.size), ("align", Tree.nat b.layout.align)])
  | "debug" => pure (block, .string b.debug)
  | "format" =>
    let p := b.address
    pure (block, strings ["Ptr(" ++ p ++ ")", p, "PtrMut(" ++ p ++ ")", p])
  | "same_address" => pure (block, .array [.bool true, .bool true, .bool true])
  | "aligned" => do
    let slot ← slotField s
    let offset ← offsetField s
    if offset ≤ b.layout.size && slot.align ≤ b.layout.align then
      let aligned := offset % slot.align == 0
      pure (block, .array [.bool aligned, .bool aligned])
    else refuse "offset or alignment out of range"
  | "assert_aligned" => do
    let slot ← slotField s
    let offset ← offsetField s
    if offset ≤ b.layout.size && slot.align ≤ b.layout.align then
      if offset % slot.align == 0 then pure (block, .null)
      else pure (block, .object [("panic", .string ("pointer is not aligned. Address 0x_ does not have alignment " ++
        toString slot.align ++ " for type " ++ slot.typeName))])
    else refuse "offset or alignment out of range"
  | "write" => do
    let slot ← slotField s
    let offset ← offsetField s
    let v ← field s "value"
    if slot == .string then
      let text ← asString "value" v
      pure (some (← refused (b.writeString offset text)), .null)
    else
      refused (b.check slot offset)
      let n ← slotValue slot v
      pure (some (← refused (b.writeInt slot offset n)), .null)
  | "read" => do
    let slot ← slotField s
    let offset ← offsetField s
    if slot == .string then pure (block, .string (← refused (b.readString offset)))
    else pure (block, slotTree slot (← refused (b.readInt slot offset)))
  | "replace" => do
    let slot ← slotField s
    let offset ← offsetField s
    let v ← field s "value"
    if slot == .string then
      let old ← refused (b.readString offset)
      let text ← asString "value" v
      pure (some (← refused (b.replaceString offset text)), .string old)
    else
      let old ← refused (b.readInt slot offset)
      let n ← slotValue slot v
      pure (some (← refused (b.writeInt slot offset n)), slotTree slot old)
  | "add" => do
    let slot ← slotField s
    let offset ← offsetField s
    let n := unsignedOrZero s "value"
    if slot == .string then
      let b ← refused (b.appendString offset (toString n))
      pure (some b, .string (← refused (b.readString offset)))
    else
      let old ← refused (b.readInt slot offset)
      let sum := (old + n) % (slot.max + 1)
      pure (some (← refused (b.writeInt slot offset sum)), slotTree slot sum)
  | "drop" => do
    let offset ← offsetField s
    pure (some (← refused (b.dropString offset)), .null)
  | "local" =>
    pure (block, .array [u64Tree (unsignedOrZero s "value"), u64Tree (unsignedOrZero s "then"),
      .string "written"])
  | "assume_init" => do
    let name := ((s.get? "ty").bind textOf?).getD "u8"
    let _ ← wholeOfName name
    let (r, f) := (ExceptT.run (takeWhole b name)).run (← get)
    set f
    match r with
    | .ok v => pure (none, v)
    | .error (.panic m) => pure (none, .object [("error", .string "Panic"), ("message", .string m)])
    | .error fault => throw fault
  | other => refuse ("unknown step `" ++ other ++ "`")

/-- `raw_storage`: steps on one block of raw storage. -/
def rawStorageRequest (request : Tree) : ServiceM Tree := do
  let layout ← match ← optString request "for_type" with
    | some name => wholeOfName name
    | none => do
      let size ← match request.get? "size" with
        | some (.number (.unsigned n)) => pure n
        | _ => refuse "missing unsigned `size`"
      let align ← match request.get? "align" with
        | some (.number (.unsigned n)) => pure n
        | _ => refuse "missing unsigned `align`"
      let l : Layout := ⟨size, align⟩
      if !l.valid || size > 65536 || align > 4096 then refuse "bad layout"
      pure l
  let steps ← asArray "steps" (← field request "steps")
  let (_, results) ← steps.foldlM (fun (acc : Block × Array Tree) s => do
    let (r, f) := (ExceptT.run (storageStep acc.1 s)).run (← get)
    set f
    match r with
    | .ok (b, v) =>
      match v with
      | .object (("error", _) :: _) => pure (b, acc.2.push v)
      | _ => pure (b, acc.2.push (.object [("ok", v)]))
    | .error fault => pure (acc.1, acc.2.push (.object fault.members))) (some (Storage.fresh layout), #[])
  pure (.array results.toList)

/-! ## Values from plain data -/

/-- A value from a JSON document, as a value is built from any data source. -/
def jsonValue : Nat → Tree → Except String Value
  | 0, _ => throw "document nested too deep"
  | fuel + 1, t =>
    match t with
    | .null => pure .null
    | .bool b => pure (.bool b)
    | .number n => Value.visitor.number n
    | .string s => pure (.string s)
    | .array items => .array <$> items.mapM (jsonValue fuel)
    | .object members => do
      let kvs ← members.mapM fun (k, v) => do pure (k, ← jsonValue fuel v)
      pure (.map (ValueMap.ofList kvs))

/-- `serde_value`: a value, or a value map, built from a data source. -/
def serdeValueRequest (request : Tree) : ServiceM Tree := do
  let via ← stringField request "via"
  let v ← field request "value"
  let toMap := (← optString request "target") == some "map"
  let serde {α : Type} (r : Except String α) : ServiceM α :=
    match r with
    | .ok a => pure a
    | .error m => throw (.other "Serde" m [])
  let json (t : Tree) : ServiceM Value := serde (jsonValue t.fuel t)
  let built ← match via with
    | "bool" => do pure (Value.bool (← asBool "value" v))
    | "i64" => do pure (Value.ofInteger (← asInt "value" v))
    | "u64" => do serde (Value.visitor.number (.unsigned (← asNatOrText "value" v)))
    | "f32" => do pure (Value.double (← readSingle v).toBinary64)
    | "f64" => do pure (Value.double (← readDouble v))
    | "char" => do pure (Value.char (← readCharTree v))
    | "str" | "string" => do pure (Value.string (← asString "value" v))
    | "unit" => pure .null
    | "seq" => do .array <$> (← asArray "value" v).mapM json
    | "map" =>
      match v with
      | .object members => do
        let kvs ← members.mapM fun (k, x) => do pure (k, ← json x)
        pure (.map (ValueMap.ofList kvs))
      | _ => refuse "`value` must be an object"
    | "json_value" =>
      match toMap, v with
      | true, .object _ | false, _ => json v
      | true, other =>
        throw (.other "Serde" ("invalid type: " ++ other.unexpected.text ++ ", expected any mappable value") [])
    | "option" => json v
    | other => refuse ("unknown deserializer `" ++ other ++ "`")
  if toMap then
    match built with
    | .map _ => pure (tagged built)
    | other => throw (.other "Serde" ("expected map, found " ++ other.kind.name) [])
  else pure (tagged built)

end ObjectMapping.Service
