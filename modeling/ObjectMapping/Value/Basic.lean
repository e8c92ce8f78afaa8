import ObjectMapping.Kind
import ObjectMapping.Ty
import ObjectMapping.Float.Text
import ObjectMapping.Text.Quote

/-!
# Values, value maps and instances

A `Value` is what crosses between a mapper and a format: a scalar, a string, an array, a
`ValueMap`, or a reference to an instance of a mapped record (`ObjectRef`). The data of an
instance is a `Datum`; a reference carries the type of its instance, the instance itself, the
instance's identity, and whether the reference owns it.

* A `ValueMap` keeps its entries in insertion order with pairwise distinct keys; inserting a key
  that is present keeps its position and replaces its value (`ValueMap.insert`).
* `Value.beq` is the equality of values: floats compare as IEEE numbers, maps compare as sets of
  entries regardless of order, and references are equal exactly when they point to the same
  instance (`Identity`).
* `Value.debug` is the diagnostic text of a value, `Map({"b": Bool(true), "a": Null})`.
-/

namespace ObjectMapping

open ObjectMapping.Float ObjectMapping.Text

/-- Which instance an object reference points to. Instances of a type with no fields cannot be
told apart, so they all share `Identity.sizeless`. -/
inductive Identity where
  /-- Every instance of a type with no fields. -/
  | sizeless
  /-- An instance created on its own, numbered in order of creation. -/
  | created (n : Nat)
  /-- The instance held in field or element `i` of another instance. -/
  | part (whole : Identity) (i : Nat)
  /-- The instance after it was moved into a box of its own. -/
  | moved (source : Identity)
  deriving DecidableEq, Repr, Inhabited

/-- The identity an instance of a type gets when it is moved: instances with no fields keep
the shared identity. -/
def Identity.move : Identity → Identity
  | .sizeless => .sizeless
  | i => .moved i

mutual

/-- A value exchanged with a format. -/
inductive Value where
  | null
  | bool (b : Bool)
  | byte (n : Int8)
  | short (n : Int16)
  | char (c : Char)
  | int (n : Int32)
  | long (n : Int64)
  | float (x : Binary32)
  | double (x : Binary64)
  | string (s : String)
  | array (items : List Value)
  | map (m : ValueMap)
  | object (r : ObjectRef)

/-- String-keyed values in insertion order, each key once. -/
inductive ValueMap where
  | ofEntries (entries : List (String × Value))

/-- A reference to an instance of a mapped type: the type, the instance, its identity, and
whether the reference owns the instance. -/
inductive ObjectRef where
  | mk (ty : Ty) (datum : Datum) (identity : Identity) (owned : Bool)

/-- The data of an instance. Its type says how to read it. -/
inductive Datum where
  | bool (b : Bool)
  /-- Any integer type, atomic or non-zero integer. -/
  | int (n : Int)
  | f32 (x : Binary32)
  | f64 (x : Binary64)
  | char (c : Char)
  | string (s : String)
  /-- An absent optional value. -/
  | none
  /-- A present optional value. -/
  | some (d : Datum)
  /-- The elements of a vector or an array. -/
  | list (items : List Datum)
  /-- The entries of a string-keyed map, sorted by key. -/
  | entries (kvs : List (String × Datum))
  /-- A value map held as data. -/
  | values (m : ValueMap)
  /-- The fields of a record, in declaration order. -/
  | record (fields : List Datum)

end

instance : Inhabited Value := ⟨.null⟩
instance : Inhabited Datum := ⟨.none⟩

namespace ObjectRef

/-- The type of the instance. -/
def ty : ObjectRef → Ty
  | mk t _ _ _ => t

/-- The instance. -/
def datum : ObjectRef → Datum
  | mk _ d _ _ => d

/-- Which instance it is. -/
def identity : ObjectRef → Identity
  | mk _ _ i _ => i

/-- Whether the reference owns the instance. -/
def isOwned : ObjectRef → Bool
  | mk _ _ _ o => o

/-- A borrowed reference to the same instance. -/
def reborrow (r : ObjectRef) : ObjectRef := mk r.ty r.datum r.identity false

/-- The diagnostic text: the type's name in `ObjectRef(...)`. -/
def debug (r : ObjectRef) : String := "ObjectRef(" ++ r.ty.typeName ++ ")"

end ObjectRef

namespace ValueMap

/-- The entries in insertion order. -/
def entries : ValueMap → List (String × Value)
  | ofEntries es => es

/-- The map with no entries. -/
def empty : ValueMap := ofEntries []

instance : Inhabited ValueMap := ⟨empty⟩

/-- The number of entries. -/
def size (m : ValueMap) : Nat := m.entries.length

def isEmpty (m : ValueMap) : Bool := m.entries.isEmpty

/-- The keys in insertion order. -/
def keys (m : ValueMap) : List String := m.entries.map (·.1)

/-- The value under a key. -/
def get? (m : ValueMap) (k : String) : Option Value := (m.entries.lookup k)

def contains (m : ValueMap) (k : String) : Bool := m.keys.contains k

/-- Replaces the value of the first entry under `k`. -/
def replaceIn (k : String) (v : Value) : List (String × Value) → List (String × Value)
  | [] => []
  | (k', w) :: rest => if k' == k then (k', v) :: rest else (k', w) :: replaceIn k v rest

/-- Inserts an entry and answers the value it replaced: a present key keeps its position and
takes the new value, a new key goes last. -/
def insert (m : ValueMap) (k : String) (v : Value) : ValueMap × Option Value :=
  match m.get? k with
  | some old => (ofEntries (replaceIn k v m.entries), some old)
  | none => (ofEntries (m.entries ++ [(k, v)]), none)

/-- Takes the value under a key, leaving `null` in its place. -/
def take (m : ValueMap) (k : String) : ValueMap × Option Value :=
  match m.get? k with
  | some old => (ofEntries (replaceIn k .null m.entries), some old)
  | none => (m, none)

/-- Inserts entries one after another. -/
def extend (m : ValueMap) (kvs : List (String × Value)) : ValueMap :=
  kvs.foldl (fun acc kv => (acc.insert kv.1 kv.2).1) m

/-- The map of some entries, inserted in order. -/
def ofList (kvs : List (String × Value)) : ValueMap := empty.extend kvs

end ValueMap

namespace Value

/-- The kind of a value. -/
def kind : Value → Kind
  | null => .null
  | bool _ => .bool
  | byte _ => .byte
  | short _ => .short
  | char _ => .char
  | int _ => .int
  | long _ => .long
  | float _ => .float
  | double _ => .double
  | string _ => .string
  | array _ => .array
  | map _ => .map
  | object _ => .object

def isNull : Value → Bool
  | null => true
  | _ => false

/-- The text of a string value. -/
def asStr? : Value → Option String
  | string s => some s
  | _ => none

/-- The entries of a map value. -/
def asMap? : Value → Option ValueMap
  | map m => some m
  | _ => none

/-- The elements of an array value. -/
def asArray? : Value → Option (List Value)
  | array xs => some xs
  | _ => none

/-- The integer of an integer value of any width. -/
def asI64? : Value → Option Int
  | byte n => some n.toInt
  | short n => some n.toInt
  | int n => some n.toInt
  | long n => some n.toInt
  | _ => none

/-- The number of a numeric value as a double: integers are rounded to the nearest double and
singles widened. -/
def asF64? : Value → Option Binary64
  | float x => some x.toBinary64
  | double x => some x
  | v => v.asI64?.map Binary64.ofInt

mutual

/-- The same value with every reference borrowed. -/
def reborrow : Value → Value
  | array xs => array (reborrowList xs)
  | map (.ofEntries es) => map (.ofEntries (reborrowEntries es))
  | object r => object r.reborrow
  | v => v

def reborrowList : List Value → List Value
  | [] => []
  | x :: xs => reborrow x :: reborrowList xs

def reborrowEntries : List (String × Value) → List (String × Value)
  | [] => []
  | (k, v) :: rest => (k, reborrow v) :: reborrowEntries rest

end

mutual

/-- Equality of values: floats as IEEE numbers, maps regardless of order, references by the
instance they point to. -/
def beq : Value → Value → Bool
  | null, null => true
  | bool a, bool b => a == b
  | byte a, byte b => a == b
  | short a, short b => a == b
  | char a, char b => a == b
  | int a, int b => a == b
  | long a, long b => a == b
  | float a, float b => a.ieeeEq b
  | double a, double b => a.ieeeEq b
  | string a, string b => a == b
  | array xs, array ys => beqList xs ys
  | map (.ofEntries es), map other => es.length == other.size && beqEntries es other
  | object a, object b => a.identity == b.identity
  | _, _ => false

def beqList : List Value → List Value → Bool
  | [], [] => true
  | x :: xs, y :: ys => beq x y && beqList xs ys
  | _, _ => false

/-- Every entry has an equal value under its key in `other`. -/
def beqEntries : List (String × Value) → ValueMap → Bool
  | [], _ => true
  | (k, v) :: rest, other =>
    (match other.get? k with
      | some w => beq v w
      | none => false) && beqEntries rest other

end

instance : BEq Value := ⟨beq⟩

mutual

/-- The diagnostic text of a value. -/
def debug : Value → String
  | null => "Null"
  | bool b => s!"Bool({b})"
  | byte n => s!"Byte({n.toInt})"
  | short n => s!"Short({n.toInt})"
  | char c => "Char(" ++ debugChar c ++ ")"
  | int n => s!"Int({n.toInt})"
  | long n => s!"Long({n.toInt})"
  | float x => "Float(" ++ x.render .debug ++ ")"
  | double x => "Double(" ++ x.render .debug ++ ")"
  | string s => "String(" ++ debugQuote s ++ ")"
  | array xs => "Array([" ++ debugList xs ++ "])"
  | map (.ofEntries es) => "Map(\x7b" ++ debugEntries es ++ "\x7d)"
  | object r => "Object(" ++ r.debug ++ ")"

def debugList : List Value → String
  | [] => ""
  | [x] => debug x
  | x :: xs => debug x ++ ", " ++ debugList xs

def debugEntries : List (String × Value) → String
  | [] => ""
  | [(k, v)] => debugQuote k ++ ": " ++ debug v
  | (k, v) :: rest => debugQuote k ++ ": " ++ debug v ++ ", " ++ debugEntries rest

end

end Value

namespace ValueMap

instance : BEq ValueMap := ⟨fun a b => Value.beq (.map a) (.map b)⟩

/-- The diagnostic text of a map: `{"b": Bool(true), "a": Null}`. -/
def debug (m : ValueMap) : String := "\x7b" ++ Value.debugEntries m.entries ++ "\x7d"

/-- Replaces the value under a present key, answering the old value. -/
def set (m : ValueMap) (k : String) (v : Value) : ValueMap × Option Value :=
  match m.get? k with
  | some old => (ofEntries (replaceIn k v m.entries), some old)
  | none => (m, none)

end ValueMap

end ObjectMapping
