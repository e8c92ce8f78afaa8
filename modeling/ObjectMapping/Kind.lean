/-!
# Kinds of values

Every value the mapping engine moves between an instance and a wire format has a `Kind`: one
of thirteen shapes, from `null` to `string`. A type declares the kind of the values it
produces; a primitive type also names its `Primitive`, the scalar that the fast accessors of a
raw strategy read and write directly.

* `Kind.name` is the lower-case word used in messages and logs ("expected int, found string").
* `Kind.isPrimitive`, `Kind.isNumeric` and `Kind.isComposite` are the three classifications.
* `Primitive.kind` is the kind a primitive produces.
-/

namespace ObjectMapping

/-- The shape of a value. -/
inductive Kind where
  | null
  | bool
  | byte
  | short
  | char
  | int
  | long
  | float
  | double
  | object
  | array
  | map
  | string
  deriving DecidableEq, Repr, Inhabited

namespace Kind

/-- Every kind, in declaration order. -/
def all : List Kind :=
  [null, bool, byte, short, char, int, long, float, double, object, array, map, string]

/-- The word a kind is printed as. -/
def name : Kind → String
  | null => "null"
  | bool => "bool"
  | byte => "byte"
  | short => "short"
  | char => "char"
  | int => "int"
  | long => "long"
  | float => "float"
  | double => "double"
  | object => "object"
  | array => "array"
  | map => "map"
  | string => "string"

/-- The constructor name of a kind, as a derived debug view prints it. -/
def debugName : Kind → String
  | null => "Null"
  | bool => "Bool"
  | byte => "Byte"
  | short => "Short"
  | char => "Char"
  | int => "Int"
  | long => "Long"
  | float => "Float"
  | double => "Double"
  | object => "Object"
  | array => "Array"
  | map => "Map"
  | string => "String"

/-- The kind printed as `word`, if any. -/
def ofName? (word : String) : Option Kind :=
  all.find? (·.name == word)

/-- Scalars with a fixed width: booleans, characters and the six numbers. -/
def isPrimitive : Kind → Bool
  | bool | byte | short | char | int | long | float | double => true
  | _ => false

/-- The integer and floating-point kinds. -/
def isNumeric : Kind → Bool
  | byte | short | int | long | float | double => true
  | _ => false

/-- Kinds whose values hold other values. -/
def isComposite : Kind → Bool
  | object | array | map => true
  | _ => false

theorem ofName?_name (k : Kind) : ofName? k.name = some k := by
  cases k <;> rfl

end Kind

/-- A scalar that a raw accessor can move without boxing. -/
inductive Primitive where
  | bool
  | i8
  | i16
  | char
  | i32
  | i64
  | f32
  | f64
  deriving DecidableEq, Repr, Inhabited

namespace Primitive

/-- The kind of value a primitive produces. -/
def kind : Primitive → Kind
  | bool => .bool
  | i8 => .byte
  | i16 => .short
  | char => .char
  | i32 => .int
  | i64 => .long
  | f32 => .float
  | f64 => .double

/-- The constructor name of a primitive, as a derived debug view prints it. -/
def debugName : Primitive → String
  | bool => "Bool"
  | i8 => "I8"
  | i16 => "I16"
  | char => "Char"
  | i32 => "I32"
  | i64 => "I64"
  | f32 => "F32"
  | f64 => "F64"

theorem kind_isPrimitive (p : Primitive) : p.kind.isPrimitive = true := by
  cases p <;> rfl

end Primitive

end ObjectMapping
