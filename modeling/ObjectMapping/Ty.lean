import ObjectMapping.Kind

/-!
# Types of instances

`Ty` names the type of an instance: the built-in scalars, the wrappers and collections over
other types, and the types a schema declares (records and the scalars and opaque types of the
user), which are referred to by their path and applied to type arguments. `Ty.param` stands
for a type parameter inside a generic declaration and is replaced by `Ty.subst`.

* `IntType` is a fixed-width integer type: its range (`IntType.contains`), the kind of value it
  is written as (unsigned types widen to the next signed kind), and its name.
* `Ty.typeName` is the full name of a type (`alloc::vec::Vec<driver::Point>`), the name that
  messages and descriptors show.
-/

namespace ObjectMapping

/-- A fixed-width integer type. -/
inductive IntType where
  | i8
  | i16
  | i32
  | i64
  | u8
  | u16
  | u32
  | u64
  deriving DecidableEq, Repr, Inhabited

namespace IntType

/-- The name of the type. -/
def name : IntType → String
  | i8 => "i8"
  | i16 => "i16"
  | i32 => "i32"
  | i64 => "i64"
  | u8 => "u8"
  | u16 => "u16"
  | u32 => "u32"
  | u64 => "u64"

/-- Bits of the type. -/
def bits : IntType → Nat
  | i8 | u8 => 8
  | i16 | u16 => 16
  | i32 | u32 => 32
  | i64 | u64 => 64

def signed : IntType → Bool
  | i8 | i16 | i32 | i64 => true
  | _ => false

/-- The least value. -/
def min (w : IntType) : Int := if w.signed then -(Nat.pow 2 (w.bits - 1) : Nat) else 0

/-- The greatest value. -/
def max (w : IntType) : Int :=
  if w.signed then (Nat.pow 2 (w.bits - 1) - 1 : Nat) else (Nat.pow 2 w.bits - 1 : Nat)

/-- Whether an integer is a value of the type. -/
def contains (w : IntType) (n : Int) : Bool := decide (w.min ≤ n ∧ n ≤ w.max)

/-- The kind a value of the type is written as: a signed type as its own width, an unsigned one
as the next wider signed kind. The 64-bit unsigned type has none. -/
def kind? : IntType → Option Kind
  | i8 => some .byte
  | i16 | u8 => some .short
  | i32 | u16 => some .int
  | i64 | u32 => some .long
  | u64 => none

/-- The primitive a signed type is moved as. -/
def primitive? : IntType → Option Primitive
  | i8 => some .i8
  | i16 => some .i16
  | i32 => some .i32
  | i64 => some .i64
  | _ => none

/-- The name of the non-zero type over it. -/
def nonZeroName : IntType → String
  | i8 => "NonZeroI8"
  | i16 => "NonZeroI16"
  | i32 => "NonZeroI32"
  | i64 => "NonZeroI64"
  | u8 => "NonZeroU8"
  | u16 => "NonZeroU16"
  | u32 => "NonZeroU32"
  | u64 => "NonZeroU64"

end IntType

/-- The type of an instance. -/
inductive Ty where
  | bool
  | int (w : IntType)
  | f32
  | f64
  | char
  | string
  /-- An optional value; the absent one is written as null. -/
  | option (t : Ty)
  /-- A value on the heap, written as the value itself. -/
  | boxed (t : Ty)
  /-- A growable list. -/
  | vec (t : Ty)
  /-- A list of exactly `n` items. -/
  | array (t : Ty) (n : Nat)
  /-- A map from strings, iterated in key order. -/
  | sortedMap (v : Ty)
  /-- A map from strings with a random hash. -/
  | hashMap (v : Ty)
  /-- A map from strings with a fixed hash. -/
  | fixedMap (v : Ty)
  /-- The engine's own map of values. -/
  | valueMap
  | atomicBool
  | atomicInt (w : IntType)
  | nonZero (w : IntType)
  /-- A type the schema declares, by its path. -/
  | named (path : String)
  /-- A generic type applied to one more type argument. -/
  | apply (generic : Ty) (arg : Ty)
  /-- A type parameter of a generic declaration. -/
  | param (i : Nat)
  deriving DecidableEq, Repr, Inhabited

namespace Ty

/-- Type arguments put in for the parameters. -/
def subst (args : List Ty) : Ty → Ty
  | param i => args.getD i (param i)
  | option t => option (subst args t)
  | boxed t => boxed (subst args t)
  | vec t => vec (subst args t)
  | array t n => array (subst args t) n
  | sortedMap v => sortedMap (subst args v)
  | hashMap v => hashMap (subst args v)
  | fixedMap v => fixedMap (subst args v)
  | apply g a => apply (subst args g) (subst args a)
  | t => t

/-- A declared type applied to type arguments, first argument innermost. -/
def applied (path : String) (args : List Ty) : Ty :=
  args.foldl apply (named path)

/-- The declared type at the head of an application and its arguments in order. -/
def head? : Ty → Option (String × List Ty)
  | named p => some (p, [])
  | apply g a => (head? g).map fun (p, ts) => (p, ts ++ [a])
  | _ => none

/-- The full name of a type. -/
def typeName : Ty → String
  | bool => "bool"
  | int w => w.name
  | f32 => "f32"
  | f64 => "f64"
  | char => "char"
  | string => "alloc::string::String"
  | option t => "core::option::Option<" ++ typeName t ++ ">"
  | boxed t => "alloc::boxed::Box<" ++ typeName t ++ ">"
  | vec t => "alloc::vec::Vec<" ++ typeName t ++ ">"
  | array t n => "[" ++ typeName t ++ "; " ++ toString n ++ "]"
  | sortedMap v =>
    "alloc::collections::btree::map::BTreeMap<alloc::string::String, " ++ typeName v ++ ">"
  | hashMap v => "std::collections::hash::map::HashMap<alloc::string::String, " ++ typeName v ++ ">"
  | fixedMap v =>
    "hashbrown::map::HashMap<alloc::string::String, " ++ typeName v ++
      ", vc_utils::hash::hasher::FixedHashState>"
  | valueMap => "vc_mapper::value::map::ValueMap<'_>"
  | atomicBool => "core::sync::atomic::Atomic<bool>"
  | atomicInt w => "core::sync::atomic::Atomic<" ++ w.name ++ ">"
  | nonZero w => "core::num::nonzero::NonZero<" ++ w.name ++ ">"
  | named p => p
  | apply g a =>
    let inner := typeName g
    -- the arguments sit inside the brackets of the head, separated by commas
    if inner.endsWith ">" then
      String.ofList (inner.toList.dropLast) ++ ", " ++ typeName a ++ ">"
    else inner ++ "<" ++ typeName a ++ ">"
  | param i => "T" ++ toString i

/-- Whether iteration order is that of a hash: such maps have no reproducible text. -/
def hashOrdered : Ty → Bool
  | hashMap _ | fixedMap _ => true
  | _ => false

end Ty

end ObjectMapping
