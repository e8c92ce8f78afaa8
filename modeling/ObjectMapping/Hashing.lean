/-!
# Hashers and maps keyed by types

* `NoOpHasher` keeps the last 64-bit integer written as the hash; other writes fold their bytes
  in, last byte first, each step rotating the hash left by 8 bits and adding the byte. The
  narrower integers are written as their little-endian bytes, so one such write and one 64-bit
  write of the same number give the same hash.
* `TypeMap` maps types, named by their keys, to values; `TypeSet` is a set of types. Their
  iteration order is unspecified, so they answer their values sorted.
* `OnceCell` keeps the first value it is given; `TypeCells` keeps one such value per type.
-/

namespace ObjectMapping

/-- A hasher that passes a 64-bit integer through. -/
structure NoOpHasher where
  hash : UInt64 := 0
  deriving DecidableEq, Repr, Inhabited

namespace NoOpHasher

/-- Folds bytes in, last byte first. -/
def write (h : NoOpHasher) (bytes : List UInt8) : NoOpHasher :=
  bytes.reverse.foldl (fun h b => ⟨((h.hash <<< 8) ||| (h.hash >>> 56)) + b.toUInt64⟩) h

/-- The hash becomes the integer written. -/
def writeU64 (_ : NoOpHasher) (n : UInt64) : NoOpHasher := ⟨n⟩

/-- A 32-bit integer, as its four little-endian bytes. -/
def writeU32 (h : NoOpHasher) (n : UInt32) : NoOpHasher :=
  h.write [n.toUInt8, (n >>> 8).toUInt8, (n >>> 16).toUInt8, (n >>> 24).toUInt8]

def writeU8 (h : NoOpHasher) (n : UInt8) : NoOpHasher := h.write [n]

/-- The low `width` bytes of an integer, least significant first: its native bytes on a
little-endian target. -/
def leBytes : Nat → UInt64 → List UInt8
  | 0, _ => []
  | width + 1, n => n.toUInt8 :: leBytes width (n >>> 8)

/-- The width of a pointer-sized integer in bytes: eight on a 64-bit target, four on a 32-bit
one. -/
def usizeBytes : Nat := if USize.size = Nat.pow 2 64 then 8 else 4

/-- A 16-bit integer, as its two little-endian bytes. -/
def writeU16 (h : NoOpHasher) (n : UInt16) : NoOpHasher := h.write (leBytes 2 n.toUInt64)

/-- A pointer-sized integer, as its little-endian bytes. -/
def writeUsize (h : NoOpHasher) (n : USize) : NoOpHasher :=
  h.write (leBytes usizeBytes n.toUInt64)

def finish (h : NoOpHasher) : UInt64 := h.hash

end NoOpHasher

/-- Values keyed by types, each type at most once. -/
structure TypeMap (α : Type) where
  entries : List (String × α) := []
  deriving Inhabited

namespace TypeMap

variable {α : Type}

def get? (m : TypeMap α) (key : String) : Option α := m.entries.lookup key

def contains (m : TypeMap α) (key : String) : Bool := (m.get? key).isSome

def size (m : TypeMap α) : Nat := m.entries.length

/-- Puts a value under a type, answering the value it replaces. -/
def insert (m : TypeMap α) (key : String) (v : α) : TypeMap α × Option α :=
  match m.get? key with
  | some old => (⟨m.entries.map fun (k, x) => if k == key then (k, v) else (k, x)⟩, some old)
  | none => (⟨m.entries ++ [(key, v)]⟩, none)

/-- Puts a value under a type that has none, answering whether it did. -/
def tryInsert (m : TypeMap α) (key : String) (v : α) : TypeMap α × Bool :=
  if m.contains key then (m, false) else ((m.insert key v).1, true)

def remove (m : TypeMap α) (key : String) : TypeMap α × Option α :=
  (⟨m.entries.filter (·.1 != key)⟩, m.get? key)

def values (m : TypeMap α) : List α := m.entries.map (·.2)

end TypeMap

/-- A set of types. -/
structure TypeSet where
  keys : List String := []
  deriving Inhabited

namespace TypeSet

def contains (s : TypeSet) (key : String) : Bool := s.keys.contains key

/-- Adds a type, answering whether it was new. -/
def insert (s : TypeSet) (key : String) : TypeSet × Bool :=
  if s.contains key then (s, false) else (⟨s.keys ++ [key]⟩, true)

def size (s : TypeSet) : Nat := s.keys.length

end TypeSet

/-- A cell that keeps the first value it is given. -/
structure OnceCell (α : Type) where
  value : Option α := none

/-- The value of the cell, set to `v` if it had none. -/
def OnceCell.getOrInit {α : Type} (c : OnceCell α) (v : α) : OnceCell α × α :=
  match c.value with
  | some old => (c, old)
  | none => (⟨some v⟩, v)

/-- One cell per type. -/
structure TypeCells (α : Type) where
  cells : TypeMap α := {}

/-- The value of the type's cell, set to `v` if it had none. -/
def TypeCells.getOrInit {α : Type} (c : TypeCells α) (key : String) (v : α) : TypeCells α × α :=
  match c.cells.get? key with
  | some old => (c, old)
  | none => (⟨(c.cells.insert key v).1⟩, v)

end ObjectMapping
