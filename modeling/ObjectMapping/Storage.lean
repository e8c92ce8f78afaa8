import ObjectMapping.Text.Quote

/-!
# Raw storage

A `Storage` is a block of bytes with a size and an alignment, written and read through typed
slots at byte offsets: little-endian integers of 8, 16, 32 and 64 bits, and strings. It keeps
track of which bytes hold what, so every access that would read memory never written, read the
inside of a string as an integer, or reach past the block or at a misaligned place is refused
with the reason (`Storage.Refusal`) instead of being carried out.

* A byte is unwritten, a known byte, or a byte of the heap address of a string (`Cell`). A
  string takes `Slot.string.size` bytes at its offset: its capacity, its address and its length,
  each eight bytes (`StoredString.cells`); the block also keeps the string itself
  (`Storage.strings`).
* Writing over part of a string forgets the string but leaves its bytes as they are, so its
  capacity and length can still be read as integers. Dropping a string makes all of its bytes
  unwritten.
* A block is read whole as a value only when it is `Storage.fullyWritten`: every byte is written
  and no string is left in it; `Storage.words` then gives its contents as little-endian words.
-/

namespace ObjectMapping

open ObjectMapping.Text

/-- A size and an alignment. -/
structure Layout where
  size : Nat
  align : Nat
  deriving DecidableEq, Repr, Inhabited

namespace Layout

/-- The exponent of a power of two. -/
def log2 (n : Nat) : Nat := Nat.log2 n

/-- `Layout { size: 8, align: 8 (1 << 3) }`. -/
def debug (l : Layout) : String :=
  "Layout \x7b size: " ++ toString l.size ++ ", align: " ++ toString l.align ++ " (1 << " ++
    toString (log2 l.align) ++ ") \x7d"

/-- Whether the alignment is a power of two and the size, rounded up to it, fits a signed
machine word. -/
def valid (l : Layout) : Bool :=
  l.align != 0 && l.align &&& (l.align - 1) == 0 &&
    (l.size + l.align - 1) / l.align * l.align ≤ Nat.pow 2 63 - 1

end Layout

/-- What a slot of storage holds. -/
inductive Slot where
  | u8
  | u16
  | u32
  | u64
  | string
  deriving DecidableEq, Repr, Inhabited

namespace Slot

def size : Slot → Nat
  | u8 => 1
  | u16 => 2
  | u32 => 4
  | u64 => 8
  | string => 24

def align : Slot → Nat
  | u8 => 1
  | u16 => 2
  | u32 => 4
  | u64 => 8
  | string => 8

/-- The layout of what the slot holds. -/
def layout (s : Slot) : Layout := ⟨s.size, s.align⟩

/-- The full name of the slot's type. -/
def typeName : Slot → String
  | u8 => "u8"
  | u16 => "u16"
  | u32 => "u32"
  | u64 => "u64"
  | string => "alloc::string::String"

/-- The name of the slot in a diagnostic. -/
def debugName : Slot → String
  | u8 => "U8"
  | u16 => "U16"
  | u32 => "U32"
  | u64 => "U64"
  | string => "String"

/-- The largest integer of an integer slot. -/
def max (s : Slot) : Nat := Nat.pow 2 (8 * s.size) - 1

end Slot

/-- The little-endian bytes of an integer. -/
def littleEndian : Nat → Nat → List UInt8
  | 0, _ => []
  | k + 1, n => (n % 256).toUInt8 :: littleEndian k (n / 256)

/-- The integer of little-endian bytes. -/
def ofLittleEndian : List UInt8 → Nat
  | [] => 0
  | b :: rest => b.toNat + 256 * ofLittleEndian rest

/-- What a byte of storage holds. -/
inductive Cell where
  | unwritten
  | byte (b : UInt8)
  /-- A byte of the heap address of a string: written, but with no value that can be known. -/
  | address
  deriving DecidableEq, Repr, Inhabited

/-- A string kept in storage: its text and the capacity of its buffer. -/
structure StoredString where
  text : String
  capacity : Nat
  deriving Repr, Inhabited

namespace StoredString

/-- A string made from its text, with a buffer exactly as long. -/
def ofText (text : String) : StoredString := ⟨text, text.utf8ByteSize⟩

/-- The capacity of a buffer of `cap` bytes holding `len` after `extra` more are appended: the
same when they fit, and otherwise the larger of twice the capacity and what is needed, at
least eight. -/
def grownCapacity (cap len extra : Nat) : Nat :=
  if len + extra ≤ cap then cap else max 8 (max (2 * cap) (len + extra))

/-- The string with text appended to it. -/
def append (s : StoredString) (suffix : String) : StoredString :=
  ⟨s.text ++ suffix, grownCapacity s.capacity s.text.utf8ByteSize suffix.utf8ByteSize⟩

/-- The bytes of a string in storage: its capacity, its address and its length. -/
def cells (s : StoredString) : List Cell :=
  (littleEndian 8 s.capacity).map .byte ++ List.replicate 8 .address ++
    (littleEndian 8 s.text.utf8ByteSize).map .byte

end StoredString

/-- A block of bytes and what was written to it. -/
structure Storage where
  layout : Layout
  /-- What each byte holds. -/
  bytes : List Cell
  /-- The strings, by offset. -/
  strings : List (Nat × StoredString)
  deriving Inhabited

namespace Storage

/-- Why an access is refused. -/
inductive Refusal where
  | outOfBounds
  | alignmentExceeded
  | misaligned
  | uninitialized
  | insideString
  | noString
  | notFullyInitialized
  | noStringAtStart
  deriving DecidableEq, Repr

def Refusal.text : Refusal → String
  | .outOfBounds => "out of bounds"
  | .alignmentExceeded => "slot alignment exceeds the storage alignment"
  | .misaligned => "misaligned"
  | .uninitialized => "uninitialized bytes"
  | .insideString => "bytes belong to a String"
  | .noString => "no String at this offset"
  | .notFullyInitialized => "storage not fully initialized"
  | .noStringAtStart => "no String at offset 0"

/-- A fresh block with nothing written. -/
def fresh (l : Layout) : Storage := ⟨l, List.replicate l.size .unwritten, []⟩

/-- `RawStorage { ptr: 0x_, size: 16, align: 8 }`; the address of an empty block is its
alignment, any other is masked. -/
def address (s : Storage) : String :=
  if s.layout.size == 0 then "0x" ++ hexDigits s.layout.align else "0x_"

def debug (s : Storage) : String :=
  "RawStorage \x7b ptr: " ++ s.address ++ ", size: " ++ toString s.layout.size ++ ", align: " ++
    toString s.layout.align ++ " \x7d"

/-- The checks every typed access makes: the slot fits, its alignment is at most the block's,
and the offset is a multiple of it. -/
def check (s : Storage) (slot : Slot) (offset : Nat) : Except Refusal Unit :=
  if offset + slot.size > s.layout.size then throw .outOfBounds
  else if slot.align > s.layout.align then throw .alignmentExceeded
  else if offset % slot.align != 0 then throw .misaligned
  else pure ()

/-- Whether two byte ranges meet. -/
def overlaps (a n b m : Nat) : Bool := a < b + m && b < a + n

/-- The block with the bytes from `start` on replaced by `cells`. -/
def fill (s : Storage) (start : Nat) (cells : List Cell) : Storage :=
  { s with bytes := (List.range s.bytes.length).zip s.bytes |>.map fun (i, b) =>
      if start ≤ i then cells.getD (i - start) b else b }

/-- The block with a range of bytes made unwritten. -/
def clear (s : Storage) (start n : Nat) : Storage := s.fill start (List.replicate n .unwritten)

/-- The block with every string meeting a range forgotten; its bytes stay as they are. -/
def forget (s : Storage) (start n : Nat) : Storage :=
  { s with strings := s.strings.filter fun (o, _) => !overlaps o Slot.string.size start n }

/-- Reads an integer slot. The bytes of a string's address have no value to read, and are
refused as unwritten memory is. -/
def readInt (s : Storage) (slot : Slot) (offset : Nat) : Except Refusal Nat := do
  s.check slot offset
  if s.strings.any fun (o, _) => overlaps o Slot.string.size offset slot.size then throw .insideString
  let known := ((s.bytes.drop offset).take slot.size).mapM fun
    | .byte b => some b
    | _ => none
  match known with
  | some bs => pure (ofLittleEndian bs)
  | none => throw .uninitialized

/-- Writes an integer slot; strings it meets are forgotten. -/
def writeInt (s : Storage) (slot : Slot) (offset n : Nat) : Except Refusal Storage := do
  s.check slot offset
  pure ((s.forget offset slot.size).fill offset ((littleEndian slot.size n).map .byte))

/-- The string at an offset. -/
def stringAt (s : Storage) (offset : Nat) : Except Refusal StoredString := do
  s.check .string offset
  match s.strings.lookup offset with
  | some str => pure str
  | none => throw .noString

/-- The text of the string at an offset. -/
def readString (s : Storage) (offset : Nat) : Except Refusal String := do
  pure (← s.stringAt offset).text

/-- Puts a string at an offset in place of whatever was there; strings it meets are
forgotten. -/
def putString (s : Storage) (offset : Nat) (str : StoredString) : Except Refusal Storage := do
  s.check .string offset
  let s := (s.forget offset Slot.string.size).fill offset str.cells
  pure { s with strings := s.strings ++ [(offset, str)] }

/-- Writes a string made from a text. -/
def writeString (s : Storage) (offset : Nat) (text : String) : Except Refusal Storage :=
  s.putString offset (.ofText text)

/-- Replaces the string at an offset, which must hold one, by a string made from a text. -/
def replaceString (s : Storage) (offset : Nat) (text : String) : Except Refusal Storage := do
  let _ ← s.stringAt offset
  s.putString offset (.ofText text)

/-- Appends text to the string at an offset, which must hold one. -/
def appendString (s : Storage) (offset : Nat) (suffix : String) : Except Refusal Storage := do
  let str ← s.stringAt offset
  s.putString offset (str.append suffix)

/-- Drops the string at an offset: its bytes become unwritten. -/
def dropString (s : Storage) (offset : Nat) : Except Refusal Storage :=
  match s.strings.lookup offset with
  | some _ =>
    pure { s.clear offset Slot.string.size with strings := s.strings.filter (·.1 != offset) }
  | none => throw .noString

/-- Whether every byte is written and no string is left in the block. -/
def fullyWritten (s : Storage) : Bool := s.strings.isEmpty && s.bytes.all (· != .unwritten)

/-- The integers of the whole block, each `width` bytes wide. -/
def words (s : Storage) (width : Nat) : List Nat :=
  (List.range (s.layout.size / width)).map fun i =>
    ofLittleEndian (((s.bytes.drop (i * width)).take width).map fun
      | .byte b => b
      | _ => 0)

end Storage

end ObjectMapping
