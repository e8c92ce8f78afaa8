import ObjectMapping.Value.Basic

/-!
# Value maps as they are stored

A value map keeps its entries in a list, in insertion order, and finds a key through an index:
a hash table of positions into that list, where the position of an entry is placed under the
hash of the entry's key. `ValueMap` is what the rest of the library works with, the entries
alone; `IndexedMap` is the stored form, which answers every question through its index.

The hash table and the hash of a key come from libraries of their own, so both are parameters:
`hash` is any function from keys to 64-bit hashes, and a `PositionTable` gives the table's
operations. `PositionTable.Lawful` states what the table promises of them, over a view of the
elements it holds, each with the hash it was placed under:

* `find h test` returns an element placed under `h` that passes `test`, and returns nothing
  only if no such element is held;
* `insertUnique h x rehash` holds what the table held and `x` placed under `h`, provided that
  `rehash` gives every element held the hash it was placed under (the table calls it to move
  its elements when it grows).

Looking a key up, replacing a value in place (`insert` of a present key, `update`, `take`) and
appending a new entry follow the stored form step by step. `extend` inserts entries one after
another, and `ofList` does so from a table made for as many entries.
-/

namespace ObjectMapping

/-- The operations of a hash table of positions. -/
structure PositionTable (τ : Type) where
  empty : τ
  /-- A table with room for a number of elements; it holds none. -/
  withCapacity : Nat → τ
  /-- An element placed under a hash that passes a test. -/
  find : τ → UInt64 → (Nat → Bool) → Option Nat
  /-- Places an element under a hash; the function gives the hash of each element held. -/
  insertUnique : τ → UInt64 → Nat → (Nat → UInt64) → τ

/-- What a table promises of its operations, in terms of `slots`, the elements it holds each
with the hash it was placed under. -/
structure PositionTable.Lawful {τ : Type} (T : PositionTable τ)
    (slots : τ → List (UInt64 × Nat)) : Prop where
  slots_empty : slots T.empty = []
  slots_withCapacity : ∀ n, slots (T.withCapacity n) = []
  find_some : ∀ {t h test x}, T.find t h test = some x → (h, x) ∈ slots t ∧ test x = true
  find_none : ∀ {t h test}, T.find t h test = none → ∀ x, (h, x) ∈ slots t → test x = false
  slots_insertUnique : ∀ {t h x rehash}, (∀ s ∈ slots t, rehash s.2 = s.1) →
    (slots (T.insertUnique t h x rehash)).Perm (slots t ++ [(h, x)])

/-- A value map as stored: the entries in insertion order, and the table of their positions. -/
structure IndexedMap (τ : Type) where
  entries : List (String × Value)
  index : τ

namespace IndexedMap

variable {τ : Type} (T : PositionTable τ) (hash : String → UInt64)

/-- The map with no entries. -/
def new : IndexedMap τ := ⟨[], T.empty⟩

/-- The map with no entries and room for `n`. -/
def withCapacity (n : Nat) : IndexedMap τ := ⟨[], T.withCapacity n⟩

/-- The number of entries. -/
def len (m : IndexedMap τ) : Nat := m.entries.length

/-- The keys in insertion order. -/
def keys (m : IndexedMap τ) : List String := m.entries.map (·.1)

/-- The position of a key: the element the index finds under the key's hash whose entry has
that key. -/
def position (m : IndexedMap τ) (key : String) : Option Nat :=
  T.find m.index (hash key) fun i => m.entries[i]?.any (·.1 == key)

/-- The value under a key. -/
def get (m : IndexedMap τ) (key : String) : Option Value :=
  (m.position T hash key).bind fun i => m.entries[i]?.map (·.2)

def containsKey (m : IndexedMap τ) (key : String) : Bool := (m.position T hash key).isSome

/-- The hash of the key at each position, which the index is given to move its elements. -/
def rehash (entries : List (String × Value)) (i : Nat) : UInt64 :=
  match entries[i]? with
  | some e => hash e.1
  | none => 0

/-- Inserts a value and answers the one it replaced: a present key keeps its position and takes
the new value, a new key is appended and its position placed under its hash. -/
def insert (m : IndexedMap τ) (key : String) (v : Value) : IndexedMap τ × Option Value :=
  match m.position T hash key with
  | some i => ({ m with entries := m.entries.modify i fun e => (e.1, v) }, m.entries[i]?.map (·.2))
  | none =>
    let entries := m.entries ++ [(key, v)]
    (⟨entries, T.insertUnique m.index (hash key) m.entries.length (rehash hash entries)⟩, none)

/-- Writes through the reference to the value under a present key: the value becomes `f` of
what it was. -/
def update (m : IndexedMap τ) (key : String) (f : Value → Value) : IndexedMap τ :=
  match m.position T hash key with
  | some i => { m with entries := m.entries.modify i fun e => (e.1, f e.2) }
  | none => m

/-- Moves the value under a key out, leaving `null` in its place. -/
def take (m : IndexedMap τ) (key : String) : IndexedMap τ × Option Value :=
  (m.update T hash key fun _ => .null, m.get T hash key)

/-- Inserts entries one after another. -/
def extend (m : IndexedMap τ) (kvs : List (String × Value)) : IndexedMap τ :=
  kvs.foldl (fun acc kv => (acc.insert T hash kv.1 kv.2).1) m

/-- The map of some entries, inserted in order into a map with room for all of them. -/
def ofList (kvs : List (String × Value)) : IndexedMap τ :=
  (withCapacity T kvs.length).extend T hash kvs

/-- Equality of maps: as many entries, and each value equal to the one the other map holds
under its key. -/
def beq (a b : IndexedMap τ) : Bool :=
  a.len == b.len && a.entries.all fun e => (b.get T hash e.1).any fun w => w == e.2

/-- The entries alone. -/
def toValueMap (m : IndexedMap τ) : ValueMap := .ofEntries m.entries

end IndexedMap

end ObjectMapping
