/-!
# Memory layout

How much memory a value of a type takes, and where the fields of a record sit, as the compiler
lays them out.

* A `Footprint` is the size and alignment of a type and its largest `Niche`: a scalar inside it
  with bit patterns that no value uses (a `bool` has 254, a non-null pointer one). An optional
  value keeps its absent case in a niche when there is one (`Footprint.option`), and otherwise
  puts a tag as wide as the value's alignment before the value.
* `Footprint.record` places the fields of a record. Fields are grouped by alignment, the most
  aligned group first, a field whose size is a larger power of two joining a larger group.
  Within a group the fields with the most spare values come first, so that the record's niche
  sits at its start. When that still leaves the niche with room on both sides, the fields are
  placed once more with the niches pushed toward the end, and that placement is taken when it
  leaves more room before the niche than either side had before.
* A packed record keeps every field at alignment one.
-/

namespace ObjectMapping

/-- A scalar inside a type with bit patterns no value uses: where it is, how many bytes wide, and
how many patterns are spare. -/
structure Niche where
  offset : Nat
  width : Nat
  spare : Nat
  deriving DecidableEq, Repr, Inhabited

/-- The size and alignment of a type, in bytes, and its largest niche. -/
structure Footprint where
  size : Nat
  align : Nat
  niche : Option Niche := none
  deriving DecidableEq, Repr, Inhabited

/-- The number of trailing zero bits of a number, counting at most `fuel` of them. -/
def trailingZerosUpTo : Nat → Nat → Nat
  | 0, _ => 0
  | fuel + 1, n => if n ≠ 0 ∧ n % 2 = 0 then trailingZerosUpTo fuel (n / 2) + 1 else 0

/-- The number of trailing zero bits of a number; none for zero. A number has fewer trailing
zero bits than its value, so counting up to the number itself counts them all. -/
def trailingZeros (n : Nat) : Nat := trailingZerosUpTo n n

/-- Inserts an item before the first item of a list that it goes before. -/
def insertBefore {α : Type} (before : α → α → Bool) (x : α) : List α → List α
  | [] => [x]
  | y :: ys => if before x y then x :: y :: ys else y :: insertBefore before x ys

/-- Sorts a list by insertion; items that tie keep their order, as each goes before the first of
the sorted rest that it goes before. -/
def stableSort {α : Type} (before : α → α → Bool) : List α → List α
  | [] => []
  | x :: xs => insertBefore before x (stableSort before xs)

/-- Which end of a record the niches of its fields are pushed toward. -/
inductive NichePlacement where
  | front
  | back
  deriving DecidableEq, Repr, Inhabited

namespace Footprint

/-- The first multiple of the alignment at or above `n`. -/
def roundUp (n align : Nat) : Nat := n + (align - n % align) % align

/-- A type of the given width in bytes, aligned to it, with every bit pattern a value. -/
def ofWidth (bytes : Nat) : Footprint := ⟨bytes, bytes, none⟩

/-- A scalar of the given width in bytes of which `spare` bit patterns are no value. -/
def scalar (bytes spare : Nat) : Footprint := ⟨bytes, bytes, some ⟨0, bytes, spare⟩⟩

/-- The spare bit patterns of the niche; none without one. -/
def spare (f : Footprint) : Nat := (f.niche.map (·.spare)).getD 0

/-- A field of this footprint fits at `offset` of an owner of footprint `owner`. -/
def fitsAt (field : Footprint) (offset : Nat) (owner : Footprint) : Bool :=
  offset + field.size ≤ owner.size && (field.align == 0 || offset % field.align == 0)

/-- An optional value: its absent case takes a spare pattern of the niche, or a tag as wide as
the value's alignment goes before the value, whose unused values are then the niche. -/
def option (f : Footprint) : Footprint :=
  match f.niche with
  | some n => { f with niche := if n.spare > 1 then some { n with spare := n.spare - 1 } else none }
  | none =>
    ⟨roundUp (f.align + f.size) f.align, f.align, some ⟨0, f.align, Nat.pow 2 (8 * f.align) - 2⟩⟩

/-- `n` values one after another; an empty array has no niche. -/
def array (f : Footprint) (n : Nat) : Footprint :=
  ⟨n * f.size, f.align, if n == 0 then none else f.niche⟩

/-- The alignment group of a field, as a power of two. It is the larger of the field's alignment
and its size; when some field has a niche, a record pushing niches to the front caps it at the
alignment of the most aligned field, and one pushing them to the back keeps the fields with the
largest niche at their own alignment. -/
def group (placement : NichePlacement) (maxAlign largestSpare : Nat) (f : Footprint) : Nat :=
  let bySize := trailingZeros (max f.align f.size)
  if largestSpare == 0 then bySize
  else
    match placement with
    | .front => min (trailingZeros maxAlign) bySize
    | .back => if f.spare == largestSpare then trailingZeros f.align else bySize

/-- How far the niche of a field is from the field's end, turned around so that a niche nearer
its end sorts later; zero without a niche. -/
def backKey (f : Footprint) : Nat :=
  match f.niche with
  | some n => Nat.pow 2 64 - 1 - (f.size - (n.offset + n.width))
  | none => 0

/-- Whether field `a` goes before field `b`: the larger group first, then by niche as the
placement wants, ties kept in declaration order by a stable sort. -/
def precedes (placement : NichePlacement) (groupOf : Footprint → Nat) (a b : Footprint) : Bool :=
  if groupOf a != groupOf b then groupOf a > groupOf b
  else
    match placement with
    | .front =>
      if a.spare != b.spare then a.spare > b.spare
      else (a.niche.map (·.offset)).getD 0 ≤ (b.niche.map (·.offset)).getD 0
    | .back => if a.spare != b.spare then a.spare < b.spare else a.backKey ≤ b.backKey

/-- Places numbered fields in the order given, each at the next offset its alignment allows:
the offset of each field by number, the end of the last, and the niche of the record, the
first of the largest (front) or the last of the largest (back). -/
def place (placement : NichePlacement) (order : List (Nat × Footprint)) :
    List (Nat × Nat) × Nat × Option Niche :=
  order.foldl (fun (placed, offset, best) (i, f) =>
    let at' := roundUp offset f.align
    let bestSpare := (best.map (·.spare)).getD 0
    let best' := match f.niche with
      | some n =>
        let better : Bool := match placement with
          | .front => n.spare > bestSpare
          | .back => n.spare ≥ bestSpare
        if better then some { n with offset := n.offset + at' } else best
      | none => best
    (placed ++ [(i, at')], at' + f.size, best')) ([], 0, none)

/-- The footprint of a record and the offsets of its fields in declaration order, for one
placement of niches. -/
def recordWith (placement : NichePlacement) (packed : Bool) (fields : List Footprint) :
    Footprint × List Nat :=
  let fields := if packed then fields.map fun f => { f with align := 1 } else fields
  let numbered := (List.range fields.length).zip fields
  let maxAlign := fields.foldl (fun m f => max m f.align) 1
  let largestSpare := fields.foldl (fun m f => max m f.spare) 0
  let groupOf := fun f => if packed then 1 else group placement maxAlign largestSpare f
  let order := if fields.length > 1 then
      stableSort (fun a b => precedes placement groupOf a.2 b.2) numbered
    else numbered
  let (placed, fin, niche) := place placement order
  (⟨roundUp fin maxAlign, maxAlign, niche⟩,
    (List.range fields.length).map fun i => (placed.lookup i).getD 0)

/-- The footprint of a record and the offsets of its fields in declaration order. Niches go to
the front; when that leaves room on both sides of the record's niche, the placement toward the
back is taken if it leaves more room before the niche than either side had. -/
def record (packed : Bool) (fields : List Footprint) : Footprint × List Nat :=
  let first := recordWith .front packed fields
  match first.1.niche with
  | some n =>
    let head := n.offset
    let tail := first.1.size - head - n.width
    if fields.length > 1 && head != 0 && tail > 0 then
      let second := recordWith .back packed fields
      match second.1.niche with
      | some m => if m.offset > head && m.offset > tail then second else first
      | none => first
    else first
  | none => first

end Footprint

end ObjectMapping
