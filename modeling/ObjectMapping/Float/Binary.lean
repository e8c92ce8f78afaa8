/-!
# IEEE 754 binary formats as bit patterns

A float is kept as its bit pattern (`Binary32`, `Binary64`), so that equality, the sign of
zero and NaN payloads are exact, and so that the kernel can evaluate every operation. A
`Layout` describes a format; `Fields` is a pattern taken apart into sign, biased exponent and
fraction, and `Class` is what the pattern denotes.

* `Layout.roundRatio` rounds a positive ratio of naturals to the nearest value of a format,
  ties to the even significand, with overflow to infinity: the significand is the ratio
  divided by `2^E`, where `E` is the quantum of the ratio's binade (never below the quantum of
  the subnormals).
* `Binary64.toBinary32` and `Binary32.toBinary64` are the narrowing and widening conversions;
  a NaN keeps the high bits of its payload and becomes quiet.
* `Binary64.ofInt` is the nearest double to an integer.
-/

namespace ObjectMapping.Float

/-- The shape of an IEEE 754 binary interchange format. -/
structure Layout where
  /-- Stored fraction bits; the significand has one more, hidden, bit. -/
  fractionBits : Nat
  /-- Width of the biased exponent field. -/
  exponentBits : Nat
  deriving DecidableEq, Repr

namespace Layout

/-- Single precision: 8 exponent bits and 23 fraction bits. -/
def binary32 : Layout := ⟨23, 8⟩

/-- Double precision: 11 exponent bits and 52 fraction bits. -/
def binary64 : Layout := ⟨52, 11⟩

/-- The exponent bias: 127 or 1023. -/
def bias (L : Layout) : Nat := Nat.pow 2 (L.exponentBits - 1) - 1

/-- The all-ones exponent field, which marks infinities and NaNs. -/
def maxField (L : Layout) : Nat := Nat.pow 2 L.exponentBits - 1

/-- The weight of the hidden significand bit. -/
def hidden (L : Layout) : Nat := Nat.pow 2 L.fractionBits

/-- The exponent of the last place of a subnormal: -149 or -1074. -/
def minExponent (L : Layout) : Int := 1 - (L.bias : Int) - L.fractionBits

/-- Bits in a pattern: 32 or 64. -/
def width (L : Layout) : Nat := 1 + L.exponentBits + L.fractionBits

/-- The weight of the quiet bit of a NaN. -/
def quietBit (L : Layout) : Nat := Nat.pow 2 (L.fractionBits - 1)

end Layout

/-- A pattern taken apart: the sign, the biased exponent field and the fraction field. -/
structure Fields where
  neg : Bool
  exp : Nat
  frac : Nat
  deriving DecidableEq, Repr

/-- What a pattern denotes. A finite nonzero value is `m · 2^e` with `0 < m`. -/
inductive Class where
  | nan
  | infinite
  | zero
  | finite (m : Nat) (e : Int)
  deriving DecidableEq, Repr

namespace Layout

/-- The fields of a pattern. -/
def decode (L : Layout) (bits : Nat) : Fields :=
  { neg := bits / Nat.pow 2 (L.width - 1) % 2 == 1
    exp := bits / Nat.pow 2 L.fractionBits % Nat.pow 2 L.exponentBits
    frac := bits % Nat.pow 2 L.fractionBits }

/-- The pattern of some fields. -/
def encode (L : Layout) (f : Fields) : Nat :=
  (if f.neg then Nat.pow 2 (L.width - 1) else 0) + f.exp * Nat.pow 2 L.fractionBits + f.frac

/-- The value the fields denote. -/
def classify (L : Layout) (f : Fields) : Class :=
  if f.exp = L.maxField then
    if f.frac = 0 then .infinite else .nan
  else if f.exp = 0 then
    if f.frac = 0 then .zero else .finite f.frac L.minExponent
  else .finite (f.frac + L.hidden) ((f.exp : Int) - L.bias - L.fractionBits)

/-- Infinity of a sign. -/
def infinity (L : Layout) (neg : Bool) : Fields := ⟨neg, L.maxField, 0⟩

/-- Round half to even of `num / den`. -/
def roundHalfEven (num den : Nat) : Nat :=
  let q := num / den
  let r := num % den
  if 2 * r > den || (2 * r == den && q % 2 == 1) then q + 1 else q

/-- Whether `2^t ≤ num / den`. -/
def pow2Le (t : Int) (num den : Nat) : Bool :=
  if 0 ≤ t then Nat.pow 2 t.toNat * den ≤ num else den ≤ num * Nat.pow 2 (-t).toNat

/-- `⌊log₂ (num / den)⌋` for positive `num` and `den`: the estimate from the bit lengths is
exact or one too large. -/
def floorLog2 (num den : Nat) : Int :=
  let t : Int := (num.log2 : Int) - den.log2
  if pow2Le t num den then t else t - 1

/-- Fields for a significand `M` at quantum `2^E`, carrying a significand that rounding
pushed to the next binade, and overflowing to infinity. -/
def pack (L : Layout) (neg : Bool) (M : Nat) (E : Int) : Fields :=
  let carry := M = 2 * L.hidden
  let M := if carry then L.hidden else M
  let E := if carry then E + 1 else E
  if M < L.hidden then ⟨neg, 0, M⟩
  else
    let field : Int := E + L.fractionBits + L.bias
    if L.maxField ≤ field then L.infinity neg else ⟨neg, field.toNat, M - L.hidden⟩

/-- The value of the format nearest to `±(num / den)`, ties to the even significand. -/
def roundRatio (L : Layout) (neg : Bool) (num den : Nat) : Fields :=
  if num = 0 ∨ den = 0 then ⟨neg, 0, 0⟩
  else
    let E : Int := max (floorLog2 num den) (1 - (L.bias : Int)) - L.fractionBits
    let M :=
      if 0 ≤ E then roundHalfEven num (den * Nat.pow 2 E.toNat)
      else roundHalfEven (num * Nat.pow 2 (-E).toNat) den
    L.pack neg M E

/-- The value of the format nearest to `±(m · 2^e)`. -/
def roundDyadic (L : Layout) (neg : Bool) (m : Nat) (e : Int) : Fields :=
  if 0 ≤ e then L.roundRatio neg (m * Nat.pow 2 e.toNat) 1
  else L.roundRatio neg m (Nat.pow 2 (-e).toNat)

end Layout

/-- An IEEE 754 double, kept as its bit pattern. -/
structure Binary64 where
  bits : UInt64
  deriving DecidableEq, Inhabited, Repr

/-- An IEEE 754 single, kept as its bit pattern. -/
structure Binary32 where
  bits : UInt32
  deriving DecidableEq, Inhabited, Repr

namespace Binary64

/-- The fields of the pattern. -/
def fields (x : Binary64) : Fields := Layout.binary64.decode x.bits.toNat

/-- The pattern of some fields. -/
def ofFields (f : Fields) : Binary64 := ⟨(Layout.binary64.encode f).toUInt64⟩

/-- What the pattern denotes. -/
def classify (x : Binary64) : Class := Layout.binary64.classify x.fields

/-- The sign bit. -/
def neg (x : Binary64) : Bool := x.fields.neg

def isNaN (x : Binary64) : Bool := x.classify == .nan

/-- Neither infinite nor NaN. -/
def isFinite (x : Binary64) : Bool := x.fields.exp != Layout.binary64.maxField

/-- Positive zero. -/
def zero : Binary64 := ⟨0⟩

/-- The NaN a failed operation produces: negative and quiet, as x86 processors make it. -/
def defaultNaN : Binary64 := ⟨0xFFF8000000000000⟩

/-- The quiet NaN with no payload. -/
def nan : Binary64 := ⟨0x7FF8000000000000⟩

def infinity (neg : Bool) : Binary64 := ofFields (Layout.binary64.infinity neg)

/-- The same pattern with the quiet bit set. -/
def quiet (x : Binary64) : Binary64 := ⟨x.bits ||| 0x0008000000000000⟩

/-- The value with the sign flipped. -/
def negate (x : Binary64) : Binary64 := ⟨x.bits ^^^ 0x8000000000000000⟩

/-- The double nearest to `±(num / den)`. -/
def ofRatio (neg : Bool) (num den : Nat) : Binary64 :=
  ofFields (Layout.binary64.roundRatio neg num den)

/-- The double nearest to `±(m · 2^e)`. -/
def ofDyadic (neg : Bool) (m : Nat) (e : Int) : Binary64 :=
  ofFields (Layout.binary64.roundDyadic neg m e)

/-- The double nearest to an integer; zero is positive. -/
def ofInt (n : Int) : Binary64 := ofRatio (n < 0) n.natAbs 1

/-- IEEE equality: NaN equals nothing, and the two zeros are equal. -/
def ieeeEq (x y : Binary64) : Bool :=
  match x.classify, y.classify with
  | .nan, _ => false
  | _, .nan => false
  | .zero, .zero => true
  | _, _ => x.bits == y.bits

/-- The nearest single: a NaN keeps the high bits of its payload and becomes quiet. -/
def toBinary32 (x : Binary64) : Binary32 :=
  let f := x.fields
  let L := Layout.binary32
  let g : Fields :=
    match x.classify with
    | .nan => ⟨f.neg, L.maxField, L.quietBit + f.frac / Nat.pow 2 29 % L.quietBit⟩
    | .infinite => L.infinity f.neg
    | .zero => ⟨f.neg, 0, 0⟩
    | .finite m e => L.roundDyadic f.neg m e
  ⟨(L.encode g).toUInt32⟩

end Binary64

namespace Binary32

/-- The fields of the pattern. -/
def fields (x : Binary32) : Fields := Layout.binary32.decode x.bits.toNat

/-- The pattern of some fields. -/
def ofFields (f : Fields) : Binary32 := ⟨(Layout.binary32.encode f).toUInt32⟩

/-- What the pattern denotes. -/
def classify (x : Binary32) : Class := Layout.binary32.classify x.fields

def neg (x : Binary32) : Bool := x.fields.neg

def isNaN (x : Binary32) : Bool := x.classify == .nan

/-- Neither infinite nor NaN. -/
def isFinite (x : Binary32) : Bool := x.fields.exp != Layout.binary32.maxField

/-- Positive zero. -/
def zero : Binary32 := ⟨0⟩

/-- The quiet NaN with no payload. -/
def nan : Binary32 := ⟨0x7FC00000⟩

def infinity (neg : Bool) : Binary32 := ofFields (Layout.binary32.infinity neg)

/-- IEEE equality: NaN equals nothing, and the two zeros are equal. -/
def ieeeEq (x y : Binary32) : Bool :=
  match x.classify, y.classify with
  | .nan, _ => false
  | _, .nan => false
  | .zero, .zero => true
  | _, _ => x.bits == y.bits

/-- The same value as a double; widening is exact, and a NaN becomes quiet. -/
def toBinary64 (x : Binary32) : Binary64 :=
  let f := x.fields
  let L := Layout.binary64
  match x.classify with
  | .nan => Binary64.ofFields ⟨f.neg, L.maxField, L.quietBit + f.frac * Nat.pow 2 29 % L.quietBit⟩
  | .infinite => Binary64.infinity f.neg
  | .zero => Binary64.ofFields ⟨f.neg, 0, 0⟩
  | .finite m e => Binary64.ofDyadic f.neg m e

end Binary32

end ObjectMapping.Float
