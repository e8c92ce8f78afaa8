import ObjectMapping.Float.Binary

/-!
# Shortest decimal of a float

Every finite nonzero float rounds from an interval of reals: the points closer to it than to
its neighbours, the ends included when its significand is even. `Layout.shortest` finds the
decimal with the fewest significant digits inside that interval, and of those the one nearest
to the value; when the value lies exactly halfway between two of them, the `Tie` rule picks
one. It tests the grids `10^q` for one significant digit, then two, and so on, in exact
natural-number arithmetic: a grid holds a decimal of the interval exactly when the interval's
ends, divided by `10^q`, have an integer between them.

The two decimals nearest the value on a grid are its truncation and the next one up, so the
nearest decimal of the interval is the rounding of the value to the grid, moved inside the
interval when it falls outside.

* `Decimal` is `digits · 10^exp` with no trailing zero in `digits`.
* `Decimal.pointPosition` is the place of the decimal point: `10^(k-1) ≤ value < 10^k`.
-/

namespace ObjectMapping.Float

/-- A positive decimal `digits · 10^exp`. -/
structure Decimal where
  digits : Nat
  exp : Int
  deriving DecidableEq, Repr

/-- Decimal digits of a natural number; zero has one. -/
def digitCount (n : Nat) : Nat :=
  if n < 10 then 1 else digitCount (n / 10) + 1
termination_by n
decreasing_by omega

/-- A decimal with the trailing zeros of its digits moved into the exponent. -/
def Decimal.normalize (digits : Nat) (exp : Int) : Decimal :=
  if digits ≠ 0 ∧ digits % 10 = 0 then Decimal.normalize (digits / 10) (exp + 1)
  else ⟨digits, exp⟩
termination_by digits
decreasing_by omega

namespace Decimal

/-- The digits as text. -/
def text (d : Decimal) : String := toString d.digits

/-- The place of the decimal point counted from the first digit: `10^(k-1) ≤ d < 10^k`. -/
def pointPosition (d : Decimal) : Int := (digitCount d.digits : Int) + d.exp

end Decimal

/-- Whether `10^t ≤ num / den`. -/
def pow10Le (t : Int) (num den : Nat) : Bool :=
  if 0 ≤ t then Nat.pow 10 t.toNat * den ≤ num else den ≤ num * Nat.pow 10 (-t).toNat

/-- `⌊log₁₀ (num / den)⌋` for positive `num` and `den`: the estimate from the digit counts is
exact or one too large. -/
def floorLog10 (num den : Nat) : Int :=
  let t : Int := (digitCount num : Int) - digitCount den
  if pow10Le t num den then t else t - 1

/-- `num / den` on the grid `10^q`, as a new ratio. -/
private def onGrid (q : Int) (num den : Nat) : Nat × Nat :=
  if 0 ≤ q then (num, den * Nat.pow 10 q.toNat) else (num * Nat.pow 10 (-q).toNat, den)

/-- The least integer at or above `num / den` (strictly above when `strict`). -/
private def ceilAbove (strict : Bool) (num den : Nat) : Nat :=
  if num % den = 0 then (if strict then num / den + 1 else num / den) else num / den + 1

/-- The greatest integer at or below `num / den` (strictly below when `strict`). -/
private def floorBelow (strict : Bool) (num den : Nat) : Int :=
  if num % den = 0 ∧ strict then (num / den : Int) - 1 else num / den

/-- Which of two decimals equally near the value is taken. -/
inductive Tie where
  /-- The one whose last digit is even. -/
  | even
  /-- The larger one. -/
  | up
  deriving DecidableEq, Repr, Inhabited

/-- The rounding interval of `m · 2^e`, scaled: the value, the lower end and the upper end
are the three numerators over one denominator, and `inclusive` says whether the ends belong. -/
structure Interval where
  value : Nat
  low : Nat
  high : Nat
  den : Nat
  inclusive : Bool

namespace Layout

/-- The rounding interval of the finite nonzero value `m · 2^e` of a layout. The gap below a
power of two is half the gap above it, except at the smallest normal exponent. -/
def interval (L : Layout) (m : Nat) (e : Int) : Interval :=
  let lowerCloser := m = L.hidden ∧ L.minExponent < e
  let low := if lowerCloser then 4 * m - 1 else 4 * m - 2
  let b := e - 2
  let scale := if 0 ≤ b then Nat.pow 2 b.toNat else 1
  { value := 4 * m * scale
    low := low * scale
    high := (4 * m + 2) * scale
    den := if 0 ≤ b then 1 else Nat.pow 2 (-b).toNat
    inclusive := m % 2 == 0 }

end Layout

/-- The decimal of grid `10^q` inside the interval and nearest to the value, if the grid has
one there; `tie` decides between two equally near. -/
def Interval.onGrid? (tie : Tie) (I : Interval) (q : Int) : Option Decimal :=
  let (ln, ld) := onGrid q I.low I.den
  let (hn, hd) := onGrid q I.high I.den
  let (vn, vd) := onGrid q I.value I.den
  let lowest := ceilAbove (!I.inclusive) ln ld
  let highest := floorBelow (!I.inclusive) hn hd
  if (lowest : Int) ≤ highest then
    let r := 2 * (vn % vd)
    let halfUp : Bool := match tie with
      | .even => (vn / vd) % 2 == 1
      | .up => true
    let near := if r > vd ∨ (r = vd ∧ halfUp = true) then vn / vd + 1 else vn / vd
    let c := if near < lowest then lowest else if (highest : Int) < near then highest.toNat else near
    some (Decimal.normalize c q)
  else none

/-- The first grid, from `count` significant digits on, that holds a decimal of the interval;
`fuel` bounds the number of grids tried. -/
def Interval.search (tie : Tie) (I : Interval) (top : Int) : Nat → Nat → Option Decimal
  | 0, _ => none
  | fuel + 1, count =>
    match I.onGrid? tie (top - count + 1) with
    | some d => some d
    | none => I.search tie top fuel (count + 1)

namespace Layout

/-- The shortest decimal inside the rounding interval of `m · 2^e`, nearest to it, a tie
decided by `tie`. Nineteen significant digits always suffice for both formats; the fallback is
never reached. -/
def shortest (tie : Tie) (L : Layout) (m : Nat) (e : Int) : Decimal :=
  let I := L.interval m e
  let top := floorLog10 I.value I.den
  (I.search tie top 20 1).getD (Decimal.normalize (I.value / I.den) 0)

end Layout

end ObjectMapping.Float
