import ObjectMapping.Float.Binary

/-!
# Double-precision arithmetic

Sums, differences, products and quotients of doubles, computed exactly on the dyadic values and
rounded once, as IEEE 754 prescribes for round-to-nearest. Infinities and NaNs follow the
standard; a NaN operand is returned quiet (the first one when both are NaN), and an invalid
operation gives `Binary64.defaultNaN`.

* `Binary64.add`: an exact zero sum is negative only when both operands are negative zeros.
* `Binary64.mul` and `Binary64.div`: the sign is the exclusive or of the operands' signs.
-/

namespace ObjectMapping.Float

namespace Binary64

/-- The finite value as a signed integer multiple of `2^e`; zero is `0 · 2^0`. -/
private def scaled (x : Binary64) : Int × Int :=
  match x.classify with
  | .finite m e => (if x.neg then -(m : Int) else m, e)
  | _ => (0, 0)

/-- IEEE sum. -/
def add (x y : Binary64) : Binary64 :=
  match x.classify, y.classify with
  | .nan, _ => x.quiet
  | _, .nan => y.quiet
  | .infinite, .infinite => if x.neg == y.neg then x else defaultNaN
  | .infinite, _ => x
  | _, .infinite => y
  | _, _ =>
    let (a, ea) := x.scaled
    let (b, eb) := y.scaled
    let e := min ea eb
    let s := a * Int.pow 2 (ea - e).toNat + b * Int.pow 2 (eb - e).toNat
    if s = 0 then ofFields ⟨x.neg && y.neg, 0, 0⟩ else ofDyadic (s < 0) s.natAbs e

/-- IEEE difference. -/
def sub (x y : Binary64) : Binary64 := x.add y.negate

/-- IEEE product. -/
def mul (x y : Binary64) : Binary64 :=
  let neg := x.neg != y.neg
  match x.classify, y.classify with
  | .nan, _ => x.quiet
  | _, .nan => y.quiet
  | .infinite, .zero => defaultNaN
  | .zero, .infinite => defaultNaN
  | .infinite, _ => infinity neg
  | _, .infinite => infinity neg
  | .zero, _ => ofFields ⟨neg, 0, 0⟩
  | _, .zero => ofFields ⟨neg, 0, 0⟩
  | .finite m e, .finite n f => ofDyadic neg (m * n) (e + f)

/-- IEEE quotient. -/
def div (x y : Binary64) : Binary64 :=
  let neg := x.neg != y.neg
  match x.classify, y.classify with
  | .nan, _ => x.quiet
  | _, .nan => y.quiet
  | .infinite, .infinite => defaultNaN
  | .infinite, _ => infinity neg
  | _, .infinite => ofFields ⟨neg, 0, 0⟩
  | .zero, .zero => defaultNaN
  | .zero, _ => ofFields ⟨neg, 0, 0⟩
  | _, .zero => infinity neg
  | .finite m e, .finite n f =>
    let d := e - f
    if 0 ≤ d then ofRatio neg (m * Nat.pow 2 d.toNat) n
    else ofRatio neg m (n * Nat.pow 2 (-d).toNat)

end Binary64

end ObjectMapping.Float
