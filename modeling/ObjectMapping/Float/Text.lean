import ObjectMapping.Float.Shortest

/-!
# Writing floats

A float is written from its shortest decimal (`Layout.shortest`). A `Notation` decides the
rest: for which positions of the decimal point the number is written out positionally, whether
a positive exponent carries `+`, whether a whole number keeps a fractional `.0`, and which of
two equally near shortest decimals is written (`Tie`).

* `Notation.json64` and `Notation.json32`: the JSON writer's notation for doubles and singles
  (`1e+16`, `1e-7`, `100.0`); a tie goes to the even last digit.
* `Notation.plain`: never an exponent, no `.0` (`100`, `0.0000001`), the usual text of a float
  in a message; a tie goes up (`562949953421312.25` is `562949953421312.3`).
* `Notation.debug`: an exponent below `1e-4` and from `1e16` on, `.0` kept (`1e-7`, `100.0`),
  the text of a float inside a debug view; a tie goes up as in `Notation.plain`.

Whatever the notation, NaN is `NaN` and the infinities are `inf` and `-inf`.
-/

namespace ObjectMapping.Float

/-- How a finite float is written. -/
structure Notation where
  /-- `some (lo, hi)`: positional exactly when the point position `k` has `lo < k ≤ hi`;
  `none`: always positional. -/
  positional : Option (Int × Int)
  /-- A positive exponent is written with `+`. -/
  plusExponent : Bool
  /-- A whole number written positionally ends in `.0`. -/
  pointZero : Bool
  /-- Which of two equally near shortest decimals is written. -/
  tie : Tie

namespace Notation

/-- The JSON writer's notation for doubles. -/
def json64 : Notation := ⟨some (-5, 16), true, true, .even⟩

/-- The JSON writer's notation for singles. -/
def json32 : Notation := ⟨some (-6, 13), true, true, .even⟩

/-- Plain positional text. -/
def plain : Notation := ⟨none, false, false, .up⟩

/-- The text of a float inside a debug view. -/
def debug : Notation := ⟨some (-4, 16), false, true, .up⟩

/-- `n` zeros. -/
def zeros (n : Nat) : String := String.ofList (List.replicate n '0')

/-- A decimal written in this notation, after the sign. -/
def body (N : Notation) (d : Decimal) : String :=
  let cs := d.text.toList
  let k := d.pointPosition
  let positional := match N.positional with
    | none => true
    | some (lo, hi) => lo < k ∧ k ≤ hi
  if positional then
    if 0 ≤ d.exp then d.text ++ zeros d.exp.toNat ++ (if N.pointZero then ".0" else "")
    else if 0 < k then
      String.ofList (cs.take k.toNat) ++ "." ++ String.ofList (cs.drop k.toNat)
    else "0." ++ zeros (-k).toNat ++ d.text
  else
    let mantissa :=
      if cs.length ≤ 1 then d.text
      else String.ofList (cs.take 1) ++ "." ++ String.ofList (cs.drop 1)
    let sign := if k - 1 < 0 then "-" else if N.plusExponent then "+" else ""
    mantissa ++ "e" ++ sign ++ toString (k - 1).natAbs

/-- A value of a layout written in this notation. -/
def render (N : Notation) (L : Layout) (f : Fields) : String :=
  match L.classify f with
  | .nan => "NaN"
  | .infinite => if f.neg then "-inf" else "inf"
  | .zero => (if f.neg then "-" else "") ++ N.body ⟨0, 0⟩
  | .finite m e => (if f.neg then "-" else "") ++ N.body (L.shortest N.tie m e)

end Notation

/-- A double in a notation. -/
def Binary64.render (N : Notation) (x : Binary64) : String := N.render .binary64 x.fields

/-- A single in a notation. -/
def Binary32.render (N : Notation) (x : Binary32) : String := N.render .binary32 x.fields

end ObjectMapping.Float
