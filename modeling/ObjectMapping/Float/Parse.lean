import ObjectMapping.Float.Shortest
import ObjectMapping.Text.Integer

/-!
# Reading decimal text as a double

`Binary64.parse?` reads the standard decimal text of a number and rounds it to the nearest
double, ties to even. The text is an optional sign, then either `inf`, `infinity` or `nan` in
any case, or digits with an optional point and an optional exponent (`e` or `E`, an optional
sign, digits). The digits before and after the point may not both be empty; nothing else may
stand around the number, not even a blank.

Rounding is exact: the decimal is the ratio `digits · 10^exp` and `Binary64.ofRatio` rounds it
once. Exponents far outside the range of doubles are settled before any power is formed.
-/

namespace ObjectMapping.Float

open ObjectMapping.Text

/-- The text in lower case, for the ASCII letters. -/
private def lowerAscii (cs : List Char) : List Char :=
  cs.map fun c => if 'A' ≤ c ∧ c ≤ 'Z' then Char.ofNat (c.toNat + 32) else c

/-- The digits, point and exponent of a decimal: `(whole, fraction, exponent)`. -/
def splitDecimal? (cs : List Char) : Option (List Char × List Char × Int) :=
  let whole := cs.takeWhile Char.isDigit
  let afterWhole := cs.dropWhile Char.isDigit
  let (fraction, afterFraction) :=
    match afterWhole with
    | '.' :: rest => (rest.takeWhile Char.isDigit, rest.dropWhile Char.isDigit)
    | rest => ([], rest)
  if whole.isEmpty && fraction.isEmpty then none
  else
    match afterFraction with
    | [] => some (whole, fraction, 0)
    | c :: rest =>
      if c == 'e' || c == 'E' then
        let (negExp, ds) :=
          match rest with
          | '-' :: ds => (true, ds)
          | '+' :: ds => (false, ds)
          | ds => (false, ds)
        if ds.isEmpty || !ds.all Char.isDigit then none
        else
          let e : Int := digitsValue ds
          some (whole, fraction, if negExp then -e else e)
      else none

/-- The double nearest to `± digits · 10^exp`. -/
def Binary64.ofDecimal (neg : Bool) (digits : Nat) (exp : Int) : Binary64 :=
  if digits = 0 then (if neg then Binary64.zero.negate else Binary64.zero)
  else
    let magnitude := (digitCount digits : Int) + exp
    -- above 10^310 every double is passed; below 10^-330 the value rounds to zero
    if magnitude > 310 then Binary64.infinity neg
    else if magnitude < -330 then (if neg then Binary64.zero.negate else Binary64.zero)
    else if 0 ≤ exp then Binary64.ofRatio neg (digits * Nat.pow 10 exp.toNat) 1
    else Binary64.ofRatio neg digits (Nat.pow 10 (-exp).toNat)

/-- Reads a double from its decimal text, or the infinity and NaN words. -/
def Binary64.parse? (s : String) : Option Binary64 :=
  let cs := s.toList
  let (neg, body) :=
    match cs with
    | '-' :: rest => (true, rest)
    | '+' :: rest => (false, rest)
    | rest => (false, rest)
  let word := lowerAscii body
  if word == "inf".toList || word == "infinity".toList then some (Binary64.infinity neg)
  else if word == "nan".toList then some (if neg then Binary64.nan.negate else Binary64.nan)
  else
    (splitDecimal? body).map fun (whole, fraction, e) =>
      Binary64.ofDecimal neg (digitsValue (whole ++ fraction)) (e - fraction.length)

end ObjectMapping.Float
