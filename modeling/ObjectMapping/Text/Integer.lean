/-!
# Integers as decimal text

`parseInteger?` reads the standard text of an integer: an optional `+` (or `-`, for a signed
type), then one or more ASCII digits and nothing else. The range of the target type is the
caller's to check.
-/

namespace ObjectMapping.Text

/-- The value of decimal digits. -/
def digitsValue (ds : List Char) : Nat :=
  ds.foldl (fun acc c => acc * 10 + (c.toNat - '0'.toNat)) 0

/-- Reads an integer; a minus sign only for a signed type. -/
def parseInteger? (signed : Bool) (s : String) : Option Int :=
  let (neg, ds) :=
    match s.toList with
    | '+' :: rest => (false, rest)
    | '-' :: rest => if signed then (true, rest) else (false, '-' :: rest)
    | rest => (false, rest)
  if ds.isEmpty || !ds.all Char.isDigit then none
  else
    let n : Int := digitsValue ds
    some (if neg then -n else n)

end ObjectMapping.Text
