import ObjectMapping.Catalogue.Types
import ObjectMapping.Adapter
import ObjectMapping.Float.Parse
import ObjectMapping.Float.Arith

/-!
# The catalogue of adapters

The adapters the service offers, by their short names:

| name | input → output | adapt | restore |
|---|---|---|---|
| `c2k` | Celsius → f64 | add 273.15 | subtract 273.15 |
| `k2t` | f64 → String | the shortest decimal and `K` | drop one `K` and read a double |
| `t2k` | String → f64 | the restore of `k2t` | the adapt of `k2t` |
| `big` | u64 → String | decimal | read a `u64` |
| `range` | Range → Point | `(a, b)` as `x`, `y` | refuses `x > y` |
| `code` | Code → i32 | refuses a negative code | refuses a code above 1000 |
| `i2t` | i32 → String | `#` and decimal | drop one `#` and read an `i32` |
| `p2p` | Point → [i32; 2] | `[x, y]` | `Point { x, y }` |
-/

namespace ObjectMapping.Catalogue

open ObjectMapping.Float ObjectMapping.Text

/-- The error of data of the wrong shape, which the types of an adapter rule out. -/
def shapeless (t : Ty) : MapError := .shape (.wrongType t.typeName)

/-- 273.15, the freezing point of water in kelvin. -/
def freezing : Binary64 := Binary64.ofRatio false 27315 100

/-- A double as kelvin text. -/
def kelvinText : Datum → Except MapError Datum
  | .f64 k => pure (.string (k.render .plain ++ "K"))
  | _ => throw (shapeless .f64)

/-- Kelvin text as a double. -/
def kelvinOfText : Datum → Except MapError Datum
  | .string s =>
    let bad : MapError := .custom ("bad kelvin `" ++ s ++ "`")
    match s.toList.getLast? with
    | some 'K' =>
      match Binary64.parse? (String.ofList s.toList.dropLast) with
      | some k => pure (.f64 k)
      | none => throw bad
    | _ => throw bad
  | _ => throw (shapeless .string)

def celsiusToKelvin : Adapter where
  name := "driver::CelsiusToKelvin"
  input := celsius
  output := .f64
  adapt
    | .f64 c => pure (.f64 (c.add freezing))
    | _ => throw (shapeless celsius)
  restore
    | .f64 k => pure (.f64 (k.sub freezing))
    | _ => throw (shapeless .f64)

def kelvinToText : Adapter where
  name := "driver::KelvinToText"
  input := .f64
  output := .string
  adapt := kelvinText
  restore := kelvinOfText

def textToKelvin : Adapter where
  name := "driver::TextToKelvin"
  input := .string
  output := .f64
  adapt := kelvinOfText
  restore := kelvinText

def bigToText : Adapter where
  name := "driver::BigToText"
  input := u64
  output := .string
  adapt
    | .int n => pure (.string (toString n))
    | _ => throw (shapeless u64)
  restore
    | .string s =>
      match parseInteger? false s with
      | some n => if IntType.u64.contains n then pure (.int n) else throw (.custom ("`" ++ s ++ "` is not a u64"))
      | none => throw (.custom ("`" ++ s ++ "` is not a u64"))
    | _ => throw (shapeless .string)

def rangeToPoint : Adapter where
  name := "driver::RangeToPoint"
  input := range
  output := point
  adapt
    | .record [a, b] => pure (.record [a, b])
    | _ => throw (shapeless range)
  restore
    | .record [.int x, .int y] =>
      if x > y then throw (.custom ("empty range " ++ toString x ++ ".." ++ toString y))
      else pure (.record [.int x, .int y])
    | _ => throw (shapeless point)

def codeToInt : Adapter where
  name := "driver::CodeToInt"
  input := code
  output := i32
  adapt
    | .int n => if n < 0 then throw (.custom ("negative code " ++ toString n)) else pure (.int n)
    | _ => throw (shapeless code)
  restore
    | .int n => if n > 1000 then throw (.custom ("code " ++ toString n ++ " too large")) else pure (.int n)
    | _ => throw (shapeless i32)

def intToText : Adapter where
  name := "driver::IntToText"
  input := i32
  output := .string
  adapt
    | .int n => pure (.string ("#" ++ toString n))
    | _ => throw (shapeless i32)
  restore
    | .string s =>
      let bad : MapError := .custom ("`" ++ s ++ "` is not an int")
      match s.toList with
      | '#' :: rest =>
        match parseInteger? true (String.ofList rest) with
        | some n => if IntType.i32.contains n then pure (.int n) else throw bad
        | none => throw bad
      | _ => throw bad
    | _ => throw (shapeless .string)

def pointToPair : Adapter where
  name := "driver::PointToPair"
  input := point
  output := .array i32 2
  adapt
    | .record [x, y] => pure (.list [x, y])
    | _ => throw (shapeless point)
  restore
    | .list [x, y] => pure (.record [x, y])
    | _ => throw (shapeless (.array i32 2))

/-- An adapter by its short name. -/
def adapter? : String → Option Adapter
  | "c2k" => some celsiusToKelvin
  | "k2t" => some kelvinToText
  | "t2k" => some textToKelvin
  | "big" => some bigToText
  | "range" => some rangeToPoint
  | "code" => some codeToInt
  | "i2t" => some intToText
  | "p2p" => some pointToPair
  | _ => none

end ObjectMapping.Catalogue
