import ObjectMapping.Mapper.Write
import ObjectMapping.Json.Reader

/-!
# The JSON format

Compact JSON: no blanks, object members in property order, nested objects written by their
own mappers.

* Integers of every width are written in decimal, floats by the fewest digits that read back
  (`Notation.json32`, `Notation.json64`); a NaN or an infinity cannot be written and fails
  with `ShapeError.outOfRange` against `JSON`. Characters and strings are quoted with JSON
  escapes (`jsonQuote`).
* Reading turns JSON into values (`Value.visitor`): `null`, booleans, strings, arrays, maps
  (a repeated key keeps its first position and its last value), integers as `int` when they
  fit 32 bits and `long` otherwise (one above the 64-bit signed range is refused), and every
  other number as a double.
-/

namespace ObjectMapping

open ObjectMapping.Float ObjectMapping.Text ObjectMapping.Json

namespace Value

/-- A signed integer as a value: `int` when it fits 32 bits, else `long`. -/
def ofInteger (n : Int) : Value :=
  if IntType.i32.contains n then .int (Int32.ofInt n) else .long (Int64.ofInt n)

/-- Builds values from what the JSON reader hands over. -/
def visitor : Visitor Value where
  null := pure .null
  bool b := pure (.bool b)
  number
    | .unsigned n =>
      if n ≤ Nat.pow 2 63 - 1 then pure (ofInteger n)
      else throw ("integer " ++ toString n ++ " is out of range for `i64`")
    | .signed n => pure (ofInteger n)
    | .float x => pure (.double x)
  string s := pure (.string s)
  array items := .array items
  object entries := .map (ValueMap.ofList entries)

end Value

namespace JsonFormat

/-- Reads a value from JSON text. -/
def read (s : String) : Except MapError Value :=
  match readDocument Value.visitor s with
  | .ok v => pure v
  | .error e => throw (.json e)

/-- Reads a value map from JSON text, which must hold an object. -/
def readMap (s : String) : Except ReadError ValueMap :=
  match readObject Value.visitor "any mappable value" s with
  | .ok (.map m) => pure m
  | .ok other => throw ⟨.message ("expected map, found " ++ other.kind.name), 0, 0⟩
  | .error e => throw e

mutual

/-- The pieces of a value's JSON text. -/
def pieces : Value → List (Piece String)
  | .null => [.emit (· ++ "null")]
  | .bool b => [.emit (· ++ if b then "true" else "false")]
  | .byte n => [.emit (· ++ toString n.toInt)]
  | .short n => [.emit (· ++ toString n.toInt)]
  | .int n => [.emit (· ++ toString n.toInt)]
  | .long n => [.emit (· ++ toString n.toInt)]
  | .float x =>
    if x.isFinite then [.emit (· ++ x.render .json32)]
    else [.fail (.shape (.outOfRange (x.render .plain) "JSON"))]
  | .double x =>
    if x.isFinite then [.emit (· ++ x.render .json64)]
    else [.fail (.shape (.outOfRange (x.render .plain) "JSON"))]
  | .char c => [.emit (· ++ jsonQuote (String.singleton c))]
  | .string s => [.emit (· ++ jsonQuote s)]
  | .array items => .emit (· ++ "[") :: itemPieces true items ++ [.emit (· ++ "]")]
  | .map (.ofEntries es) => .emit (· ++ "\x7b") :: entryPieces true es ++ [.emit (· ++ "\x7d")]
  | .object r => [.nested r]

def itemPieces : Bool → List Value → List (Piece String)
  | _, [] => []
  | first, v :: vs =>
    (if first then [] else [.emit (· ++ ",")]) ++ pieces v ++ itemPieces false vs

def entryPieces : Bool → List (String × Value) → List (Piece String)
  | _, [] => []
  | first, (k, v) :: rest =>
    (if first then [] else [.emit (· ++ ",")]) ++ [.emit (· ++ jsonQuote k ++ ":")] ++ pieces v ++
      entryPieces false rest

end

/-- The JSON format. -/
def format : Format String where
  writeValue name _ v _ :=
    (match name with
      | some n => [.emit (· ++ jsonQuote n ++ ":")]
      | none => []) ++ pieces v
  writeBeginObject := FormatCall.append (· ++ "\x7b")
  writeSeparator _ last := FormatCall.append fun out => if last then out else out ++ ","
  writeEndObject := FormatCall.append (· ++ "\x7d")

end JsonFormat

end ObjectMapping
