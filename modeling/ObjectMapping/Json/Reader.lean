import ObjectMapping.Json.Error
import ObjectMapping.Float.Arith
import ObjectMapping.Float.Text

/-!
# Reading JSON text

A reader for JSON text that hands what it reads to a `Visitor`, which builds the result. The
reader fixes the grammar, the numbers and the errors:

* An integer is an unsigned number when it fits 64 bits, a signed one when it is negative and
  fits 64 bits, and a double otherwise; `-0` is the double `-0.0`.
* A number with a fraction or an exponent is a double, computed from its significand (the
  first 19 or 20 digits) and its decimal exponent by one multiplication or division by an exact
  power of ten (`powerOfTen`), so it can differ from the nearest double in the last bit. A
  magnitude that overflows is an error, one that underflows is zero.
* Strings may not hold control characters; `\u` escapes must pair surrogates.
* Arrays and objects nest at most 127 deep.
* An error is placed where reading stopped (`Cursor.fail`), or one byte past the character
  looked at (`Cursor.failAhead`); an error of the visitor is placed after the token it was
  given.

`readDocument` reads one value and allows only whitespace after it; `readObject` requires the
value to be an object and names anything else as an `Unexpected` token.
-/

namespace ObjectMapping.Json

open ObjectMapping.Float

/-- A number as the reader classifies it. -/
inductive Number where
  /-- A non-negative integer below `2^64`. -/
  | unsigned (n : Nat)
  /-- A negative integer of at least `-2^63`. -/
  | signed (n : Int)
  | float (x : Binary64)
  deriving DecidableEq, Repr

/-- What the reader hands over, one callback per token; a callback may refuse with a message.
Arrays and objects are handed over whole. -/
structure Visitor (α : Type) where
  null : Except String α
  bool : Bool → Except String α
  number : Number → Except String α
  string : String → Except String α
  array : List α → α
  object : List (String × α) → α

/-- The unread input and the place reached: the line from one, the column in bytes. -/
structure Cursor where
  rest : List Char
  line : Nat
  column : Nat

namespace Cursor

/-- The start of a text. -/
def start (s : String) : Cursor := ⟨s.toList, 1, 0⟩

/-- The next character. -/
def peek (c : Cursor) : Option Char := c.rest.head?

/-- Past the next character. -/
def bump (c : Cursor) : Cursor :=
  match c.rest with
  | [] => c
  | ch :: r => if ch = '\n' then ⟨r, c.line + 1, 0⟩ else ⟨r, c.line, c.column + ch.utf8Size⟩

/-- The place one byte further on (for a multi-byte character, its first byte). -/
def stepped (c : Cursor) : Cursor :=
  match c.rest with
  | [] => c
  | ch :: r => if ch = '\n' then ⟨r, c.line + 1, 0⟩ else ⟨r, c.line, c.column + 1⟩

/-- Past `n` ASCII characters. -/
def advance (c : Cursor) (n : Nat) : Cursor := ⟨c.rest.drop n, c.line, c.column + n⟩

/-- The place `n` bytes further on. -/
def advanceBytes (c : Cursor) (n : Nat) : Cursor := go c.rest c.line c.column n
where
  /-- Past `n` bytes of `rest`, from a line and a column. -/
  go : List Char → Nat → Nat → Nat → Cursor
    | [], line, column, _ => ⟨[], line, column⟩
    | ch :: r, line, column, n =>
      if n = 0 then ⟨ch :: r, line, column⟩
      else if ch.utf8Size ≤ n then
        if ch = '\n' then go r (line + 1) 0 (n - 1)
        else go r line (column + ch.utf8Size) (n - ch.utf8Size)
      else ⟨r, line, column + n⟩

/-- The end of the input. -/
def toEnd (c : Cursor) : Cursor := c.advanceBytes ((c.rest.map Char.utf8Size).foldr (· + ·) 0)

/-- An error at this place. -/
def fail (c : Cursor) (code : ErrorCode) : ReadError := ⟨code, c.line, c.column⟩

/-- An error one byte past this place. -/
def failAhead (c : Cursor) (code : ErrorCode) : ReadError := c.stepped.fail code

/-- Past spaces, tabs, carriage returns and newlines. -/
def skipWhitespace (c : Cursor) : Cursor :=
  match h : c.rest with
  | ch :: r =>
    if ch = ' ' ∨ ch = '\t' ∨ ch = '\r' then (⟨r, c.line, c.column + 1⟩ : Cursor).skipWhitespace
    else if ch = '\n' then (⟨r, c.line + 1, 0⟩ : Cursor).skipWhitespace
    else c
  | [] => c
termination_by c.rest.length
decreasing_by all_goals simp [h]

end Cursor

/-! ## Numbers -/

/-- The value of a decimal digit. -/
def digitValue (ch : Char) : Nat := ch.toNat - '0'.toNat

/-- The leading digits of a list of characters. -/
def leadingDigits (cs : List Char) : List Char := cs.takeWhile Char.isDigit

/-- Whether `acc * 10 + d` exceeds `bound`. -/
def overflows (acc d bound : Nat) : Bool :=
  acc ≥ bound / 10 && (acc > bound / 10 || d > bound % 10)

/-- The largest 64-bit unsigned integer. -/
def u64Max : Nat := Nat.pow 2 64 - 1

/-- The largest 32-bit signed integer. -/
def i32Max : Nat := Nat.pow 2 31 - 1

/-- `10^k` as a double, for `k ≤ 308`. -/
def powerOfTen (k : Nat) : Binary64 := Binary64.ofRatio false (Nat.pow 10 k) 1

/-- The double of a significand and a decimal exponent: the significand as a double, then one
multiplication or division by a power of ten; an exponent beyond the table divides by `1e308`
first. A product that overflows is an error. -/
def fromParts (positive : Bool) (significand : Nat) (exponent : Int) (c : Cursor) :
    Except ReadError Binary64 :=
  let rec go : Nat → Binary64 → Int → Except ReadError Binary64
    | 0, f, _ => .ok f
    | fuel + 1, f, e =>
      if e.natAbs ≤ 308 then
        if 0 ≤ e then
          let g := f.mul (powerOfTen e.natAbs)
          if g.isFinite then .ok g else .error (c.fail .numberOutOfRange)
        else .ok (f.div (powerOfTen e.natAbs))
      else if f.classify == .zero then .ok f
      else if 0 ≤ e then .error (c.fail .numberOutOfRange)
      else go fuel (f.div (powerOfTen 308)) (e + 308)
  (go 16 (Binary64.ofRatio false significand 1) exponent).map
    fun f => if positive then f else f.negate

/-- `a + b` and `a - b` held within 32 signed bits. -/
def saturate32 (n : Int) : Int := max (-Int.pow 2 31) (min (Int.pow 2 31 - 1) n)

/-- Past the exponent when it overflows 32 bits: an error for a positive exponent of a
nonzero significand, else zero. -/
def exponentOverflow (positive zeroSignificand positiveExp : Bool) (c : Cursor) :
    Except ReadError (Number × Cursor) :=
  if !zeroSignificand && positiveExp then .error (c.fail .numberOutOfRange)
  else
    let c := c.advance (leadingDigits c.rest).length
    .ok (.float (if positive then Binary64.zero else Binary64.zero.negate), c)

/-- Digits of an exponent, accumulated while they fit 32 signed bits. -/
def exponentDigits (positive zeroSignificand positiveExp : Bool) :
    List Char → Nat → Cursor → Except ReadError (Option Nat × Cursor)
  | [], acc, c => .ok (some acc, c)
  | d :: ds, acc, c =>
    let c := c.advance 1
    if overflows acc (digitValue d) i32Max then
      (exponentOverflow positive zeroSignificand positiveExp c).map fun (_, c) => (none, c)
    else exponentDigits positive zeroSignificand positiveExp ds (acc * 10 + digitValue d) c

/-- An exponent, at its `e`. -/
def readExponent (positive : Bool) (significand : Nat) (start : Int) (c : Cursor) :
    Except ReadError (Number × Cursor) :=
  let c := c.bump
  let (positiveExp, c) :=
    match c.peek with
    | some '+' => (true, c.bump)
    | some '-' => (false, c.bump)
    | _ => (true, c)
  match c.peek with
  | none => .error (c.fail .eofValue)
  | some d =>
    if d.isDigit then
      let c := c.advance 1
      match exponentDigits positive (significand == 0) positiveExp (leadingDigits c.rest)
          (digitValue d) c with
      | .error e => .error e
      | .ok (none, c) => .ok (.float (if positive then Binary64.zero else Binary64.zero.negate), c)
      | .ok (some e, c) =>
        let total := saturate32 (if positiveExp then start + e else start - e)
        (fromParts positive significand total c).map fun f => (.float f, c)
    else .error (c.failAhead .invalidNumber)

/-- Past the digits that no longer fit the significand, then an exponent or the end. -/
def afterSignificand (positive : Bool) (significand : Nat) (exponent : Int) (c : Cursor) :
    Except ReadError (Number × Cursor) :=
  match c.peek with
  | some 'e' | some 'E' => readExponent positive significand exponent c
  | _ => (fromParts positive significand exponent c).map fun f => (.float f, c)

/-- Fraction digits, accumulated while the significand fits 64 bits. -/
def fractionDigits (positive : Bool) :
    List Char → Nat → Int → Nat → Cursor → Except ReadError (Number × Cursor)
  | [], sig, exponent, count, c =>
    if count = 0 then
      match c.peek with
      | some _ => .error (c.failAhead .invalidNumber)
      | none => .error (c.failAhead .eofValue)
    else afterSignificand positive sig exponent c
  | d :: ds, sig, exponent, count, c =>
    if overflows sig (digitValue d) u64Max then
      afterSignificand positive sig exponent (c.advance (d :: ds).length)
    else fractionDigits positive ds (sig * 10 + digitValue d) (exponent - 1) (count + 1)
      (c.advance 1)

/-- A fraction, at its point. -/
def readFraction (positive : Bool) (significand : Nat) (exponent : Int) (c : Cursor) :
    Except ReadError (Number × Cursor) :=
  let c := c.bump
  fractionDigits positive (leadingDigits c.rest) significand exponent 0 c

/-- After the integer digits of a number: a fraction, an exponent, or the end. -/
def afterInteger (positive : Bool) (significand : Nat) (c : Cursor) : Except ReadError (Number × Cursor) :=
  match c.peek with
  | some '.' => readFraction positive significand 0 c
  | some 'e' | some 'E' => readExponent positive significand 0 c
  | _ =>
    if positive then .ok (.unsigned significand, c)
    else if 1 ≤ significand ∧ significand ≤ Nat.pow 2 63 then
      .ok (.signed (-(significand : Int)), c)
    else .ok (.float (Binary64.ofRatio true significand 1), c)

/-- Integer digits past the 64-bit significand: they only raise the exponent. -/
def longInteger (positive : Bool) (significand : Nat) (c : Cursor) : Except ReadError (Number × Cursor) :=
  let extra := (leadingDigits c.rest).length
  let c := c.advance extra
  match c.peek with
  | some '.' => readFraction positive significand extra c
  | some 'e' | some 'E' => readExponent positive significand extra c
  | _ => (fromParts positive significand extra c).map fun f => (.float f, c)

/-- Integer digits, accumulated while they fit 64 bits. -/
def integerDigits (positive : Bool) : List Char → Nat → Cursor → Except ReadError (Number × Cursor)
  | [], sig, c => afterInteger positive sig c
  | d :: ds, sig, c =>
    if overflows sig (digitValue d) u64Max then longInteger positive sig c
    else integerDigits positive ds (sig * 10 + digitValue d) (c.advance 1)

/-- A number, at its first digit (past the minus sign of a negative one). -/
def readNumber (positive : Bool) (c : Cursor) : Except ReadError (Number × Cursor) :=
  match c.peek with
  | none => .error (c.fail .eofValue)
  | some '0' =>
    let c := c.bump
    match c.peek with
    | some d => if d.isDigit then .error (c.failAhead .invalidNumber) else afterInteger positive 0 c
    | none => afterInteger positive 0 c
  | some d =>
    if d.isDigit then
      let c := c.advance 1
      integerDigits positive (leadingDigits c.rest) (digitValue d) c
    else .error (c.failAhead .invalidNumber)

/-! ## Strings -/

/-- The value of a hexadecimal digit. -/
def hexValue (ch : Char) : Option Nat :=
  if ch.isDigit then some (ch.toNat - '0'.toNat)
  else if 'a' ≤ ch ∧ ch ≤ 'f' then some (ch.toNat - 'a'.toNat + 10)
  else if 'A' ≤ ch ∧ ch ≤ 'F' then some (ch.toNat - 'A'.toNat + 10)
  else none

/-- Four hexadecimal digits, past the `\u`. -/
def readHex4 (c : Cursor) : Except ReadError (Nat × Cursor) :=
  if (c.rest.take 4).foldl (fun n ch => n + ch.utf8Size) 0 < 4 then .error (c.toEnd.fail .eofString)
  else
    match c.rest.take 4 |>.mapM hexValue with
    | some [a, b, d, e] => .ok (((a * 16 + b) * 16 + d) * 16 + e, c.advance 4)
    | _ => .error ((c.advanceBytes 4).fail .invalidEscape)

/-- The character of a `\u` escape, past the `\u`; a leading surrogate must be followed by
the escape of a trailing one. -/
def readUnicodeEscape (c : Cursor) : Except ReadError (Char × Cursor) := do
  let (n, c) ← readHex4 c
  if 0xDC00 ≤ n ∧ n ≤ 0xDFFF then throw (c.fail .loneLeadingSurrogate)
  if n < 0xD800 ∨ 0xDBFF < n then return (Char.ofNat n, c)
  match c.peek with
  | none => throw (c.fail .eofString)
  | some '\\' =>
    let c := c.bump
    match c.peek with
    | none => throw (c.fail .eofString)
    | some 'u' =>
      let (n2, c) ← readHex4 c.bump
      if n2 < 0xDC00 ∨ 0xDFFF < n2 then throw (c.fail .loneLeadingSurrogate)
      return (Char.ofNat ((n - 0xD800) * 0x400 + (n2 - 0xDC00) + 0x10000), c)
    | some _ => throw (c.stepped.fail .unexpectedEndOfHexEscape)
  | some _ => throw (c.stepped.fail .unexpectedEndOfHexEscape)

/-- The character of an escape, past the backslash. -/
def readEscape (c : Cursor) : Except ReadError (Char × Cursor) :=
  match c.peek with
  | none => .error (c.fail .eofString)
  | some ch =>
    let named : Option Char :=
      match ch with
      | '"' => some '"'
      | '\\' => some '\\'
      | '/' => some '/'
      | 'b' => some (Char.ofNat 8)
      | 'f' => some (Char.ofNat 12)
      | 'n' => some '\n'
      | 'r' => some '\r'
      | 't' => some '\t'
      | _ => none
    match named with
    | some e => .ok (e, c.bump)
    | none => if ch = 'u' then readUnicodeEscape c.bump else .error (c.stepped.fail .invalidEscape)

/-- The rest of a string, past its opening quote; `acc` holds the characters read, last
first. -/
def readStringBody : Nat → List Char → Cursor → Except ReadError (String × Cursor)
  | 0, _, c => .error (c.toEnd.fail .eofString)
  | fuel + 1, acc, c =>
    match c.peek with
    | none => .error (c.fail .eofString)
    | some '"' => .ok (String.ofList acc.reverse, c.bump)
    | some '\\' =>
      match readEscape c.bump with
      | .ok (ch, c) => readStringBody fuel (ch :: acc) c
      | .error e => .error e
    | some ch =>
      if ch.toNat < 0x20 then .error (c.stepped.fail .controlCharacter)
      else readStringBody fuel (ch :: acc) c.bump

/-- A string, past its opening quote. -/
def readString (c : Cursor) : Except ReadError (String × Cursor) :=
  readStringBody (c.rest.length + 1) [] c

/-- The letters of a literal after its first one. -/
def readIdent : List Char → Cursor → Except ReadError Cursor
  | [], c => .ok c
  | x :: xs, c =>
    match c.peek with
    | none => .error (c.fail .eofValue)
    | some ch => if ch = x then readIdent xs c.bump else .error (c.stepped.fail .expectedIdent)

/-! ## Values -/

/-- Arrays and objects may nest this deep, less one. -/
def depthLimit : Nat := 128

/-- A visitor's refusal, placed at the cursor. -/
def Visitor.accept {α : Type} (r : Except String α) (c : Cursor) : Except ReadError (α × Cursor) :=
  match r with
  | .ok a => .ok (a, c)
  | .error msg => .error (c.fail (.message msg))

/-- Where the next element of an array starts, at its first character `ch` (already looked
at): there for the first, past a comma for the others. -/
def itemStart (first : Bool) (ch : Char) (c : Cursor) : Except ReadError Cursor :=
  if first then .ok c
  else if ch = ',' then
    let c := c.bump.skipWhitespace
    match c.peek with
    | some ']' => .error (c.failAhead .trailingComma)
    | some _ => .ok c
    | none => .error (c.failAhead .eofValue)
  else .error (c.failAhead .expectedListCommaOrEnd)

/-- Where the key of the next entry of an object starts, at its first character `ch`: there
for the first, past a comma for the others; a key must be a string. -/
def entryStart (first : Bool) (ch : Char) (c : Cursor) : Except ReadError Cursor :=
  if first then
    if ch = '"' then .ok c else .error (c.failAhead .keyMustBeString)
  else if ch = ',' then
    let c := c.bump.skipWhitespace
    match c.peek with
    | some '"' => .ok c
    | some '}' => .error (c.failAhead .trailingComma)
    | some _ => .error (c.failAhead .keyMustBeString)
    | none => .error (c.failAhead .eofValue)
  else .error (c.failAhead .expectedObjectCommaOrEnd)

/-- The key of an entry, at its opening quote, and the colon after it. -/
def readKey (c : Cursor) : Except ReadError (String × Cursor) :=
  match readString c.bump with
  | .error e => .error e
  | .ok (key, c) =>
    let c := c.skipWhitespace
    match c.peek with
    | some ':' => .ok (key, c.bump)
    | some _ => .error (c.failAhead .expectedColon)
    | none => .error (c.failAhead .eofObject)

mutual

/-- A value, after whitespace. `depth` is the nesting still allowed. -/
def readValue {α : Type} (V : Visitor α) : Nat → Nat → Cursor → Except ReadError (α × Cursor)
  | 0, _, c => .error (c.fail .eofValue)
  | fuel + 1, depth, c =>
    let c := c.skipWhitespace
    match c.peek with
    | none => .error (c.failAhead .eofValue)
    | some 'n' => do let c ← readIdent "ull".toList c.bump; Visitor.accept V.null c
    | some 't' => do let c ← readIdent "rue".toList c.bump; Visitor.accept (V.bool true) c
    | some 'f' => do let c ← readIdent "alse".toList c.bump; Visitor.accept (V.bool false) c
    | some '-' => do let (n, c) ← readNumber false c.bump; Visitor.accept (V.number n) c
    | some '"' => do let (s, c) ← readString c.bump; Visitor.accept (V.string s) c
    | some '[' =>
      if depth ≤ 1 then .error (c.failAhead .recursionLimit)
      else do
        let (items, c) ← readElements V fuel (depth - 1) true [] c.bump
        return (V.array items, c.bump)
    | some '{' =>
      if depth ≤ 1 then .error (c.failAhead .recursionLimit)
      else do
        let (entries, c) ← readEntries V fuel (depth - 1) true [] c.bump
        return (V.object entries, c.bump)
    | some ch =>
      if ch.isDigit then do let (n, c) ← readNumber true c; Visitor.accept (V.number n) c
      else .error (c.failAhead .expectedValue)

/-- The elements of an array, up to its closing bracket (not consumed). -/
def readElements {α : Type} (V : Visitor α) :
    Nat → Nat → Bool → List α → Cursor → Except ReadError (List α × Cursor)
  | 0, _, _, _, c => .error (c.fail .eofList)
  | fuel + 1, depth, first, acc, c =>
    let c := c.skipWhitespace
    match c.peek with
    | none => .error (c.failAhead .eofList)
    | some ']' => .ok (acc.reverse, c)
    | some ch =>
      match itemStart first ch c with
      | .error e => .error e
      | .ok c =>
        match readValue V fuel depth c with
        | .error e => .error e
        | .ok (item, c) => readElements V fuel depth false (item :: acc) c

/-- The entries of an object, up to its closing brace (not consumed). -/
def readEntries {α : Type} (V : Visitor α) :
    Nat → Nat → Bool → List (String × α) → Cursor →
      Except ReadError (List (String × α) × Cursor)
  | 0, _, _, _, c => .error (c.fail .eofObject)
  | fuel + 1, depth, first, acc, c =>
    let c := c.skipWhitespace
    match c.peek with
    | none => .error (c.failAhead .eofObject)
    | some '}' => .ok (acc.reverse, c)
    | some ch =>
      match entryStart first ch c with
      | .error e => .error e
      | .ok c =>
        match readKey c with
        | .error e => .error e
        | .ok (key, c) =>
          match readValue V fuel depth c with
          | .error e => .error e
          | .ok (item, c) => readEntries V fuel depth false ((key, item) :: acc) c

end

/-- Enough steps for every text of this length. -/
def fuelFor (s : String) : Nat := 4 * s.length + 8

/-- After the value: only whitespace may follow. -/
def finish {α : Type} (r : Except ReadError (α × Cursor)) : Except ReadError α := do
  let (a, c) ← r
  let c := c.skipWhitespace
  match c.peek with
  | none => return a
  | some _ => throw (c.failAhead .trailingCharacters)

/-- One JSON value making up the whole text. -/
def readDocument {α : Type} (V : Visitor α) (s : String) : Except ReadError α :=
  finish (readValue V (fuelFor s) depthLimit (Cursor.start s))

/-- A token that was not what the reader wanted. -/
inductive Unexpected where
  | null
  | bool (b : Bool)
  | number (n : Number)
  | string (s : String)
  | sequence
  | map

/-- How an unexpected token is named in a message. -/
def Unexpected.text : Unexpected → String
  | .null => "null"
  | .bool b => "boolean `" ++ (if b then "true" else "false") ++ "`"
  | .number (.unsigned n) => "integer `" ++ toString n ++ "`"
  | .number (.signed n) => "integer `" ++ toString n ++ "`"
  | .number (.float x) => "floating point `" ++ x.render .json64 ++ "`"
  | .string s => "string " ++ Text.debugQuote s
  | .sequence => "sequence"
  | .map => "map"

/-- The message for a token of the wrong type. -/
def invalidType (found : Unexpected) (expected : String) : ErrorCode :=
  .message ("invalid type: " ++ found.text ++ ", expected " ++ expected)

/-- A value that must be an object: anything else is read as far as its first token and
refused, the refusal placed after that token (before it, for an array). -/
def readObjectValue {α : Type} (V : Visitor α) (expected : String) (fuel : Nat) (c : Cursor) :
    Except ReadError (α × Cursor) :=
  let c := c.skipWhitespace
  let refuse (found : Unexpected) (c : Cursor) : Except ReadError (α × Cursor) := .error (c.fail (invalidType found expected))
  match c.peek with
  | none => .error (c.failAhead .eofValue)
  | some '{' =>
    if depthLimit ≤ 1 then .error (c.failAhead .recursionLimit)
    else do
      let (entries, c) ← readEntries V fuel (depthLimit - 1) true [] c.bump
      return (V.object entries, c.bump)
  | some 'n' => do let c ← readIdent "ull".toList c.bump; refuse .null c
  | some 't' => do let c ← readIdent "rue".toList c.bump; refuse (.bool true) c
  | some 'f' => do let c ← readIdent "alse".toList c.bump; refuse (.bool false) c
  | some '-' => do let (n, c) ← readNumber false c.bump; refuse (.number n) c
  | some '"' => do let (s, c) ← readString c.bump; refuse (.string s) c
  | some '[' => refuse .sequence c
  | some ch =>
    if ch.isDigit then do let (n, c) ← readNumber true c; refuse (.number n) c
    else .error (c.failAhead .expectedValue)

/-- One JSON object making up the whole text. -/
def readObject {α : Type} (V : Visitor α) (expected : String) (s : String) :
    Except ReadError α :=
  finish (readObjectValue V expected (fuelFor s) (Cursor.start s))

end ObjectMapping.Json
