import ObjectMapping.Toml.Syntax
import ObjectMapping.Toml.Datetime
import ObjectMapping.Float.Parse

/-!
# Decoding TOML keys, strings and bare values

The second reading of what `Toml.readStatements` found: the text of a key or a value turned into
what it means, or the first problem with it.

* Strings: a basic string takes escapes (`\n`, `\"`, `\uXXXX`, …); a literal string is taken as
  it is; the multi-line forms drop a line break right after the opening quotes, and a basic one
  drops a backslash at the end of a line together with the blank space after it. No control
  character but tab is allowed, and none but tab and line breaks in a multi-line string, where
  a carriage return must be followed by a line feed. The delimiters are checked before the
  body. A bad run of characters in a basic string is one problem; in a literal string the
  first bad character is the problem, at its place.
* Bare keys hold ASCII letters, digits, `-` and `_`, at least one. A key written as a
  multi-line string is a problem.
* Bare values are read by their first character: a sign or a digit starts a number or a date,
  `t`/`f` a boolean, `i`/`n` the floats `inf` and `nan`. Numbers are decimal integers, `0x`,
  `0o` and `0b` integers with no sign, and floats with a fraction, an exponent or both; the
  prefix `0d` is refused as redundant. An underscore stands only between two digits, and a
  decimal number has no leading zero. An integer must fit in 64 bits and a float must not
  overflow to infinity. A value with a space in it that does not begin like a date, and
  anything else, is a string without quotes, which TOML does not allow; when it ends in
  quotes, its opening quotes are missing.

Places in problems are places in the whole text: the decoders are given a value's text and the
place where it starts.
-/

namespace ObjectMapping.Toml

/-- The kind of a bare value. -/
inductive Scalar where
  | integer
  | float
  | boolean
  | datetime
  deriving DecidableEq, Repr, Inhabited

/-- The characters of a span of the text. -/
def spanText (src : Array Char) (span : Span) : List Char :=
  ((List.range (span.stop - span.start)).map (span.start + ·)).map (src.getD · ' ')

/-- A problem about the characters from `s` to `e` of a text that starts at `base`. -/
def problemAt (base : Nat) (description : String) (expected : Option (List Expectation))
    (s e : Nat) : Problem :=
  ⟨description, expected, ⟨base + s, base + e⟩⟩

/-! ## Strings -/

/-- Whether a character is a space or a tab. -/
def isBlank (c : Char) : Bool := c == ' ' || c == '\t'

/-- Whether a character stands for itself in a basic string: a blank, `!`, any visible ASCII
character but `"` and the backslash, and anything beyond ASCII. -/
def isBasicChar (c : Char) : Bool :=
  c == '\t' || c == ' ' || c == '!' || (0x23 ≤ c.toNat && c.toNat ≤ 0x5b) ||
    (0x5d ≤ c.toNat && c.toNat ≤ 0x7e) || 0x80 ≤ c.toNat

/-- Whether a character stands for itself in a multi-line basic string: as in a basic string,
and also `"` and a line feed. -/
def isMultilineBasicChar (c : Char) : Bool := isBasicChar c || c == '"' || c == '\n'

/-- Whether a character may stand in a literal string: tab, any visible ASCII character but
`'`, and anything beyond ASCII. -/
def isLiteralChar (c : Char) : Bool :=
  c == '\t' || (0x20 ≤ c.toNat && c.toNat ≤ 0x26) || (0x28 ≤ c.toNat && c.toNat ≤ 0x7e) ||
    0x80 ≤ c.toNat

/-- Whether a character may stand in a multi-line literal string: as in a literal string, and
also `'` and a line feed. -/
def isMultilineLiteralChar (c : Char) : Bool := isLiteralChar c || c == '\'' || c == '\n'

/-- The value of a hexadecimal digit. -/
def hexDigitValue? (c : Char) : Option Nat :=
  if '0' ≤ c ∧ c ≤ '9' then some (c.toNat - '0'.toNat)
  else if 'a' ≤ c ∧ c ≤ 'f' then some (c.toNat - 'a'.toNat + 10)
  else if 'A' ≤ c ∧ c ≤ 'F' then some (c.toNat - 'A'.toNat + 10)
  else none

/-- The escapes a backslash may begin, as a problem lists them. -/
def escapeLetters : List Expectation :=
  ["b", "e", "f", "n", "r", "\\", "\"", "x", "u", "U"].map .literal

/-- The problem with a carriage return whose line feed is missing, at the place after it. -/
def bareCarriageReturn (base p : Nat) : Problem :=
  problemAt base "carriage return must be followed by newline" (some [.literal "\n"]) p p

/-- The character of `n` hexadecimal digits at offset `p` of a string starting at `base`, and
the text after them. Too few digits is a problem where the next one is missing; digits that
name no character, a problem where they start. -/
def hexEscape (base p n : Nat) (cs : List Char) : Except Problem (Char × List Char) := do
  let ds := (cs.takeWhile fun c => (hexDigitValue? c).isSome).take n
  let hexValue : List Expectation := [.description "unicode hexadecimal value"]
  if ds.length != n then
    throw (problemAt base "too few unicode value digits" (some hexValue)
      (p + ds.length) (p + ds.length))
  let v := ds.foldl (fun acc c => 16 * acc + (hexDigitValue? c).getD 0) 0
  if h : v.isValidChar then pure (Char.ofNatAux v h, cs.drop n)
  else throw (problemAt base "invalid value" (some hexValue) p p)

/-- The character of the escape after a backslash at offset `p`, and the text after it. -/
def escape (base p : Nat) : List Char → Except Problem (Char × List Char)
  | 'b' :: rest => pure ('\x08', rest)
  | 'e' :: rest => pure ('\x1b', rest)
  | 'f' :: rest => pure ('\x0c', rest)
  | 'n' :: rest => pure ('\n', rest)
  | 'r' :: rest => pure ('\r', rest)
  | 't' :: rest => pure ('\t', rest)
  | '"' :: rest => pure ('"', rest)
  | '\\' :: rest => pure ('\\', rest)
  | 'u' :: rest => hexEscape base (p + 2) 4 rest
  | 'U' :: rest => hexEscape base (p + 2) 8 rest
  | 'x' :: rest => hexEscape base (p + 2) 2 rest
  | _ => throw (problemAt base "missing escaped value" (some escapeLetters) (p + 1) (p + 1))

/-- A string's body between its delimiters, and the offset where it starts. The opening
delimiter is checked first and the closing one next, each a problem `invalid` expecting the
delimiter; a multi-line string drops a line break right after its opening delimiter. -/
def stripDelimiters (invalid : String) (delimiter : List Char) (multiline : Bool) (base : Nat)
    (raw : List Char) : Except Problem (Nat × List Char) := do
  let closing : Option (List Expectation) := some [.literal (String.ofList delimiter)]
  if raw.take delimiter.length != delimiter then
    throw (problemAt base invalid closing 0 0)
  let inner := raw.drop delimiter.length
  let (start, inner) :=
    if multiline then
      match inner with
      | '\n' :: rest => (delimiter.length + 1, rest)
      | '\r' :: '\n' :: rest => (delimiter.length + 2, rest)
      | _ => (delimiter.length, inner)
    else (delimiter.length, inner)
  if inner.length < delimiter.length ||
      inner.drop (inner.length - delimiter.length) != delimiter then
    throw (problemAt base invalid closing raw.length raw.length)
  pure (start, inner.take (inner.length - delimiter.length))

/-- The characters of a basic string's body from offset `p`: escapes are decoded, and a run of
characters that may not stand in it is a problem. -/
def basicBody (base : Nat) : Nat → Nat → List Char → List Char → Except Problem (List Char)
  | 0, _, _, acc => pure acc.reverse
  | _, _, [], acc => pure acc.reverse
  | fuel + 1, p, c :: rest, acc =>
    if c == '\\' then do
      let (ch, after) ← escape base p rest
      basicBody base fuel (p + 1 + (rest.length - after.length)) after (ch :: acc)
    else if isBasicChar c then basicBody base fuel (p + 1) rest (c :: acc)
    else
      let run := (c :: rest).takeWhile fun d => !isBasicChar d && d != '\\'
      throw (problemAt base "invalid basic string"
        (some [.description "non-double-quote visible characters", .literal "\\"])
        p (p + run.length))

/-- The blanks and line breaks after the line break of a line-ending backslash, from offset
`p`: the offset after them and the text that follows. A carriage return among them must be
followed by a line feed. -/
def skipContinuation (base : Nat) : Nat → Nat → List Char → Except Problem (Nat × List Char)
  | 0, p, cs => pure (p, cs)
  | fuel + 1, p, cs =>
    let blank := cs.takeWhile fun d => isBlank d || d == '\n'
    let p := p + blank.length
    match cs.drop blank.length with
    | '\r' :: '\n' :: rest => skipContinuation base fuel (p + 2) rest
    | '\r' :: _ => throw (bareCarriageReturn base (p + 1))
    | rest => pure (p, rest)

/-- A backslash at offset `p` of a multi-line basic string followed by blank space: blanks, a
line break, and then all blanks and line breaks are dropped, giving the offset after them and
the text that follows. Anything but a line break after the first blanks is a problem. -/
def lineContinuation (base p : Nat) (rest : List Char) : Except Problem (Nat × List Char) :=
  let blank := rest.takeWhile isBlank
  let q := p + 1 + blank.length
  match rest.drop blank.length with
  | '\n' :: more => skipContinuation base (more.length + 1) (q + 1) more
  | '\r' :: '\n' :: more => skipContinuation base (more.length + 1) (q + 2) more
  | '\r' :: _ => throw (bareCarriageReturn base (q + 1))
  | _ => throw (problemAt base "invalid multi-line basic string" (some [.literal "\n"]) q q)

/-- The characters of a multi-line basic string's body from offset `p`: escapes are decoded, a
backslash before blank space ends a line without a line break, a carriage return must be
followed by a line feed, and a run of characters that may not stand in it is a problem. -/
def multilineBasicBody (base : Nat) : Nat → Nat → List Char → List Char →
    Except Problem (List Char)
  | 0, _, _, acc => pure acc.reverse
  | _, _, [], acc => pure acc.reverse
  | fuel + 1, p, c :: rest, acc =>
    if c == '\\' then
      if (rest.head?.map fun d => isBlank d || d == '\r' || d == '\n').getD false then do
        let (q, after) ← lineContinuation base p rest
        multilineBasicBody base fuel q after acc
      else do
        let (ch, after) ← escape base p rest
        multilineBasicBody base fuel (p + 1 + (rest.length - after.length)) after (ch :: acc)
    else if c == '\r' then
      match rest with
      | '\n' :: more => multilineBasicBody base fuel (p + 2) more ('\n' :: '\r' :: acc)
      | _ => throw (bareCarriageReturn base (p + 1))
    else if isMultilineBasicChar c then multilineBasicBody base fuel (p + 1) rest (c :: acc)
    else
      let run := (c :: rest).takeWhile fun d =>
        !isMultilineBasicChar d && d != '\\' && d != '\r'
      throw (problemAt base "invalid multi-line basic string"
        (some [.literal "\\", .description "characters"]) p (p + run.length))

/-- Checks a literal string's body from offset `p`: the first character that may not stand in
it is a problem at its place. -/
def literalBody (base p : Nat) (cs : List Char) : Except Problem Unit :=
  match ((List.range cs.length).zip cs).find? (fun (_, c) => !isLiteralChar c) with
  | some (i, _) =>
    throw (problemAt base "invalid literal string"
      (some [.description "non-single-quote visible characters"]) (p + i) (p + i))
  | none => pure ()

/-- Checks a multi-line literal string's body from offset `p`: a carriage return must be
followed by a line feed, and a character that may not stand in it is a problem at its place. -/
def multilineLiteralBody (base : Nat) : Nat → List Char → Except Problem Unit
  | _, [] => pure ()
  | p, c :: rest =>
    if c == '\r' then
      if rest.head? == some '\n' then multilineLiteralBody base (p + 1) rest
      else throw (bareCarriageReturn base (p + 1))
    else if isMultilineLiteralChar c then multilineLiteralBody base (p + 1) rest
    else
      throw (problemAt base "invalid multi-line literal string"
        (some [.description "non-single-quote characters"]) p p)

/-- Decodes a string written in a form, from its text and the place it starts. -/
def decodeString (form : StringForm) (base : Nat) (raw : List Char) : Except Problem String :=
  match form with
  | .basic => do
    let (p, inner) ← stripDelimiters "invalid basic string" ['"'] false base raw
    String.ofList <$> basicBody base (inner.length + 1) p inner []
  | .literal => do
    let (p, inner) ← stripDelimiters "invalid literal string" ['\''] false base raw
    literalBody base p inner
    pure (String.ofList inner)
  | .multilineBasic => do
    let (p, inner) ←
      stripDelimiters "invalid multi-line basic string" ['"', '"', '"'] true base raw
    String.ofList <$> multilineBasicBody base (inner.length + 1) p inner []
  | .multilineLiteral => do
    let (p, inner) ←
      stripDelimiters "invalid multi-line literal string" ['\'', '\'', '\''] true base raw
    multilineLiteralBody base p inner
    pure (String.ofList inner)

/-! ## Keys -/

/-- Whether a character may stand in a bare key. -/
def isBareKeyChar (c : Char) : Bool :=
  ('a' ≤ c && c ≤ 'z') || ('A' ≤ c && c ≤ 'Z') || ('0' ≤ c && c ≤ '9') || c == '-' || c == '_'

/-- What a bare key may hold. -/
def bareKeyChars : List Expectation :=
  [.description "letters", .description "numbers", .literal "-", .literal "_"]

/-- The first offset of a text whose character fails a test. -/
def firstFailing (ok : Char → Bool) (cs : List Char) : Option (Nat × Char) :=
  ((List.range cs.length).zip cs).find? (fun (_, c) => !ok c)

/-- The kinds of string a key may be written as. -/
def quotedKeys : List Expectation := [.description "basic string", .description "literal string"]

/-- Decodes a simple key. A bad character of a bare key is a problem at that character; a
multi-line string is no key. -/
def decodeKey (src : Array Char) (k : KeySyntax) : Except Problem String :=
  let raw := spanText src k.span
  let base := k.span.start
  match k.form with
  | .bare =>
    if raw.isEmpty then
      throw (problemAt base "unquoted keys cannot be empty" (some bareKeyChars) 0 0)
    else
      match firstFailing isBareKeyChar raw with
      | some (i, _) =>
        throw (problemAt base "invalid unquoted key" (some bareKeyChars) i (i + 1))
      | none => pure (String.ofList raw)
  | .basic => decodeString .basic base raw
  | .literal => decodeString .literal base raw
  | .multilineBasic =>
    throw (problemAt base "keys cannot be multi-line basic strings" (some quotedKeys) 0 raw.length)
  | .multilineLiteral =>
    throw (problemAt base "keys cannot be multi-line literal strings" (some quotedKeys) 0
      raw.length)

/-! ## Bare values -/

/-- The radixes of integers with a prefix. -/
inductive Radix where
  | hex
  | octal
  | binary
  deriving DecidableEq, Inhabited

/-- The base of a radix. -/
def Radix.base : Radix → Nat
  | .hex => 16
  | .octal => 8
  | .binary => 2

/-- Whether a character is a digit of a radix. -/
def Radix.isDigit (r : Radix) (c : Char) : Bool :=
  match hexDigitValue? c with
  | some v => v < r.base
  | none => false

/-- The problem with a character that is not a digit of a radix. -/
def Radix.invalid : Radix → String
  | .hex => "invalid hexadecimal number"
  | .octal => "invalid octal number"
  | .binary => "invalid binary number"

/-- The radix a prefix letter names, in either case. -/
def radixOf? : Char → Option Radix
  | 'x' | 'X' => some .hex
  | 'o' | 'O' => some .octal
  | 'b' | 'B' => some .binary
  | _ => none

/-- A bare value that ends in quotes: a string whose opening quotes are missing. -/
def missingOpeningQuote? (base : Nat) (raw : List Char) : Option Problem :=
  let quote? : Option String :=
    if raw.reverse.take 3 == ['\'', '\'', '\''] then some "\'\'\'"
    else if raw.reverse.take 3 == ['"', '"', '"'] then some "\"\"\""
    else if raw.getLast? == some '\'' then some "\'"
    else if raw.getLast? == some '"' then some "\""
    else none
  quote?.map fun q => problemAt base "missing opening quote" (some [.literal q]) 0 0

/-- A bare value of the text from `base`, which is no value at all: a string needs quotes, and
one that ends in quotes lacks its opening ones. -/
def unquoted (base : Nat) (raw : List Char) : Problem :=
  (missingOpeningQuote? base raw).getD
    (problemAt base "string values must be quoted" (some [.description "literal string"]) 0
      raw.length)

/-- The parts of a text between underscores, each with its offset. -/
def underscoreParts : Nat → Nat → List Char → List (Nat × List Char)
  | 0, s, cs => [(s, cs)]
  | fuel + 1, s, cs =>
    let part := cs.takeWhile (· != '_')
    match cs.drop part.length with
    | [] => [(s, part)]
    | _ :: rest => (s, part) :: underscoreParts fuel (s + part.length + 1) rest

/-- The offset of an underscore that does not stand between two digits in the digits of a
number, which start at offset `s` of the value's text `raw`. The ends are looked at first, then
the parts between underscores in order: a part must begin with a digit, and end with one unless
it is short or last. -/
def misplacedUnderscore (digit : Char → Bool) (raw : List Char) (s : Nat) (stream : List Char) :
    Option Nat :=
  if !stream.contains '_' then none
  else if stream.head? == some '_' then some 0
  else if 1 < stream.length && stream.getLast? == some '_' then some (s + stream.length - 1)
  else
    (underscoreParts stream.length s stream).findSome? fun (start, part) =>
      if 0 < start && !((part.head?.map digit).getD false) then some (start - 1)
      else if 1 < part.length && start + part.length < raw.length &&
          !((part.getLast?.map digit).getD false) then some (start + part.length)
      else if part.isEmpty && start != 0 && start != raw.length then some start
      else none

/-- Checks the underscores of a number's digits. -/
def checkUnderscores (base : Nat) (digit : Char → Bool) (raw : List Char) (s : Nat)
    (stream : List Char) : Except Problem Unit :=
  match misplacedUnderscore digit raw s stream with
  | some p => throw (problemAt base "`_` may only go between digits" (some []) p (p + 1))
  | none => pure ()

/-- Checks the digits of a decimal part at offset `p` and gives the offset after them (and
their underscores). Without digits the part is `description`; two or more digits may begin
with zero only where `zeroAllowed`. -/
def decimalPart (base : Nat) (raw : List Char) (p : Nat) (zeroAllowed : Bool)
    (description : String) : Except Problem Nat := do
  let run := (raw.drop p).takeWhile fun c => c.isDigit || c == '_'
  let count := run.countP Char.isDigit
  if count = 0 then throw (problemAt base description (some [.description "digits"]) p p)
  if 2 ≤ count && (raw.drop p).head? == some '0' && !zeroAllowed then
    throw (problemAt base "unexpected leading zero" (some []) p (p + 1))
  pure (p + run.length)

/-- Checks the shape of a float from offset `p`: digits, an optional fraction and an optional
exponent, and nothing after them. -/
def checkFloat (base : Nat) (raw : List Char) (p : Nat) : Except Problem Unit := do
  let p ← decimalPart base raw p false "invalid mantissa"
  let p ← if raw[p]? == some '.' then decimalPart base raw (p + 1) true "invalid fraction"
    else pure p
  let p ←
    if raw[p]? == some 'e' || raw[p]? == some 'E' then
      let q := if raw[p + 1]? == some '+' || raw[p + 1]? == some '-' then p + 2 else p + 1
      decimalPart base raw q true "invalid exponent"
    else pure p
  if p < raw.length then throw (problemAt base "invalid float" (some []) p raw.length)

/-- The integer of signed digits in a radix, if it fits in 64 bits. -/
def int64Of? (radix : Nat) (cs : List Char) : Option Int :=
  let (neg, ds) := match cs with
    | '-' :: r => (true, r)
    | '+' :: r => (false, r)
    | r => (false, r)
  if ds.isEmpty then none
  else
    match ds.mapM fun c => (hexDigitValue? c).filter (· < radix) with
    | none => none
    | some vs =>
      let v : Int := (vs.foldl (fun n d => radix * n + d) 0 : Nat)
      let x := if neg then -v else v
      if -Int.pow 2 63 ≤ x ∧ x < Int.pow 2 63 then some x else none

/-- An integer whose digits without underscores are `digits`; it must fit in 64 bits. -/
def integerValue (base : Nat) (raw : List Char) (radix : Nat) (digits : List Char) :
    Except Problem Scalar :=
  match int64Of? radix (digits.filter (· != '_')) with
  | some _ => pure .integer
  | none => throw (problemAt base "integer number overflowed" none 0 raw.length)

/-- A decimal integer from offset `p`, whose digits have no leading zero. -/
def decimalInteger (base : Nat) (raw : List Char) (p : Nat) : Except Problem Scalar := do
  if (raw.drop p).head? == some '0' then
    throw (problemAt base "unexpected leading zero" (some []) p (p + 1))
  checkUnderscores base Char.isDigit raw 0 raw
  integerValue base raw 10 raw

/-- A float whose digits start at offset `p`; it must not overflow. -/
def floatValue (base : Nat) (raw : List Char) (p : Nat) : Except Problem Scalar := do
  checkFloat base raw p
  checkUnderscores base Char.isDigit raw 0 raw
  match Float.Binary64.parse? (String.ofList (raw.filter (· != '_'))) with
  | none => throw (problemAt base "invalid float" none 0 raw.length)
  | some x =>
    if x.isFinite then pure .float
    else throw (problemAt base "floating-point number overflowed" none 0 raw.length)

/-- A date or a time. -/
def datetimeValue (base : Nat) (raw : List Char) : Except Problem Scalar :=
  match checkDatetime raw with
  | .ok () => pure .datetime
  | .error e => throw (problemAt base e.message none 0 raw.length)

/-- Whether the text after the leading digits of a number makes it a float. -/
def startsFloat (rest : List Char) : Bool :=
  match rest.dropWhile fun c => c.isDigit || c == '_' with
  | '.' :: _ | 'e' :: _ | 'E' :: _ => true
  | _ => false

/-- A number or date whose digits start at offset `p`. -/
def numberOrDate (base : Nat) (raw : List Char) (p : Nat) : Except Problem Scalar :=
  let value := raw.drop p
  let rest := value.dropWhile Char.isDigit
  match rest with
  | [] => decimalInteger base raw p
  | c :: _ =>
    if c == '-' || c == ':' then datetimeValue base raw
    else if rest.contains ' ' then throw (unquoted base raw)
    else if startsFloat rest then floatValue base raw p
    else if c == '_' then decimalInteger base raw p
    else throw (unquoted base raw)

/-- An integer with a radix prefix at offset `p`: no sign, a lower-case prefix, digits of the
radix only. -/
def radixInteger (base : Nat) (raw : List Char) (p : Nat) (signed : Bool) (letter : Char)
    (radix : Radix) : Except Problem Scalar := do
  if signed then
    throw (problemAt base "integers with a radix cannot be signed" (some []) 0 1)
  if letter.isUpper then
    throw (problemAt base "radix must be lowercase"
      (some [.literal (String.ofList ['0', letter.toLower])]) p (p + 2))
  let s := p + 2
  let stream := raw.drop s
  let (s', digits) :=
    match stream with
    | c :: rest => if c == '+' || c == '-' then (s + 1, rest) else (s, stream)
    | [] => (s, stream)
  if s' != s then
    let q := (firstFailing (fun c => c != '+' && c != '-') raw).map (·.1) |>.getD s
    throw (problemAt base "unexpected sign" (some []) q (q + 1))
  match firstFailing (fun c => radix.isDigit c || c == '_') digits with
  | some (i, _) => throw (problemAt base radix.invalid none (s' + i) (s' + i))
  | none => pure ()
  checkUnderscores base radix.isDigit raw s stream
  integerValue base raw radix.base stream

/-- A decimal integer written with the prefix `0d` at offset `p`, which decimal integers do not
take; a sign before it is the first problem. -/
def redundantPrefix (base : Nat) (p : Nat) (signed : Bool) : Except Problem Scalar :=
  if signed then throw (problemAt base "integers with a radix cannot be signed" (some []) 0 1)
  else throw (problemAt base "redundant integer number prefix" (some []) p (p + 2))

/-- A number or date whose text from offset `p` begins with `0`. -/
def zeroPrefixed (base : Nat) (raw : List Char) (p : Nat) (signed : Bool) :
    Except Problem Scalar :=
  match raw.drop p with
  | _ :: r :: _ =>
    match radixOf? r with
    | some radix => radixInteger base raw p signed r radix
    | none =>
      if r == 'd' || r == 'D' then redundantPrefix base p signed
      else if r == '.' || r == 'e' || r == 'E' then floatValue base raw p
      else if r.isDigit || r == '_' then numberOrDate base raw p
      else throw (unquoted base raw)
  | _ => integerValue base raw 10 raw

/-- A word value: the whole text must be `word`. -/
def wordValue (base : Nat) (raw : List Char) (word : String) (invalid : String)
    (kind : Scalar) : Except Problem Scalar :=
  if raw == word.toList then pure kind
  else if raw.contains ' ' then throw (unquoted base raw)
  else throw (problemAt base invalid (some [.literal word]) 0 raw.length)

/-- A value after a sign, from offset `p`. -/
def afterSign (base : Nat) (raw : List Char) (p : Nat) : Except Problem Scalar :=
  match raw.drop p with
  | [] => throw (unquoted base raw)
  | value@(c :: _) =>
    if c == '+' || c == '-' then
      throw (problemAt base "redundant numeric sign" (some []) p (p + 1))
    else if c == '0' then zeroPrefixed base raw p true
    else if c.isDigit || c == '_' then numberOrDate base raw p
    else if c == '.' then floatValue base raw 0
    else
      let word? : Option String :=
        if c == 'i' || c == 'I' then some "inf"
        else if c == 'n' || c == 'N' then some "nan"
        else none
      match word? with
      | some word =>
        if value == word.toList then pure .float
        else throw (problemAt base "invalid float" (some [.literal word]) p raw.length)
      | none => throw (unquoted base raw)

/-- Whether a text begins like a date or a time: digits, then `-` or `:`. -/
def dateLike (raw : List Char) : Bool :=
  let digits := raw.takeWhile Char.isDigit
  !digits.isEmpty && ((raw.drop digits.length).head? == some '-' ||
    (raw.drop digits.length).head? == some ':')

/-- Decodes a bare value, from its text and the place it starts. A value with a space in it can
only be a date with its time. -/
def decodeBare (base : Nat) (raw : List Char) : Except Problem Scalar :=
  if raw.contains ' ' && !dateLike raw then throw (unquoted base raw)
  else
  match raw with
  | [] => throw (unquoted base raw)
  | c :: _ =>
    if c == '+' || c == '-' then afterSign base raw 1
    else if c == '0' then zeroPrefixed base raw 0 false
    else if c.isDigit || c == '_' then numberOrDate base raw 0
    else if c == '.' then floatValue base raw 0
    else if c == 't' || c == 'T' then wordValue base raw "true" "invalid boolean" .boolean
    else if c == 'f' || c == 'F' then wordValue base raw "false" "invalid boolean" .boolean
    else if c == 'i' || c == 'I' then wordValue base raw "inf" "invalid float" .float
    else if c == 'n' || c == 'N' then wordValue base raw "nan" "invalid float" .float
    else throw (unquoted base raw)

end ObjectMapping.Toml
