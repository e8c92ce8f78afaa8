import ObjectMapping.Tokens.Tree
import ObjectMapping.Text.Identifier

/-!
# Reading source text into token trees

`Tokens.lex` splits source text into token trees, or fails when the text has no such reading:
a bracket that is not closed or closes the wrong group, an unterminated string or comment, a
character that starts no token.

* White space and comments separate tokens. A doc comment (`///`, `//!`, `/** */`, `/*! */`)
  is itself tokens: `# [doc = "text"]`, with `!` after `#` for the inner forms.
* A literal is taken before a punctuation character and an identifier: strings (raw, byte and
  C strings too), characters, bytes and numbers, each with an optional identifier suffix. Its
  text is kept as written.
* A punctuation character is joined to the next character when that one is punctuation too
  (but not the start of a comment). A `'` before an identifier starts a lifetime and is joined.

Every scan takes a fuel argument; `Tokens.lex` gives each one more than the length of the text,
and every step consumes at least one character.
-/

namespace ObjectMapping.Tokens

open ObjectMapping.Text

/-- Whether a list of characters begins with a string. -/
def startsWith (cs : List Char) (p : String) : Bool := p.toList.isPrefixOf cs

/-- The value of a hexadecimal digit. -/
def hexValue? (c : Char) : Option Nat :=
  if c.isDigit then some (c.toNat - '0'.toNat)
  else if 'a' ≤ c && c ≤ 'f' then some (c.toNat - 'a'.toNat + 10)
  else if 'A' ≤ c && c ≤ 'F' then some (c.toNat - 'A'.toNat + 10)
  else none

/-- An identifier that is not raw at the front: its text and the rest. -/
def identPrefix? (cs : List Char) : Option (String × List Char) :=
  match cs with
  | c :: rest =>
    if isIdentStart c then
      let body := rest.takeWhile isIdentContinue
      some (String.ofList (c :: body), rest.drop body.length)
    else none
  | [] => none

/-- The rest after an optional suffix identifier. -/
def afterSuffix (cs : List Char) : List Char :=
  match identPrefix? cs with
  | some (_, rest) => rest
  | none => cs

/-- The rest after a line continuation: the white space after a backslash and a line break.
`last` is the last white space character taken; a carriage return must be followed by a line
feed. -/
def afterContinuation (last : Char) : List Char → Option (List Char)
  | [] => none
  | c :: rest =>
    if last == '\r' then (if c == '\n' then afterContinuation '\n' rest else none)
    else if c == ' ' || c == '\t' || c == '\n' || c == '\r' then afterContinuation c rest
    else some (c :: rest)

/-- The digits of a `\u{…}` escape after the brace: at most six hexadecimal digits, with
underscores after the first, and a closing brace; `some (value, rest)`. -/
def unicodeDigits (value len : Nat) : List Char → Option (Nat × List Char)
  | [] => none
  | c :: rest =>
    if c == '_' && len > 0 then unicodeDigits value len rest
    else if c == '}' && len > 0 then some (value, rest)
    else match hexValue? c with
      | some d => if len == 6 then none else unicodeDigits (value * 16 + d) (len + 1) rest
      | none => none

/-- A `\u{…}` escape after the `u`: its code point, which must be a character, and the rest. -/
def unicodeEscape? : List Char → Option (Nat × List Char)
  | '{' :: rest =>
    match unicodeDigits 0 0 rest with
    | some (v, r) => if v < 0xd800 || (0xdfff < v && v ≤ 0x10ffff) then some (v, r) else none
    | none => none
  | _ => none

/-- What a quoted literal may hold. -/
inductive QuotedKind where
  /-- Text: any character. -/
  | text
  /-- Bytes: ASCII characters only, `\x` with any two hexadecimal digits, no `\u`. -/
  | bytes
  /-- A C string: no NUL, by itself or by an escape. -/
  | cstring
  deriving DecidableEq

/-- The rest after the body of a quoted string and its closing quote and suffix. -/
def quotedBody (kind : QuotedKind) : Nat → List Char → Option (List Char)
  | 0, _ => none
  | _ + 1, [] => none
  | fuel + 1, c :: rest =>
    if c == '"' then some (afterSuffix rest)
    else if c == '\r' then
      match rest with
      | '\n' :: r => quotedBody kind fuel r
      | _ => none
    else if c == '\\' then
      match rest with
      | 'x' :: a :: b :: r =>
        match kind with
        | .bytes => if (hexValue? a).isSome && (hexValue? b).isSome then quotedBody kind fuel r else none
        | .text =>
          if '0' ≤ a && a ≤ '7' && (hexValue? b).isSome then quotedBody kind fuel r else none
        | .cstring =>
          if (hexValue? a).isSome && (hexValue? b).isSome && !(a == '0' && b == '0') then
            quotedBody kind fuel r
          else none
      | 'u' :: r =>
        if kind == .bytes then none
        else match unicodeEscape? r with
          | some (v, r') => if kind == .cstring && v == 0 then none else quotedBody kind fuel r'
          | none => none
      | e :: r =>
        if e == '\n' || e == '\r' then
          match afterContinuation e r with
          | some r' => quotedBody kind fuel r'
          | none => none
        else if "nrt\\'\"".contains e || (e == '0' && kind != .cstring) then quotedBody kind fuel r
        else none
      | [] => none
    else if kind == .bytes && c.toNat ≥ 128 then none
    else if kind == .cstring && c == '\x00' then none
    else quotedBody kind fuel rest

/-- The body of a raw string after its opening quote: up to a quote followed by the closing
hashes; a carriage return must be followed by a line feed. -/
def rawBody (kind : QuotedKind) (hashes : Nat) : Nat → List Char → Option (List Char)
  | 0, _ => none
  | _ + 1, [] => none
  | fuel + 1, c :: rest =>
    if c == '"' && (rest.take hashes).all (· == '#') && (rest.take hashes).length == hashes then
      some (afterSuffix (rest.drop hashes))
    else if c == '\r' then
      match rest with
      | '\n' :: r => rawBody kind hashes fuel r
      | _ => none
    else if kind == .bytes && c.toNat ≥ 128 then none
    else if kind == .cstring && c == '\x00' then none
    else rawBody kind hashes fuel rest

/-- A raw string after its `r`: the hashes, a quote, the body. -/
def rawString? (kind : QuotedKind) (cs : List Char) : Option (List Char) :=
  let hashes := cs.takeWhile (· == '#')
  match cs.drop hashes.length with
  | '"' :: body => if hashes.length > 255 then none else rawBody kind hashes.length (body.length + 1) body
  | _ => none

/-- An escape or character of a character or byte literal, and the rest. -/
def quotedChar? (isByte : Bool) : List Char → Option (List Char)
  | '\\' :: 'x' :: a :: b :: rest =>
    if isByte then (if (hexValue? a).isSome && (hexValue? b).isSome then some rest else none)
    else if '0' ≤ a && a ≤ '7' && (hexValue? b).isSome then some rest else none
  | '\\' :: 'u' :: rest => if isByte then none else (unicodeEscape? rest).map (·.2)
  | '\\' :: e :: rest => if "nrt\\0'\"".contains e then some rest else none
  | c :: rest => if isByte && c.toNat ≥ 128 then none else some rest
  | [] => none

/-- The rest after a character or byte literal whose opening quote is taken. -/
def charRest? (isByte : Bool) (cs : List Char) : Option (List Char) :=
  match quotedChar? isByte cs with
  | some ('\'' :: rest) => some (afterSuffix rest)
  | _ => none

/-- The rest after the exponent of a float, given whether a point came before it. -/
def exponentRest (beforeExponent : Option (List Char)) (cs : List Char) : Option (List Char) :=
  let rec go (sign value : Bool) : List Char → Option (List Char)
    | [] => if value then some [] else beforeExponent
    | c :: rest =>
      if c == '+' || c == '-' then
        if value then some (c :: rest)
        else if sign then beforeExponent
        else go true value rest
      else if c.isDigit then go sign true rest
      else if c == '_' then go sign value rest
      else if value then some (c :: rest) else beforeExponent
  go false false cs

/-- The digits of a float: a digit, digits and underscores, at most one point not followed by a
point or an identifier, and an exponent; at least a point or an exponent. -/
def floatDigits? (cs : List Char) : Option (List Char) :=
  let rec go (dot : Bool) : List Char → Option (List Char)
    | [] => if dot then some [] else none
    | c :: rest =>
      if c.isDigit || c == '_' then go dot rest
      else if c == '.' then
        if dot then some (c :: rest)
        else match rest with
          | d :: _ => if d == '.' || isIdentStart d then none else go true rest
          | [] => go true rest
      else if c == 'e' || c == 'E' then
        -- the text before the exponent stands alone only after a point
        exponentRest (if dot then some (c :: rest) else none) rest
      else if dot then some (c :: rest) else none
  match cs with
  | c :: rest => if c.isDigit then go false rest else none
  | [] => none

/-- The rest after an optional suffix, if no identifier character follows it. -/
def suffixAndBreak (cs : List Char) : Option (List Char) :=
  let rest := match cs with
    | c :: _ => if isIdentStart c then afterSuffix cs else cs
    | [] => cs
  match rest with
  | c :: _ => if isIdentContinue c then none else some rest
  | [] => some rest

/-- The digits of an integer in its base (`0x`, `0o`, `0b` or none). -/
def integerDigits? (cs : List Char) : Option (List Char) :=
  let (base, body) :=
    if startsWith cs "0x" then (16, cs.drop 2)
    else if startsWith cs "0o" then (8, cs.drop 2)
    else if startsWith cs "0b" then (2, cs.drop 2)
    else (10, cs)
  let rec go (empty : Bool) : List Char → Option (List Char)
    | [] => if empty then none else some []
    | c :: rest =>
      if c.isDigit then
        if c.toNat - '0'.toNat ≥ base then none else go false rest
      else if ('a' ≤ c && c ≤ 'f') || ('A' ≤ c && c ≤ 'F') then
        if base ≤ 10 then (if empty then none else some (c :: rest)) else go false rest
      else if c == '_' then
        if empty && base == 10 then none else go empty rest
      else if empty then none else some (c :: rest)
  go true body

/-- The rest after a literal at the front. -/
def literalRest? (cs : List Char) : Option (List Char) :=
  let string : Option (List Char) :=
    match cs with
    | '"' :: rest => quotedBody .text (rest.length + 1) rest
    | 'r' :: rest => rawString? .text rest
    | _ => none
  let byteString : Option (List Char) :=
    if startsWith cs "b\"" then quotedBody .bytes cs.length (cs.drop 2)
    else if startsWith cs "br" then rawString? .bytes (cs.drop 2)
    else none
  let cString : Option (List Char) :=
    if startsWith cs "cr" then rawString? .cstring (cs.drop 2)
    else if startsWith cs "c\"" then quotedBody .cstring cs.length (cs.drop 2)
    else none
  let byte : Option (List Char) :=
    if startsWith cs "b'" then charRest? true (cs.drop 2) else none
  let character : Option (List Char) :=
    match cs with
    | '\'' :: rest => charRest? false rest
    | _ => none
  let float : Option (List Char) := (floatDigits? cs).bind suffixAndBreak
  let integer : Option (List Char) := (integerDigits? cs).bind suffixAndBreak
  string <|> byteString <|> cString <|> byte <|> character <|> float <|> integer

/-- A punctuation character at the front, which must not start a comment. -/
def punctChar? (cs : List Char) : Option (Char × List Char) :=
  if startsWith cs "//" || startsWith cs "/*" then none
  else match cs with
    | c :: rest => if isPunctChar c then some (c, rest) else none
    | [] => none

/-- An identifier at the front, raw or not: its name, whether it is raw, and the rest. -/
def identAny? (cs : List Char) : Option (String × Bool × List Char) :=
  if startsWith cs "r#" then
    match identPrefix? (cs.drop 2) with
    | some (name, rest) =>
      if ["_", "super", "self", "Self", "crate"].contains name then none else some (name, true, rest)
    | none => none
  else (identPrefix? cs).map fun (name, rest) => (name, false, rest)

/-- A punctuation token at the front. -/
def punctToken? (cs : List Char) : Option (Token × List Char) := do
  let (c, rest) ← punctChar? cs
  if c == '\'' then
    let (_, _, after) ← identAny? rest
    match after with
    | '\'' :: _ => none
    | '#' :: _ => if startsWith rest "r#" then some (.punct c .joint, rest) else none
    | _ => some (.punct c .joint, rest)
  else
    let spacing := if (punctChar? rest).isSome then Spacing.joint else .alone
    some (.punct c spacing, rest)

/-- An identifier token at the front; a string or character prefix is not one. -/
def identToken? (cs : List Char) : Option (Token × List Char) :=
  if ["r\"", "r#\"", "r##", "b\"", "b'", "br\"", "br#", "c\"", "cr\"", "cr#"].any (startsWith cs)
  then none
  else (identAny? cs).map fun (name, raw, rest) => (.ident name raw, rest)

/-- The text a compiler writes for an expression it could not read; it reads back as one
literal token, so that such text survives being printed and lexed again. -/
def errorMarker : String := "(/*ERROR*/)"

/-- A literal, punctuation or identifier token at the front, or the error marker. -/
def leafToken? (cs : List Char) : Option (Token × List Char) :=
  match literalRest? cs with
  | some rest => some (.literal (String.ofList (cs.take (cs.length - rest.length))), rest)
  | none =>
    punctToken? cs <|> identToken? cs <|>
      if startsWith cs errorMarker then some (.literal errorMarker, cs.drop errorMarker.length)
      else none

/-- The text of a line comment's line and the rest, which starts with the line break. -/
def lineText (cs : List Char) : List Char × List Char :=
  let rec go (acc : List Char) : List Char → List Char × List Char
    | [] => (acc.reverse, [])
    | '\n' :: rest => (acc.reverse, '\n' :: rest)
    | '\r' :: '\n' :: rest => (acc.reverse, '\n' :: rest)
    | c :: rest => go (c :: acc) rest
  go [] cs

/-- A block comment at the front, nested ones included: its whole text and the rest. -/
def blockComment? (cs : List Char) : Option (List Char × List Char) :=
  let rec go (depth : Nat) (acc : List Char) : List Char → Option (List Char × List Char)
    | '/' :: '*' :: rest => go (depth + 1) ('*' :: '/' :: acc) rest
    | '*' :: '/' :: rest =>
      if depth == 1 then some (('/' :: '*' :: acc).reverse, rest)
      else go (depth - 1) ('/' :: '*' :: acc) rest
    | c :: rest => go depth (c :: acc) rest
    | [] => none
  if startsWith cs "/*" then go 0 [] cs else none

/-- The rest after white space and comments that are not doc comments. -/
def skipBlank : Nat → List Char → List Char
  | 0, cs => cs
  | fuel + 1, cs =>
    if startsWith cs "//" && (!startsWith cs "///" || startsWith cs "////") && !startsWith cs "//!" then
      skipBlank fuel (lineText cs).2
    else if startsWith cs "/**/" then skipBlank fuel (cs.drop 4)
    else if startsWith cs "/*" && (!startsWith cs "/**" || startsWith cs "/***") &&
        !startsWith cs "/*!" then
      match blockComment? cs with
      | some (_, rest) => skipBlank fuel rest
      | none => cs
    else match cs with
      | c :: rest => if isSourceBlank c then skipBlank fuel rest else cs
      | [] => cs

/-- A doc comment at the front: its text, whether it is inner, and the rest. -/
def docComment? (cs : List Char) : Option (List Char × Bool × List Char) :=
  let block (inner : Bool) : Option (List Char × Bool × List Char) :=
    (blockComment? cs).map fun (text, rest) => (((text.drop 3).take (text.length - 5)), inner, rest)
  if startsWith cs "//!" then
    let (text, rest) := lineText (cs.drop 3)
    some (text, true, rest)
  else if startsWith cs "/*!" then block true
  else if startsWith cs "///" then
    if startsWith (cs.drop 3) "/" then none
    else
      let (text, rest) := lineText (cs.drop 3)
      some (text, false, rest)
  else if startsWith cs "/**" && !startsWith (cs.drop 3) "*" then block false
  else none

/-- Whether every carriage return of a text is followed by a line feed. -/
def crFollowedByLf : List Char → Bool
  | [] => true
  | '\r' :: '\n' :: rest => crFollowedByLf rest
  | '\r' :: _ => false
  | _ :: rest => crFollowedByLf rest

/-- The tokens of a doc comment: `# [doc = "text"]`, with `!` after `#` when it is inner. -/
def docTokens (text : List Char) (inner : Bool) : List Token :=
  [.punct '#' .alone] ++ (if inner then [.punct '!' .alone] else []) ++
    [.group .bracket [.ident "doc" false, .punct '=' .alone, Token.stringLiteral (String.ofList text)]]

/-- The opening bracket a character is. -/
def opening? : Char → Option Delimiter
  | '(' => some .paren
  | '[' => some .bracket
  | '{' => some .brace
  | _ => none

/-- The closing bracket a character is. -/
def closing? : Char → Option Delimiter
  | ')' => some .paren
  | ']' => some .bracket
  | '}' => some .brace
  | _ => none

/-- The main loop: the open groups (each with the trees before it, reversed) and the trees of
the innermost group so far, reversed. -/
def lexLoop : Nat → List Char → List (Delimiter × List Token) → List Token → Option (List Token)
  | 0, _, _, _ => none
  | fuel + 1, cs, stack, acc =>
    let cs := skipBlank (cs.length + 1) cs
    match docComment? cs with
    | some (text, inner, rest) =>
      if crFollowedByLf text then lexLoop fuel rest stack ((docTokens text inner).reverse ++ acc)
      else none
    | none =>
      match cs with
      | [] => if stack.isEmpty then some acc.reverse else none
      | c :: rest =>
        match (if startsWith cs errorMarker then none else opening? c), closing? c with
        | some d, _ => lexLoop fuel rest ((d, acc) :: stack) []
        | none, some d =>
          match stack with
          | (open_, outer) :: stack' =>
            if open_ == d then lexLoop fuel rest stack' (.group d acc.reverse :: outer) else none
          | [] => none
        | none, none =>
          match leafToken? cs with
          | some (t, rest') => lexLoop fuel rest' stack (t :: acc)
          | none => none

/-- The token trees of a source text, or `none` when it has no reading as tokens. A byte order
mark at the start is skipped. -/
def lex (source : String) : Option (List Token) :=
  let cs := match source.toList with
    | '\uFEFF' :: rest => rest
    | cs => cs
  lexLoop (cs.length + 1) cs [] []

end ObjectMapping.Tokens
