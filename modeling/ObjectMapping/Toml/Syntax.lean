import ObjectMapping.Toml.Problem

/-!
# The shape of a TOML text

The first reading of a TOML text: its tokens grouped into statements, a table header or a key
with its value, without decoding any key or value yet. Keys and values keep the spans they
were written in; `Toml.Document` decodes them. Every problem found here comes before any
problem found in decoding.

* A key is simple keys joined by `.`, with white space allowed around the dots. Where a simple
  key is missing, an empty bare key stands at that place, for the decoder to refuse. A
  multi-line string is kept as a key here and refused by the decoder.
* A value is a string token, an array, an inline table, or a bare value. A bare value is a run
  of atoms and dots with no space between them (`1.5`, `-1e5`), also across white space
  before a further atom (`1979-05-27 07:32:00`). Where a value is missing, an empty bare value
  stands at that place. A `=`, `]` or `}` where a value should begin is a problem here.
* Arrays and inline tables may span lines and end in a trailing comma. An inline table is read
  by what it waits for next (`Awaiting`): a key, `=`, a value or a comma; a `}` while a
  value is still due closes the table after an empty literal string, which the decoder refuses.
* Arrays and inline tables nest at most `maxNesting` deep.
* A header whose key is cut short (no key, or a dot with no key after it) and not closed is not
  a problem here: the rest of its line is passed over and the empty key is refused later.

The problems found here are about the shape only: an unclosed header, array or inline table,
a key with no `=`, something after a value or header on its line, a misplaced comma or `=`,
a carriage return with no line feed, and a control character in a comment.
-/

namespace ObjectMapping.Toml

/-- How a simple key is written. -/
inductive KeyForm where
  | bare
  | basic
  | literal
  | multilineBasic
  | multilineLiteral
  deriving DecidableEq, Repr, Inhabited

/-- A simple key as written. -/
structure KeySyntax where
  form : KeyForm
  span : Span
  deriving Repr, Inhabited

/-- How a string value is written. -/
inductive StringForm where
  | basic
  | literal
  | multilineBasic
  | multilineLiteral
  deriving DecidableEq, Repr, Inhabited

/-- A value as written. -/
inductive ValueSyntax where
  /-- A bare value: a number, a boolean, a date or time, or something invalid. -/
  | bare (span : Span)
  | quoted (form : StringForm) (span : Span)
  | array (items : List ValueSyntax)
  | inline (pairs : List (List KeySyntax × ValueSyntax))
  deriving Repr, Inhabited

/-- A statement of a document: a table header or a key with its value. -/
inductive Statement where
  | header (keys : List KeySyntax) (isArray : Bool)
  | pair (keys : List KeySyntax) (value : ValueSyntax)
  deriving Repr, Inhabited

/-- The reader of statements: the source characters, and the tokens not yet read. -/
abbrev ShapeReader := ReaderT (Array Char) (StateT (List Token) (Except Problem))

/-- The next token; the token list always ends with `eof`, which is never taken. -/
def peekToken : ShapeReader Token := do
  match ← get with
  | t :: _ => pure t
  | [] => pure ⟨.eof, Span.at 0⟩

/-- The token after the next one. -/
def peekSecond : ShapeReader (Option Token) := do
  match ← get with
  | _ :: t :: _ => pure (some t)
  | _ => pure none

/-- Takes the next token, unless it is `eof`. -/
def advanceToken : ShapeReader Unit :=
  modify fun
    | [t] => [t]
    | _ :: ts => ts
    | [] => []

/-- Takes the next token when it is of the given kind. -/
def takeIf (kind : TokenKind) : ShapeReader (Option Token) := do
  let t ← peekToken
  if t.kind == kind then
    advanceToken
    pure (some t)
  else pure none

/-- Whether a character may stand in a comment: tab, printable ASCII, or beyond ASCII. -/
def isCommentChar (c : Char) : Bool :=
  c == '\t' || (0x20 ≤ c.toNat && c.toNat ≤ 0x7e) || 0x80 ≤ c.toNat

/-- Checks a comment, line break or white space token: a comment holds no control character
but tab, and a carriage return is followed by a line feed. -/
def checkTrivia (t : Token) : ShapeReader Unit := do
  let src ← read
  match t.kind with
  | .comment =>
    let body := (List.range (t.span.stop - t.span.start)).map (t.span.start + ·)
    match body.find? fun p => !isCommentChar (src.getD p ' ') with
    | some p =>
      throw ⟨"invalid comment character", some [.description "printable characters"], ⟨p, p + 1⟩⟩
    | none => pure ()
  | .newline =>
    if t.span.stop - t.span.start == 1 && src.getD t.span.start ' ' == '\r' then
      throw ⟨"carriage return must be followed by newline", some [.literal "\n"],
        Span.at t.span.stop⟩
  | _ => pure ()

/-- Skips spaces and tabs. -/
def skipWhitespace : Nat → ShapeReader Unit
  | 0 => pure ()
  | n + 1 => do
    if (← peekToken).kind == .whitespace then
      advanceToken
      skipWhitespace n

/-- A simple key, or an empty bare key where none is written. -/
def simpleKey : ShapeReader KeySyntax := do
  let t ← peekToken
  let form? : Option KeyForm := match t.kind with
    | .atom => some .bare
    | .basicString => some .basic
    | .literalString => some .literal
    | .multilineBasicString => some .multilineBasic
    | .multilineLiteralString => some .multilineLiteral
    | _ => none
  match form? with
  | some form => advanceToken; pure ⟨form, t.span⟩
  | none => pure ⟨.bare, Span.at t.span.start⟩

/-- A key: simple keys joined by dots, and the white space after it. -/
def keyPath : Nat → ShapeReader (List KeySyntax)
  | 0 => pure []
  | n + 1 => do
    let k ← simpleKey
    skipWhitespace n
    if (← peekToken).kind == .dot then
      advanceToken
      skipWhitespace n
      pure (k :: (← keyPath n))
    else pure [k]

/-- Whether a simple key is written, rather than standing empty where a key is missing: every
written key takes at least one character. -/
def KeySyntax.written (k : KeySyntax) : Bool := k.span.start < k.span.stop

/-- The rest of a bare value from `stop` on: atoms and dots right after it, and an atom after
white space. -/
def bareRest : Nat → Nat → Nat → ShapeReader Span
  | 0, start, stop => pure ⟨start, stop⟩
  | n + 1, start, stop => do
    let t ← peekToken
    match t.kind with
    | .atom | .dot => advanceToken; bareRest n start t.span.stop
    | .whitespace =>
      match ← peekSecond with
      | some t2 =>
        if t2.kind == .atom then
          advanceToken; advanceToken; bareRest n start t2.span.stop
        else pure ⟨start, stop⟩
      | none => pure ⟨start, stop⟩
    | _ => pure ⟨start, stop⟩

/-- A problem for fuel that runs out, which the fuel given never allows. -/
def exhausted (p : Nat) : Problem := Problem.plain "nesting too deep" (Span.at p)

/-- How deep arrays and inline tables may nest. -/
def maxNesting : Nat := 80

/-- Opens an array or inline table at `t` inside `depth` others, unless that is too deep. -/
def openNested (depth : Nat) (t : Token) : ShapeReader Unit := do
  if maxNesting ≤ depth then
    throw (Problem.plain "cannot recurse further; max recursion depth met" t.span)
  advanceToken

/-- What an inline table waits for next. -/
inductive Awaiting where
  /-- The key of a pair, or the end of the table. -/
  | key
  /-- The `=` after a key. -/
  | equals
  /-- The value after `=`. -/
  | value
  /-- The comma after a pair, or the end of the table. -/
  | comma
  deriving DecidableEq, Repr, Inhabited

/-- What a problem says was expected while an inline table waits. -/
def Awaiting.expected : Awaiting → List Expectation
  | .key => [.description "key"]
  | .equals => [.literal "="]
  | .value => [.description "value"]
  | .comma => [.literal ","]

/-- The pairs of an inline table read so far. -/
abbrev InlinePairs := List (List KeySyntax × ValueSyntax)

mutual

/-- A value inside `depth` arrays and inline tables, or an empty bare value where none is
written. -/
def value : Nat → Nat → ShapeReader ValueSyntax
  | 0, _ => do throw (exhausted (← peekToken).span.start)
  | n + 1, depth => do
    let t ← peekToken
    match t.kind with
    | .basicString => advanceToken; pure (.quoted .basic t.span)
    | .literalString => advanceToken; pure (.quoted .literal t.span)
    | .multilineBasicString => advanceToken; pure (.quoted .multilineBasic t.span)
    | .multilineLiteralString => advanceToken; pure (.quoted .multilineLiteral t.span)
    | .leftBracket => openNested depth t; .array <$> arrayItems n (depth + 1) false []
    | .leftBrace => openNested depth t; .inline <$> inlinePairs n (depth + 1) .key [] []
    | .rightBracket => throw ⟨"missing array opening", some [.literal "["], Span.at t.span.start⟩
    | .rightBrace =>
      throw ⟨"missing inline table opening", some [.literal "\x7b"], Span.at t.span.start⟩
    | .equals => throw ⟨"extra `=`", some [], t.span⟩
    | .atom | .dot => advanceToken; .bare <$> bareRest n t.span.start t.span.stop
    | _ => pure (.bare (Span.at t.span.start))

/-- The items of an array after `[`, up to and including `]`. -/
def arrayItems : Nat → Nat → Bool → List ValueSyntax → ShapeReader (List ValueSyntax)
  | 0, _, _, _ => do throw (exhausted (← peekToken).span.start)
  | n + 1, depth, needComma, acc => do
    let t ← peekToken
    match t.kind with
    | .whitespace => advanceToken; arrayItems n depth needComma acc
    | .comment | .newline => checkTrivia t; advanceToken; arrayItems n depth needComma acc
    | .eof => throw ⟨"unclosed array", some [.literal "]"], t.span⟩
    | .rightBracket => advanceToken; pure acc.reverse
    | .comma =>
      if needComma then do advanceToken; arrayItems n depth false acc
      else throw ⟨"extra comma in array", some [.description "value"], t.span⟩
    | _ =>
      if needComma then
        throw ⟨"missing comma between array elements", some [.literal ","], Span.at t.span.start⟩
      else do
        let v ← value n depth
        arrayItems n depth true (v :: acc)

/-- The pairs of an inline table after `{`, up to and including `}`, waiting for `state`
with the keys `pending` of a pair whose value is still due. -/
def inlinePairs : Nat → Nat → Awaiting → List KeySyntax → InlinePairs →
    ShapeReader InlinePairs
  | 0, _, _, _, _ => do throw (exhausted (← peekToken).span.start)
  | n + 1, depth, state, pending, acc => do
    let t ← peekToken
    let here := Span.at t.span.start
    match t.kind, state with
    | .whitespace, _ => advanceToken; inlinePairs n depth state pending acc
    | .comment, _ | .newline, _ =>
      checkTrivia t; advanceToken; inlinePairs n depth state pending acc
    | .eof, _ => throw ⟨"unclosed inline table", some [.literal "\x7d"], t.span⟩
    | .comma, .comma => advanceToken; inlinePairs n depth .key [] acc
    | .comma, _ => throw ⟨"extra comma in inline table", some state.expected, here⟩
    | .equals, .key => advanceToken; inlinePairs n depth .value [⟨.bare, here⟩] acc
    | .equals, .equals => advanceToken; inlinePairs n depth .value pending acc
    | .equals, _ =>
      throw ⟨"extra assignment between key-value pairs", some state.expected, here⟩
    | .rightBrace, .key | .rightBrace, .comma => advanceToken; pure acc.reverse
    | .rightBrace, _ => advanceToken; pure ((pending, .quoted .literal here) :: acc).reverse
    | .rightBracket, .value => throw ⟨"missing array opening", some [.literal "["], here⟩
    | .rightBracket, _ => throw ⟨"invalid inline table element", some state.expected, here⟩
    | .leftBrace, .key | .leftBrace, .comma | .leftBracket, .key | .leftBracket, .comma =>
      throw ⟨"missing key for inline table element", some state.expected, here⟩
    | _, .key => do
      let keys ← keyPath n
      inlinePairs n depth .equals keys acc
    | _, .equals =>
      throw ⟨"missing assignment between key-value pairs", some state.expected, here⟩
    | _, .value => do
      let v ← value n depth
      inlinePairs n depth .comma [] ((pending, v) :: acc)
    | _, .comma => throw ⟨"missing comma between key-value pairs", some state.expected, here⟩

end

/-- The end of a statement's line: white space, a comment, and a line break or the end. -/
def lineEnd (n : Nat) : ShapeReader Unit := do
  skipWhitespace n
  let t ← peekToken
  match t.kind with
  | .comment =>
    checkTrivia t
    advanceToken
    let t2 ← peekToken
    if t2.kind == .newline then checkTrivia t2; advanceToken
  | .newline => checkTrivia t; advanceToken
  | .eof => pure ()
  | _ => throw ⟨"unexpected key or value", some [.literal "\n", .literal "#"], Span.at t.span.start⟩

/-- Passes over the rest of a line, up to and including its line break. -/
def skipLine : Nat → ShapeReader Unit
  | 0 => pure ()
  | n + 1 => do
    let t ← peekToken
    match t.kind with
    | .eof => pure ()
    | .newline => checkTrivia t; advanceToken
    | .comment => lineEnd n
    | _ => advanceToken; skipLine n

/-- A table header `[a.b]` or an array-of-tables header `[[a.b]]`, with the rest of its line.
An unclosed header is a problem when its key is whole, found just after the key. -/
def header (n : Nat) : ShapeReader Statement := do
  advanceToken
  let isArray := (← takeIf .leftBracket).isSome
  skipWhitespace n
  let keys ← keyPath n
  let whole := (keys.getLast?.map KeySyntax.written).getD false
  match ← takeIf .rightBracket with
  | some close =>
    if isArray then
      if (← takeIf .rightBracket).isNone then
        throw ⟨"unclosed array table", some [.literal "]"], Span.at close.span.stop⟩
    lineEnd n
  | none =>
    if whole then
      let after := Span.at ((keys.getLast?.map (·.span.stop)).getD 0)
      if isArray then throw ⟨"unclosed array table", some [.literal "]]"], after⟩
      else throw ⟨"unclosed table", some [.literal "]"], after⟩
    else skipLine n
  pure (.header keys isArray)

/-- A key and its value, with the rest of the line. -/
def keyValue (n : Nat) : ShapeReader Statement := do
  let keys ← keyPath n
  let eq ← peekToken
  if eq.kind != .equals then throw ⟨"key with no value", some [.literal "="], Span.at eq.span.start⟩
  advanceToken
  skipWhitespace n
  let v ← value n 0
  lineEnd n
  pure (.pair keys v)

/-- The statements of a document, in order. A `]` that begins a line opens no table. -/
def statements : Nat → List Statement → ShapeReader (List Statement)
  | 0, acc => pure acc.reverse
  | n + 1, acc => do
    let t ← peekToken
    match t.kind with
    | .whitespace => advanceToken; statements n acc
    | .comment | .newline => checkTrivia t; advanceToken; statements n acc
    | .eof => pure acc.reverse
    | .leftBracket => do
      let s ← header n
      statements n (s :: acc)
    | .rightBracket =>
      throw ⟨"missing table opening", some [.literal "["], Span.at t.span.start⟩
    | _ => do
      let s ← keyValue n
      statements n (s :: acc)

/-- The statements of a text, given its characters and tokens. -/
def readStatements (src : Array Char) (tokens : List Token) : Except Problem (List Statement) :=
  let fuel := 4 * tokens.length + 8
  ((statements fuel []).run src).run' tokens

end ObjectMapping.Toml
