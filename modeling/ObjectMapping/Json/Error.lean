import ObjectMapping.Text.Quote

/-!
# Errors of the JSON reader

A `ReadError` is a cause and the place where reading stopped: a line counted from one and a
column counted in bytes from the start of the line. An error raised by the consumer of the
input rather than by its syntax carries a free `message`.

* `ReadError.message`: the cause, then ` at line L column C`; an error with line 0 has no
  place and is its cause alone.
* `ReadError.debug`: the debug view, `Error("cause", line: L, column: C)`.
-/

namespace ObjectMapping.Json

/-- Why reading stopped. -/
inductive ErrorCode where
  | eofList
  | eofObject
  | eofString
  | eofValue
  | expectedColon
  | expectedListCommaOrEnd
  | expectedObjectCommaOrEnd
  | expectedIdent
  | expectedValue
  | invalidEscape
  | invalidNumber
  | numberOutOfRange
  | controlCharacter
  | keyMustBeString
  | loneLeadingSurrogate
  | trailingComma
  | trailingCharacters
  | unexpectedEndOfHexEscape
  | recursionLimit
  | message (text : String)
  deriving DecidableEq, Repr

namespace ErrorCode

/-- The words of a cause. -/
def text : ErrorCode → String
  | eofList => "EOF while parsing a list"
  | eofObject => "EOF while parsing an object"
  | eofString => "EOF while parsing a string"
  | eofValue => "EOF while parsing a value"
  | expectedColon => "expected `:`"
  | expectedListCommaOrEnd => "expected `,` or `]`"
  | expectedObjectCommaOrEnd => "expected `,` or `\x7d`"
  | expectedIdent => "expected ident"
  | expectedValue => "expected value"
  | invalidEscape => "invalid escape"
  | invalidNumber => "invalid number"
  | numberOutOfRange => "number out of range"
  | controlCharacter => "control character (\\u0000-\\u001F) found while parsing a string"
  | keyMustBeString => "key must be a string"
  | loneLeadingSurrogate => "lone leading surrogate in hex escape"
  | trailingComma => "trailing comma"
  | trailingCharacters => "trailing characters"
  | unexpectedEndOfHexEscape => "unexpected end of hex escape"
  | recursionLimit => "recursion limit exceeded"
  | message text => text

end ErrorCode

/-- A reading error and its place. -/
structure ReadError where
  code : ErrorCode
  line : Nat
  column : Nat
  deriving DecidableEq, Repr

namespace ReadError

/-- The text of the error. -/
def message (e : ReadError) : String :=
  if e.line = 0 then e.code.text
  else e.code.text ++ " at line " ++ toString e.line ++ " column " ++ toString e.column

/-- The debug view of the error. -/
def debug (e : ReadError) : String :=
  "Error(" ++ Text.debugQuote e.code.text ++ ", line: " ++ toString e.line ++ ", column: " ++
    toString e.column ++ ")"

end ReadError

end ObjectMapping.Json
