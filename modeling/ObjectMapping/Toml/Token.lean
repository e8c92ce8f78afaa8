/-!
# TOML tokens

A TOML text read as a flat sequence of tokens, each with the span of characters it covers.
The tokens know nothing of keys, values or tables yet; they only decide where one piece of
text ends and the next begins:

* the punctuation `.`, `=`, `,`, `[`, `]`, `{`, `}`, one character each;
* white space (spaces and tabs), a comment (`#` to the end of the line), a line break
  (`\n`, `\r\n`, or a carriage return on its own, which a later check refuses);
* the four kinds of string, from the opening quotes to the closing ones, or to the end of
  the line (one-line strings) or of the text (multi-line strings) when they are not closed;
  in a basic string a backslash takes a backslash or a quote right after it with it, so that
  neither ends the string, and nothing else;
* an atom: any other run of characters, up to the next punctuation, blank, `#` or line break.
  Bare keys, numbers, booleans, dates and times are atoms. Quotes do not end an atom, so
  `abc"def"` is one atom, which the decoder then refuses as a whole.

`Toml.tokenize` gives the tokens of a text, always ending with `eof`.
-/

namespace ObjectMapping.Toml

/-- A span of characters: `start` inclusive, `stop` exclusive. -/
structure Span where
  start : Nat
  stop : Nat
  deriving DecidableEq, Repr, Inhabited

/-- The empty span at a place. -/
def Span.at (p : Nat) : Span := ⟨p, p⟩

/-- The kinds of token. -/
inductive TokenKind where
  | dot
  | equals
  | comma
  | leftBracket
  | rightBracket
  | leftBrace
  | rightBrace
  | whitespace
  | comment
  | newline
  | basicString
  | literalString
  | multilineBasicString
  | multilineLiteralString
  | atom
  | eof
  deriving DecidableEq, Repr, Inhabited

/-- A token: its kind and span. -/
structure Token where
  kind : TokenKind
  span : Span
  deriving Repr, Inhabited

/-- The kind of a one-character punctuation token. -/
def punctuationKind? : Char → Option TokenKind
  | '.' => some .dot
  | '=' => some .equals
  | ',' => some .comma
  | '[' => some .leftBracket
  | ']' => some .rightBracket
  | '{' => some .leftBrace
  | '}' => some .rightBrace
  | _ => none

/-- Whether a character ends an atom: punctuation, a blank, `#` or a line break. -/
def endsAtom (c : Char) : Bool :=
  (punctuationKind? c).isSome || c == ' ' || c == '\t' || c == '#' || c == '\r' ||
    c == '\n'

/-- The length of a basic string's body and closing quote: up to an unescaped `"`, or up to a
line feed or the end when it is not closed. A backslash takes a backslash or a quote right
after it with it; a line feed after a backslash still ends the string. -/
def basicLength : List Char → Nat
  | [] => 0
  | '"' :: _ => 1
  | '\n' :: _ => 0
  | '\\' :: '\\' :: rest => 2 + basicLength rest
  | '\\' :: '"' :: rest => 2 + basicLength rest
  | _ :: rest => 1 + basicLength rest

/-- The length of the body and closing quote of a literal string: up to `'`, or up to a line
feed or the end. -/
def literalLength : List Char → Nat
  | [] => 0
  | '\'' :: _ => 1
  | '\n' :: _ => 0
  | _ :: rest => 1 + literalLength rest

/-- Up to two more quote characters right after a closing delimiter belong to the string. -/
def extraQuotes (q : Char) : List Char → Nat
  | c :: d :: _ => if c == q then (if d == q then 2 else 1) else 0
  | [c] => if c == q then 1 else 0
  | [] => 0

/-- The length of a multi-line string's body and closing delimiter (three `q`, with up to two
more), or to the end of the text when it is not closed. In a basic string (`escapes`) a
backslash takes the character after it with it: only a backslash or a quote there could end
the string otherwise, and a line feed does not end a multi-line string. -/
def multilineLength (q : Char) (escapes : Bool) : List Char → Nat
  | [] => 0
  | c :: rest =>
    if c == q && rest.take 2 == [q, q] then 3 + extraQuotes q (rest.drop 2)
    else if escapes && c == '\\' then
      match rest with
      | [] => 1
      | _ :: after => 2 + multilineLength q escapes after
    else 1 + multilineLength q escapes rest

/-- The kind and length of the token at the front of a non-empty text. -/
def scanToken : List Char → TokenKind × Nat
  | [] => (.eof, 0)
  | c :: rest =>
    match punctuationKind? c with
    | some k => (k, 1)
    | none =>
      if c == ' ' || c == '\t' then
        (.whitespace, 1 + (rest.takeWhile fun d => d == ' ' || d == '\t').length)
      else if c == '#' then (.comment, 1 + (rest.takeWhile fun d => d != '\r' && d != '\n').length)
      else if c == '\n' then (.newline, 1)
      else if c == '\r' then
        (.newline, match rest with
          | '\n' :: _ => 2
          | _ => 1)
      else if c == '"' then
        match rest with
        | '"' :: '"' :: body => (.multilineBasicString, 3 + multilineLength '"' true body)
        | _ => (.basicString, 1 + basicLength rest)
      else if c == '\'' then
        match rest with
        | '\'' :: '\'' :: body => (.multilineLiteralString, 3 + multilineLength '\'' false body)
        | _ => (.literalString, 1 + literalLength rest)
      else (.atom, 1 + (rest.takeWhile fun d => !endsAtom d).length)

/-- The tokens of a text from position `p`, ending with `eof`; `fuel` exceeds the number of
characters left. -/
def tokensFrom (fuel p : Nat) (cs : List Char) : List Token :=
  match fuel, cs with
  | 0, _ | _, [] => [⟨.eof, Span.at p⟩]
  | fuel + 1, c :: rest =>
    let (kind, n) := scanToken (c :: rest)
    let n := max n 1
    ⟨kind, ⟨p, p + n⟩⟩ :: tokensFrom fuel (p + n) ((c :: rest).drop n)

/-- The tokens of a text whose first character is at position `p` of the whole text. -/
def tokenize (p : Nat) (cs : List Char) : List Token := tokensFrom (cs.length + 1) p cs

end ObjectMapping.Toml
