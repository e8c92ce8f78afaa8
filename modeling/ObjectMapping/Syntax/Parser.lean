import ObjectMapping.Tokens.Tree

/-!
# Parsing token trees

A `Syntax.Parser` reads the trees of one group at a time and fails with a message. The rules
for messages are those of the item grammar this library reads:

* A failed punctuation (`expected `,``) is reported as it is. Other failures — a missing
  keyword, identifier, literal, group, or a choice among several (`Syntax.expected`) — are
  reported with `unexpected end of input, ` in front when nothing is left in the group.
* A choice among several names them all: `expected X`, `expected X or Y`, or
  `expected one of: X, Y, Z`.
* A group whose trees are not all read is not an error at once: the first such group is
  remembered and reported at the end (`unexpected token, expected `)``) unless the parse fails
  earlier. Trees left over in the whole input are `unexpected token`.

Peeking looks at the trees without reading them; a lifetime (`'a`) counts as one tree.
-/

namespace ObjectMapping.Syntax

/-- The trees not yet read in the current group, and the delimiter of the first finished group
that had trees left over. -/
structure ParseState where
  tokens : List Token
  leftover : Option Delimiter := none

/-- A parser: reads trees and gives a value, or fails with a message. -/
abbrev Parser := StateT ParseState (Except String)

/-- Whether a tree is the identifier `name`, not raw. -/
def isKeyword (name : String) : Token → Bool
  | .ident n false => n == name
  | _ => false

/-- The words that are not identifiers unless written raw. -/
def reservedWords : List String :=
  ["_", "abstract", "as", "async", "await", "become", "box", "break", "const", "continue",
    "crate", "do", "dyn", "else", "enum", "extern", "false", "final", "fn", "for", "if", "impl",
    "in", "let", "loop", "macro", "match", "mod", "move", "mut", "override", "priv", "pub", "ref",
    "return", "Self", "self", "static", "struct", "super", "trait", "true", "try", "type",
    "typeof", "unsafe", "unsized", "use", "virtual", "where", "while", "yield"]

/-- Whether a tree is an identifier that may name something. -/
def isPlainIdent : Token → Bool
  | .ident _ true => true
  | .ident n false => !reservedWords.contains n
  | _ => false

/-- Whether a tree is any identifier, reserved words included. -/
def isAnyIdent : Token → Bool
  | .ident _ _ => true
  | _ => false

/-- Whether a tree is a literal. -/
def isLiteralToken : Token → Bool
  | .literal _ => true
  | _ => false

/-- Whether the trees start with the characters of an operator, each but the last joined. -/
def peekPunct (s : String) (ts : List Token) : Bool :=
  let rec go : List Char → List Token → Bool
    | [], _ => false
    | [c], .punct p _ :: _ => p == c
    | c :: cs, .punct p sp :: rest => p == c && sp == .joint && go cs rest
    | _, _ => false
  go s.toList ts

/-- Whether the trees start with a lifetime. -/
def peekLifetime : List Token → Bool
  | .punct '\'' .joint :: .ident _ _ :: _ => true
  | _ => false

/-- Whether the trees start with a literal: a literal tree, `true`, `false`, or `-` before a
number. -/
def peekLiteral : List Token → Bool
  | .literal _ :: _ => true
  | .ident n false :: _ => n == "true" || n == "false"
  | .punct '-' _ :: .literal t :: _ =>
    match t.toList with
    | c :: _ => c.isDigit
    | [] => false
  | _ => false

/-- Whether the text after an `e` in a decimal literal makes it a float: digits after the `e`
(and underscores), with no sign among them and no other character before them. -/
def exponentMakesFloat : List Char → Bool → Bool
  | [], hasExponent => hasExponent
  | c :: rest, hasExponent =>
    if c == '_' then exponentMakesFloat rest hasExponent
    else if c == '-' || c == '+' then true
    else if c.isDigit then exponentMakesFloat rest true
    else hasExponent

/-- The digits of an integer literal after its base prefix: the value and the suffix. -/
def integerDigits (base : Nat) : List Char → Nat → Bool → Option (Nat × String)
  | [], value, hasDigit => if hasDigit then some (value, "") else none
  | c :: rest, value, hasDigit =>
    let digit? : Option Nat :=
      if c.isDigit then some (c.toNat - '0'.toNat)
      else if base > 10 && 'a' ≤ c && c ≤ 'f' then some (c.toNat - 'a'.toNat + 10)
      else if base > 10 && 'A' ≤ c && c ≤ 'F' then some (c.toNat - 'A'.toNat + 10)
      else none
    if c == '_' then integerDigits base rest value hasDigit
    else if base == 10 && c == '.' then none
    else if base == 10 && (c == 'e' || c == 'E') && exponentMakesFloat rest false then none
    else
      match digit? with
      | some d => if d ≥ base then none else integerDigits base rest (base * value + d) true
      | none => if hasDigit then some (value, String.ofList (c :: rest)) else none

/-- The value and suffix of an integer literal's text (`0x1F_u8` is 31 and `u8`); `none` for
any other literal, floats included. -/
def integerParts? (t : String) : Option (Nat × String) :=
  match t.toList with
  | '0' :: 'x' :: r => integerDigits 16 r 0 false
  | '0' :: 'o' :: r => integerDigits 8 r 0 false
  | '0' :: 'b' :: r => integerDigits 2 r 0 false
  | r@(c :: _) => if c.isDigit then integerDigits 10 r 0 false else none
  | [] => none

/-- Whether a literal's text is a float: a number that is not an integer. -/
def isFloatText (t : String) : Bool :=
  match t.toList with
  | c :: _ => c.isDigit && (integerParts? t).isNone
  | [] => false

/-- Whether the trees start with a group of the given delimiter. -/
def peekGroup (d : Delimiter) : List Token → Bool
  | .group d' _ :: _ => d' == d
  | _ => false

/-- The trees after the first; a lifetime is one. -/
def skipOne : List Token → List Token
  | .punct '\'' .joint :: .ident _ _ :: rest => rest
  | _ :: rest => rest
  | [] => []

/-- The trees after the first `k`. -/
def skipN : Nat → List Token → List Token
  | 0, ts => ts
  | k + 1, ts => skipN k (skipOne ts)

/-- The message of a choice among several expected things. -/
def expectedMessage : List String → String
  | [] => "unexpected token"
  | [a] => "expected " ++ a
  | [a, b] => "expected " ++ a ++ " or " ++ b
  | items => "expected one of: " ++ ", ".intercalate items

/-- The message of trees left over in a group. -/
def leftoverMessage : Delimiter → String
  | .paren => "unexpected token, expected `)`"
  | .brace => "unexpected token, expected `\x7d`"
  | .bracket => "unexpected token, expected `]`"
  | .none => "unexpected token"

/-- A code span of a text, for messages. -/
def quoted (s : String) : String := "`" ++ s ++ "`"

namespace Parser

/-- The trees not yet read. -/
def rest : Parser (List Token) := do pure (← get).tokens

/-- Whether the group is read to its end. -/
def atEnd : Parser Bool := do pure (← get).tokens.isEmpty

/-- Whether the trees start as a test says. -/
def peek (p : List Token → Bool) : Parser Bool := do pure (p (← get).tokens)

/-- Whether the trees after the first `k` start as a test says. -/
def peekAt (k : Nat) (p : List Token → Bool) : Parser Bool := do pure (p (skipN k (← get).tokens))

/-- Fails with a message as it is. -/
def fail (message : String) : Parser α := throw message

/-- Fails with a message, after `unexpected end of input, ` when the group is read to its end. -/
def failHere (message : String) : Parser α := do
  if (← get).tokens.isEmpty then throw ("unexpected end of input, " ++ message) else throw message

/-- Fails naming the things that were expected here. -/
def expected (items : List String) : Parser α := do
  match items with
  | [] => if (← get).tokens.isEmpty then throw "unexpected end of input" else throw "unexpected token"
  | _ => failHere (expectedMessage items)

/-- Reads one tree. -/
def next : Parser (Option Token) := do
  let s ← get
  match s.tokens with
  | t :: rest => set { s with tokens := rest }; pure (some t)
  | [] => pure none

/-- Reads an operator; its tokens as they are written out, each character but the last joined. -/
def punct (s : String) : Parser (List Token) := do
  let st ← get
  if peekPunct s st.tokens then
    set { st with tokens := st.tokens.drop s.length }
    pure (Tokens.op s)
  else throw ("expected " ++ quoted s)

/-- Reads an operator if it is next. -/
def punct? (s : String) : Parser (Option (List Token)) := do
  if peekPunct s (← get).tokens then some <$> punct s else pure none

/-- Reads a keyword. -/
def keyword (k : String) : Parser (List Token) := do
  let st ← get
  match st.tokens with
  | t :: rest =>
    if isKeyword k t then set { st with tokens := rest }; pure [t]
    else failHere ("expected " ++ quoted k)
  | [] => failHere ("expected " ++ quoted k)

/-- Reads a keyword if it is next. -/
def keyword? (k : String) : Parser (Option (List Token)) := do
  if (← peek fun ts => match ts with | t :: _ => isKeyword k t | [] => false) then
    some <$> keyword k
  else pure none

/-- Reads an identifier that may name something. -/
def ident : Parser Token := do
  let st ← get
  match st.tokens with
  | t :: rest =>
    if isPlainIdent t then set { st with tokens := rest }; pure t
    else match t with
      | .ident n _ => failHere ("expected identifier, found keyword " ++ quoted n)
      | _ => failHere "expected identifier"
  | [] => failHere "expected identifier"

/-- Reads any identifier, reserved words included. -/
def identAny : Parser Token := do
  let st ← get
  match st.tokens with
  | t :: rest =>
    if isAnyIdent t then set { st with tokens := rest }; pure t else failHere "expected ident"
  | [] => failHere "expected ident"

/-- Reads a lifetime; its tokens. -/
def lifetime : Parser (List Token) := do
  let st ← get
  match st.tokens with
  | .punct '\'' .joint :: .ident n raw :: rest =>
    set { st with tokens := rest }; pure [.punct '\'' .joint, .ident n raw]
  | _ => failHere "expected lifetime"

/-- Reads a literal: a literal tree, `true` or `false`, or `-` and a number as one negative
literal. A negative literal is written out again as an unjoined `-` and the number, the way a
token stream takes it in. -/
def literal : Parser (List Token) := do
  let st ← get
  match st.tokens with
  | .literal t :: rest => set { st with tokens := rest }; pure [.literal t]
  | .ident n false :: rest =>
    if n == "true" || n == "false" then set { st with tokens := rest }; pure [.ident n false]
    else failHere "expected literal"
  | .punct '-' _ :: .literal t :: rest =>
    if peekLiteral st.tokens then
      set { st with tokens := rest }; pure [.punct '-' .alone, .literal t]
    else failHere "expected literal"
  | _ => failHere "expected literal"

/-- The name of a delimiter in messages. -/
def delimiterName : Delimiter → String
  | .paren => "parentheses"
  | .bracket => "square brackets"
  | .brace => "curly braces"
  | .none => "invisible group"

/-- Reads a group of the given delimiter; its trees. -/
def group (d : Delimiter) : Parser (List Token) := do
  let st ← get
  match st.tokens with
  | .group d' body :: rest =>
    if d' == d then set { st with tokens := rest }; pure body
    else failHere ("expected " ++ delimiterName d)
  | _ => failHere ("expected " ++ delimiterName d)

/-- Runs a parser on the trees of a group of the given delimiter. Trees it leaves are
remembered as the first leftover, unless one is remembered already. -/
def within (d : Delimiter) (body : List Token) (p : Parser α) : Parser α := do
  let outer ← get
  set ({ tokens := body, leftover := outer.leftover } : ParseState)
  let a ← p
  let inner ← get
  let leftover := if inner.leftover.isNone && !inner.tokens.isEmpty then some d else inner.leftover
  set { outer with leftover := leftover }
  pure a

/-- Runs a parser and keeps what it read, or gives `none` and reads nothing when it fails. -/
def attempt (p : Parser α) : Parser (Option α) := do
  let s ← get
  match p.run s with
  | .ok (a, s') => set s'; pure (some a)
  | .error _ => set s; pure none

/-- Whether a parser would succeed here; reads nothing. -/
def succeeds (p : Parser α) : Parser Bool := do
  let s ← get
  pure (match p.run s with
    | .ok _ => true
    | .error _ => false)

/-- Runs a parser on a whole sequence of trees: its value, or the first failure, the first
leftover in a group, or trees left over at the end. -/
def runAll (p : Parser α) (ts : List Token) : Except String α :=
  match p.run { tokens := ts } with
  | .error e => .error e
  | .ok (a, s) =>
    match s.leftover with
    | some d => .error (leftoverMessage d)
    | none => if s.tokens.isEmpty then .ok a else .error (leftoverMessage .none)

end Parser

end ObjectMapping.Syntax
