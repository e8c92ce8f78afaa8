import ObjectMapping.Syntax.Grammar
import ObjectMapping.Tokens.Lexer

/-!
# Item declarations

A `Syntax.Declaration` is a `struct`, `enum` or `union` declaration read from source text: its
attributes, name, generic parameters, `where` predicates and, for a struct, its fields. Types
and predicates are kept as the tokens that generated code writes for them (see
`ObjectMapping.Syntax.Grammar`); attributes keep their path and arguments so that later stages
can read the ones addressed to them.

`Declaration.parse` reads the whole text: tokens (`Tokens.lex`), then one declaration with
nothing after it. It fails when the text has no reading as tokens, or with the message of the
item grammar.
-/

namespace ObjectMapping.Syntax

open ObjectMapping.Syntax.Parser

/-- The fields of a struct. -/
inductive Fields where
  | named (fields : List Field)
  | unnamed
  | unit
  deriving Inhabited

/-- What kind of item is declared. -/
inductive Body where
  | struct (fields : Fields)
  | enum
  | union
  deriving Inhabited

/-- A declaration. Each generic parameter comes with the comma written after it, if any. -/
structure Declaration where
  attrs : List Attribute
  ident : Token
  params : List (GenericParam × List Token)
  /-- The tokens of each `where` predicate. -/
  predicates : List (List Token)
  body : Body
  deriving Inhabited

/-- A declaration. -/
def declaration (n : Nat) : Parser Declaration := do
  let attrs ← attributes n
  let _ ← visibility n
  if ← peek (kw "struct") then
    let _ ← keyword "struct"
    let ident ← Parser.ident
    let params ← generics n
    let (preds, shape) ← structData n
    let fields : Fields := match shape with
      | .named fs _ => .named fs
      | .unnamed _ => .unnamed
      | .unit => .unit
    return { attrs, ident, params, predicates := (preds.getD []).map (·.1), body := .struct fields }
  if ← peek (kw "enum") then
    let _ ← keyword "enum"
    let ident ← Parser.ident
    let params ← generics n
    let preds := (← whereClause? n).getD []
    let body ← group .brace
    let _ ← within .brace body (variants n)
    return { attrs, ident, params, predicates := preds.map (·.1), body := .enum }
  if ← peek (kw "union") then
    let _ ← keyword "union"
    let ident ← Parser.ident
    let params ← generics n
    let preds := (← whereClause? n).getD []
    let _ ← bracedFields n
    return { attrs, ident, params, predicates := preds.map (·.1), body := .union }
  expected ["`struct`", "`enum`", "`union`"]

/-- Why a text is not a declaration: it has no reading as tokens, or its tokens are no
declaration, with the message of the item grammar. -/
inductive ReadFailure where
  | untokenizable
  | invalid (message : String)
  deriving Inhabited

/-- The message of a failure to read a declaration. -/
def ReadFailure.message : ReadFailure → String
  | .untokenizable => "cannot parse string into token stream"
  | .invalid message => message

namespace Declaration

/-- Reads a declaration from source text: tokens, then one declaration and nothing after it. -/
def parse (source : String) : Except ReadFailure Declaration :=
  match Tokens.lex source with
  | none => .error .untokenizable
  | some ts => (Parser.runAll (declaration (fuelFor ts)) ts).mapError .invalid

end Declaration

end ObjectMapping.Syntax
