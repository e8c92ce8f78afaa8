import ObjectMapping.Text.Quote

/-!
# Token trees

Source text and generated code are sequences of token trees: a group of trees between a pair
of brackets, an identifier, one punctuation character, or a literal kept as the text it was
written with. A punctuation character knows whether it is joined to the one after it, which is
how `::` and `->` are two characters and still one operator.

`Token.renderList` writes trees as text: one space between two trees, none after a joined
punctuation character; a group is its brackets around its contents, a brace group with a space
inside each brace when it is not empty. The builders (`Tokens.words`, `Tokens.paren`, …) make
the trees that generated code is written with.
-/

namespace ObjectMapping

/-- The brackets around a group; `none` groups a sequence without writing brackets. -/
inductive Delimiter where
  | paren
  | bracket
  | brace
  | none
  deriving DecidableEq, Repr, Inhabited

/-- Whether a punctuation character is joined to the character after it. -/
inductive Spacing where
  | alone
  | joint
  deriving DecidableEq, Repr, Inhabited

/-- A token tree. An identifier written `r#name` is `ident name true`. -/
inductive Token where
  | group (delimiter : Delimiter) (body : List Token)
  | ident (name : String) (raw : Bool)
  | punct (c : Char) (spacing : Spacing)
  | literal (text : String)
  deriving Repr, Inhabited

namespace Token

/-- The text of an identifier, with its `r#` when it is raw. -/
def identText (name : String) (raw : Bool) : String := if raw then "r#" ++ name else name

/-- Whether a tree is a joined punctuation character. -/
def isJoint : Token → Bool
  | .punct _ .joint => true
  | _ => false

mutual
/-- The text of a tree. -/
def render : Token → String
  | .group d body =>
    let inner := renderList body
    match d with
    | .paren => "(" ++ inner ++ ")"
    | .bracket => "[" ++ inner ++ "]"
    | .brace => if body.isEmpty then "\x7b \x7d" else "\x7b " ++ inner ++ " \x7d"
    | .none => inner
  | .ident name raw => identText name raw
  | .punct c _ => c.toString
  | .literal text => text

/-- The text of a sequence of trees. -/
def renderList : List Token → String
  | [] => ""
  | t :: rest => render t ++ renderAfter t.isJoint rest

/-- The text of the trees after a first one: a space before each, unless the one before it is
a joined punctuation character. -/
def renderAfter : Bool → List Token → String
  | _, [] => ""
  | joined, t :: rest => (if joined then "" else " ") ++ render t ++ renderAfter t.isJoint rest
end

mutual
/-- The number of trees in a tree, itself included. -/
def count : Token → Nat
  | .group _ body => countList body + 1
  | _ => 1

/-- The number of trees in a sequence, nested ones included. -/
def countList : List Token → Nat
  | [] => 0
  | t :: rest => count t + countList rest
end

/-- A string literal for a text: each character as its debug escape, except that a single
quote is written as it is and a NUL before an octal digit is written `\x00`. -/
def stringLiteral (s : String) : Token :=
  let rec go : List Char → String
    | [] => ""
    | c :: rest =>
      let here :=
        if c == '\x00' then
          (match rest with
            | d :: _ => if '0' ≤ d && d ≤ '7' then "\\x00" else "\\0"
            | [] => "\\0")
        else if c == '\'' then "'"
        else Text.debugEscape true c
      here ++ go rest
  .literal ("\"" ++ go s.toList ++ "\"")

/-- A literal of a machine-word count, `3usize`. -/
def usizeLiteral (n : Nat) : Token := .literal (toString n ++ "usize")

end Token

namespace Tokens

/-- Whether a character is one of the punctuation characters. -/
def isPunctChar (c : Char) : Bool := "~!@#$%^&*-=+|;:,<.>/?'".contains c

/-- An operator: its characters, each joined to the next. -/
def op (s : String) : List Token :=
  let rec go : List Char → List Token
    | [] => []
    | [c] => [.punct c .alone]
    | c :: rest => .punct c .joint :: go rest
  go s.toList

/-- One word of a template: an operator, a lifetime (`'static`), an empty group `()`, a literal
(a digit or a quote first) or an identifier. -/
def word (w : String) : List Token :=
  match w.toList with
  | [] => []
  | ['(', ')'] => [.group .paren []]
  | '\'' :: rest => [.punct '\'' .joint, .ident (String.ofList rest) false]
  | c :: _ =>
    if w.toList.all isPunctChar then op w
    else if c.isDigit || c == '"' then [.literal w]
    else [.ident w false]

/-- A template of words separated by single spaces. -/
def words (s : String) : List Token := ((s.splitOn " ").filter (· ≠ "")).flatMap word

def paren (body : List Token) : List Token := [.group .paren body]
def bracket (body : List Token) : List Token := [.group .bracket body]
def brace (body : List Token) : List Token := [.group .brace body]

/-- Items with a separator between them. -/
def separated (sep : List Token) : List (List Token) → List Token
  | [] => []
  | [x] => x
  | x :: rest => x ++ sep ++ separated sep rest

/-- Items each followed by a separator. -/
def terminated (sep : List Token) (items : List (List Token)) : List Token :=
  items.flatMap (· ++ sep)

end Tokens

end ObjectMapping
