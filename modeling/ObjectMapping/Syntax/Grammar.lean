import ObjectMapping.Syntax.Parser

/-!
# Types, paths, bounds, expressions, statements, patterns and items

The grammar of the parts of an item declaration that nest: types, paths with their generic
arguments, trait bounds, generic parameters and `where` clauses, attributes, fields and
variants, expressions with the blocks, statements and patterns inside them, and the items a
block or module may hold (functions, constants, statics, `use`, type aliases, structs, enums,
unions, traits, impls, modules, foreign blocks and macros). Each parser gives the tokens of
what it read, written out again the way generated code writes them: every operator as its
characters, each but the last joined (`Tokens.op`), identifiers and literals as they were
written, separators and trailing separators kept, lifetime parameters before the others, and
an empty `where` clause left out.
Bracket groups read as a whole (macro bodies, attribute arguments) keep their trees as they
are, and so do the forms that are kept as written: `become`, `builtin #`, `box` patterns, and
items with no structured reading, such as a function without a body outside a trait, a
constant without a value, or an impl of something that is not a trait path.

Beside its tokens a type gives its `TypeForm`, which is what the grammar around it needs to
know: whether it is a path, and of which kind. The parsers take a fuel argument that bounds
the depth of nesting and the length of every loop; `Syntax.fuelFor` is enough for any input.
-/

namespace ObjectMapping.Syntax

open ObjectMapping.Syntax.Parser

/-- What the grammar around a type needs to know of it. -/
inductive TypeForm where
  /-- A path: `qualified` when it has a `<T as Trait>` self; `simple` when it is one segment with
  no leading `::` and no parenthesized arguments; `modStyle` when no segment has arguments. -/
  | path (qualified simple modStyle : Bool)
  /-- A trait object written without `dyn`: whether it is a single bound with no `+` after it. -/
  | bareObject (single : Bool)
  /-- A type in parentheses, `(T)`. -/
  | parenthesized
  | other
  deriving DecidableEq, Inhabited

/-- Whether a type is a path without a qualified self. -/
def TypeForm.isPlainPath : TypeForm → Bool
  | .path false _ _ => true
  | _ => false

/-- What the grammar around an expression needs to know of it. -/
inductive ExprForm where
  /-- A range, which no operator, field, method call or `?` may follow. -/
  | range
  /-- A comparison, which may not be compared again. -/
  | comparison
  /-- An expression that ends in a block and stands as a statement or match arm on its own:
  `if`, `match`, a loop, a block, `unsafe`, `const` or `try` block. -/
  | block
  /-- A macro call, and whether its delimiter is braces. -/
  | macroCall (brace : Bool)
  /-- An expression kept as it was written, trees and spacing. -/
  | verbatim
  | other
  deriving DecidableEq, Inhabited

/-- What the grammar around a pattern needs to know of it. -/
inductive PatForm where
  /-- A range pattern with an end missing: `a..` or `..=b`. -/
  | halfRange
  /-- The rest pattern `..`. -/
  | rest
  | other
  deriving DecidableEq, Inhabited

/-- The arguments of a path segment. -/
inductive ArgsForm where
  | none
  | angle
  | paren
  deriving DecidableEq, Inhabited

/-- A parsed path: its tokens, and the identifier and argument form of each segment. -/
structure PathOut where
  tokens : List Token
  leadingColon : Bool
  segments : List (Token × ArgsForm)
  deriving Inhabited

/-- A path with no segment arguments. -/
def PathOut.modStyle (p : PathOut) : Bool := p.segments.all (·.2 == .none)

/-- A path of one segment, no leading `::` and no parenthesized arguments. -/
def PathOut.simple (p : PathOut) : Bool :=
  !p.leadingColon && p.segments.length == 1 && p.segments.all (·.2 != .paren)

/-- What a parsed bound is: a trait, a lifetime, or the parameters an opaque type captures. -/
inductive BoundKind where
  | trait
  | lifetime
  | capture
  deriving DecidableEq, Inhabited

/-- An attribute: its path segments, its arguments, and its tokens. -/
inductive MetaForm where
  /-- `#[path]` -/
  | path
  /-- `#[path(…)]`, with the trees inside the group. -/
  | list (delimiter : Delimiter) (body : List Token)
  /-- `#[path = value]` -/
  | nameValue
  deriving Inhabited

structure Attribute where
  leadingColon : Bool
  segments : List Token
  form : MetaForm
  tokens : List Token
  deriving Inhabited

/-- Whether an attribute's path is the single identifier `name`. -/
def Attribute.isNamed (a : Attribute) (name : String) : Bool :=
  !a.leadingColon && match a.segments with
    | [t] => isKeyword name t
    | _ => false

/-- A generic parameter. -/
inductive GenericParam where
  /-- A lifetime parameter, with its full tokens. -/
  | lifetime (tokens : List Token)
  /-- A type parameter: its attributes' tokens, identifier, bounds (empty when none) and full
  tokens. -/
  | type (attrs : List Token) (ident : Token) (bounds : List Token) (tokens : List Token)
  /-- A const parameter: attributes, identifier, type and full tokens. -/
  | const (attrs : List Token) (ident : Token) (ty : List Token) (tokens : List Token)
  deriving Inhabited

/-- The full tokens of a generic parameter. -/
def GenericParam.tokens : GenericParam → List Token
  | .lifetime ts => ts
  | .type _ _ _ ts => ts
  | .const _ _ _ ts => ts

/-- Fuel enough to parse a sequence of trees: one more than the number of trees in it. -/
def fuelFor (ts : List Token) : Nat := 2 * Token.countList ts + 4

/-- Peeks. -/
def kw (k : String) : List Token → Bool
  | t :: _ => isKeyword k t
  | [] => false

def plainIdentNext : List Token → Bool
  | t :: _ => isPlainIdent t
  | [] => false

def anyIdentNext : List Token → Bool
  | t :: _ => isAnyIdent t
  | [] => false

/-- The binary operators, longest first, with their binding strength: assignment 1, `||` 3,
`&&` 4, comparison 6, `|` 7, `^` 8, `&` 9, shifts 10, sums 11, products 12. -/
def binaryOperators : List (String × Nat) :=
  [("+=", 1), ("-=", 1), ("*=", 1), ("/=", 1), ("%=", 1), ("^=", 1), ("&=", 1), ("|=", 1),
    ("<<=", 1), (">>=", 1), ("&&", 4), ("||", 3), ("<<", 10), (">>", 10), ("==", 6), ("<=", 6),
    ("!=", 6), (">=", 6), ("+", 11), ("-", 11), ("*", 12), ("/", 12), ("%", 12), ("^", 8),
    ("&", 9), ("|", 7), ("<", 6), (">", 6)]

/-- The binary operator next, if any. -/
def binaryOperator? (ts : List Token) : Option (String × Nat) :=
  binaryOperators.find? fun (o, _) => peekPunct o ts

/-- The binding strength of what follows an expression: a binary operator, `=` (1), `..` (2),
`as` (13), or nothing (0). -/
def nextStrength (ts : List Token) : Nat :=
  match binaryOperator? ts with
  | some (_, p) => p
  | none =>
    if peekPunct "=" ts && !peekPunct "=>" ts then 1
    else if peekPunct ".." ts then 2
    else if kw "as" ts then 13
    else 0

/-- Whether a half-open range ends here, with no end expression. -/
def rangeEndsHere (allowStruct : Bool) (ts : List Token) : Bool :=
  ts.isEmpty || peekPunct "," ts || peekPunct ";" ts || (peekPunct "." ts && !peekPunct ".." ts) ||
    peekPunct "?" ts || peekPunct "=>" ts || (!allowStruct && peekGroup .brace ts) ||
    peekPunct "=" ts || peekPunct "+" ts || peekPunct "/" ts || peekPunct "%" ts ||
    peekPunct "^" ts || peekPunct ">" ts || peekPunct "<=" ts || peekPunct "!=" ts ||
    peekPunct "-=" ts || peekPunct "*=" ts || peekPunct "&=" ts || peekPunct "|=" ts ||
    peekPunct "<<=" ts || kw "as" ts

/-- The failure when fuel runs out. -/
def tooDeep : Parser α := fail "recursion limit reached"

/-- What a group of a parenthesized type held. -/
inductive ParenType where
  | tuple (tokens : List Token)
  | object (tokens : List Token)
  | maybeBound (tokens : List Token)
  | single (tokens : List Token) (form : TypeForm)
  deriving Inhabited

/-- A type used where it may not be followed by `+`. -/
abbrev TypeOut := List Token × TypeForm
abbrev ExprOut := List Token × ExprForm

/-- A macro's bracket group, taken as it is. -/
def macroBody : Parser (List Token) := do
  match ← next with
  | some (.group d body) =>
    if d == .none then failHere "expected delimiter" else pure [.group d body]
  | some t =>
    modify fun s => { s with tokens := t :: s.tokens }
    failHere "expected delimiter"
  | none => failHere "expected delimiter"


/-- The parameters after `use<`: lifetimes and identifiers separated by commas, up to `>`. -/
def capturedParams : Nat → Parser (List Token)
  | 0 => tooDeep
  | n + 1 => do
    let param ← if ← peek peekLifetime then lifetime
      else if ← peek plainIdentNext then (fun t => [t]) <$> Parser.ident
      else if ← peek (kw "Self") then (fun t => [t]) <$> identAny
      else if ← peek (peekPunct ">") then return []
      else expected ["lifetime", "identifier", "`>`"]
    if ← peek (peekPunct ",") then
      let comma ← punct ","
      pure (param ++ comma ++ (← capturedParams n))
    else if ← peek (peekPunct ">") then pure param
    else expected ["`,`", "`>`"]

/-- `use<'a, T>`: the generic parameters an opaque type captures. -/
def preciseCapture (n : Nat) : Parser (List Token) := do
  let u ← keyword "use"
  let lt ← punct "<"
  let params ← capturedParams n
  let gt ← punct ">"
  pure (u ++ lt ++ params ++ gt)

/-- The trees read since the state had `before` left, as they were written. -/
def readSince (before : List Token) : Parser (List Token) := do
  pure (before.take (before.length - (← rest).length))

/-- `..` or `..=`; `...` is not a range here. -/
def rangeLimits : Parser (List Token) := do
  if ← peek (peekPunct "..=") then punct "..="
  else if ← peek (peekPunct "...") then expected ["`..=`"]
  else if ← peek (peekPunct "..") then punct ".."
  else expected ["`..`", "`..=`"]

/-- The limits of a range pattern: `..`, `..=`, or the old `...` written out as `..=`; and
whether the range is closed. -/
def patternRangeLimits : Parser (List Token × Bool) := do
  if ← peek (peekPunct "..=") then pure (← punct "..=", true)
  else if ← peek (peekPunct "...") then
    let _ ← punct "..."
    pure (Tokens.op "..=", true)
  else if ← peek (peekPunct "..") then pure (← punct "..", false)
  else expected ["`..`", "`..=`", "`...`"]

/-- Whether an expression can begin here. -/
def canBeginExpr (ts : List Token) : Bool :=
  anyIdentNext ts || peekGroup .paren ts || peekGroup .bracket ts || peekGroup .brace ts ||
    peekLiteral ts || (peekPunct "!" ts && !peekPunct "!=" ts) ||
    (peekPunct "-" ts && !peekPunct "-=" ts && !peekPunct "->" ts) ||
    (peekPunct "*" ts && !peekPunct "*=" ts) || (peekPunct "|" ts && !peekPunct "|=" ts) ||
    (peekPunct "&" ts && !peekPunct "&=" ts) || peekPunct ".." ts ||
    (peekPunct "<" ts && !peekPunct "<=" ts && !peekPunct "<<=" ts) || peekPunct "::" ts ||
    peekLifetime ts || peekPunct "#" ts

/-- Whether a closure begins here: a bar, `move`, `for<…>`, `const` or `static`, or `async`
before a bar or `move`. -/
def closureStart (ts : List Token) : Bool :=
  let t1 := skipOne ts
  peekPunct "|" ts || kw "move" ts ||
    (kw "for" ts && peekPunct "<" t1 && (peekLifetime (skipN 2 ts) || peekPunct ">" (skipN 2 ts))) ||
    (kw "const" ts && !peekGroup .brace t1) || kw "static" ts ||
    (kw "async" ts && (peekPunct "|" t1 || kw "move" t1))

/-- Whether the tokens of an expression end in a brace group. -/
def endsInBrace (ts : List Token) : Bool :=
  match ts.getLast? with
  | some (.group .brace _) => true
  | _ => false

/-- Whether a statement here is an item: a visibility, `fn`, `struct`, `impl`, `use`, … -/
def itemStart (ts : List Token) : Bool :=
  let t1 := skipOne ts
  let t2 := skipN 2 ts
  kw "pub" ts || (kw "crate" ts && !peekPunct "::" t1) || kw "extern" ts || kw "use" ts ||
    (kw "static" ts && (kw "mut" t1 || plainIdentNext t1)) ||
    (kw "const" ts && !(peekGroup .brace t1 || kw "static" t1 ||
      (kw "async" t1 && !(kw "unsafe" t2 || kw "extern" t2 || kw "fn" t2)) ||
      kw "move" t1 || peekPunct "|" t1)) ||
    (kw "unsafe" ts && !peekGroup .brace t1) ||
    (kw "async" ts && (kw "unsafe" t1 || kw "extern" t1 || kw "fn" t1)) ||
    kw "fn" ts || kw "mod" ts || kw "type" ts || kw "struct" ts || kw "enum" ts ||
    (kw "union" ts && plainIdentNext t1) || (kw "auto" ts && kw "trait" t1) || kw "trait" ts ||
    (kw "default" ts && (kw "unsafe" t1 || kw "impl" t1)) || kw "impl" ts || kw "macro" ts

/-- Whether another alternative of a pattern follows: `|`, but not `||` or `|=`. -/
def orNext (ts : List Token) : Bool :=
  peekPunct "|" ts && !peekPunct "||" ts && !peekPunct "|=" ts

/-- An index written as an integer without suffix, written out again in decimal. -/
def indexOf (text : String) : Parser String :=
  match integerParts? text with
  | some (v, suffix) =>
    if !suffix.isEmpty then fail "expected unsuffixed integer"
    else if v ≥ Nat.pow 2 32 then fail "number too large to fit in target type"
    else pure (toString v)
  | none => fail "expected integer literal"

/-- A field name: an identifier, or an index; its tokens and whether it is named. -/
def member : Parser (List Token × Bool) := do
  if ← peek plainIdentNext then return ([← Parser.ident], true)
  match ← rest with
  | .literal t :: _ =>
    if (integerParts? t).isSome then
      let _ ← next
      return ([.literal (← indexOf t)], false)
    failHere "expected identifier or integer"
  | _ => failHere "expected identifier or integer"

/-- The fields a float literal stands for after a dot (`x.1.2` is two fields): each part an
index, with a dot between; and whether the literal ends in a dot. -/
def floatFields (t : String) : Parser (List Token × Bool) := do
  let trailing := t.endsWith "."
  let body := if trailing then String.ofList t.toList.dropLast else t
  let indexes ← (body.splitOn ".").mapM indexOf
  pure (Tokens.separated (Tokens.op ".") (indexes.map fun v => [Token.literal v]), trailing)


/-- What may not follow a cast. -/
def castFollow : Parser Unit := do
  let ts ← rest
  let kind :=
    if peekPunct "." ts && !peekPunct ".." ts then
      if kw "await" (skipOne ts) then some "`.await`"
      else if plainIdentNext (skipOne ts) &&
          (peekGroup .paren (skipN 2 ts) || peekPunct "::" (skipN 2 ts)) then some "a method call"
      else some "a field access"
    else if peekPunct "?" ts then some "`?`"
    else if peekGroup .bracket ts then some "indexing"
    else if peekGroup .paren ts then some "a function call"
    else none
  match kind with
  | some k => failHere ("casts cannot be followed by " ++ k)
  | none => pure ()


/-- Whether a string literal is next. -/
def stringLiteralNext : List Token → Bool
  | .literal t :: _ => t.startsWith "\"" || t.startsWith "r\"" || t.startsWith "r#"
  | _ => false

/-- Whether a function signature begins here: `const`, `async`, `unsafe` (or `safe` where
`allowSafe`), `extern` with an optional ABI string, then `fn`. -/
def signatureAhead (allowSafe : Bool) (ts : List Token) : Bool :=
  let ts := if kw "const" ts then skipOne ts else ts
  let ts := if kw "async" ts then skipOne ts else ts
  let ts := if kw "unsafe" ts then skipOne ts
    else if allowSafe && kw "safe" ts then skipOne ts else ts
  let ts := if kw "extern" ts then
      (let t := skipOne ts
       if stringLiteralNext t then skipOne t else t)
    else ts
  kw "fn" ts

/-- Whether `<` after `impl` begins generic parameters rather than a qualified path: it does
when `>`, `#` or `const` follows, or a lifetime or identifier and then `>`, `,`, `:` or `=`. -/
def chooseGenerics (ts : List Token) : Bool :=
  let t1 := skipOne ts
  let t2 := skipN 2 ts
  peekPunct "<" ts && (peekPunct ">" t1 || peekPunct "#" t1 ||
    ((peekLifetime t1 || plainIdentNext t1) &&
      (peekPunct ">" t2 || peekPunct "," t2 || (peekPunct ":" t2 && !peekPunct "::" t2) ||
        peekPunct "=" t2)) ||
    kw "const" t1)

/-- Whether a macro's path may begin here. -/
def macroPathStart (ts : List Token) : Bool :=
  plainIdentNext ts || kw "self" ts || kw "super" ts || kw "crate" ts || peekPunct "::" ts

/-- Whether a macro's group is in braces. -/
def isBraceGroup : List Token → Bool
  | [.group .brace _] => true
  | _ => false

/-- Whether the bounds of a `where` predicate end here; on a lifetime (not `typeBound`) any
colon ends them. -/
def whereEnds (typeBound : Bool) (ts : List Token) : Bool :=
  ts.isEmpty || peekGroup .brace ts || peekPunct "," ts || peekPunct ";" ts ||
    (peekPunct ":" ts && !(typeBound && peekPunct "::" ts)) || peekPunct "=" ts

/-- Generic parameters written out: lifetimes first, then the others in order, each with the
comma written after it, and a comma between the two groups where none was written. Nothing
when there are no parameters. -/
def genericsTokens (params : List (GenericParam × List Token)) : List Token :=
  let isLifetime : GenericParam → Bool := fun
    | .lifetime _ => true
    | _ => false
  let lifetimes := params.filter (isLifetime ·.1)
  let others := params.filter (!isLifetime ·.1)
  let separated := match lifetimes.getLast? with
    | some (_, comma) => !comma.isEmpty
    | none => true
  let written := fun (ps : List (GenericParam × List Token)) =>
    ps.flatMap fun (p, comma) => p.tokens ++ comma
  if params.isEmpty then []
  else
    Tokens.op "<" ++ written lifetimes ++
      (if others.isEmpty || separated then [] else Tokens.op ",") ++ written others ++ Tokens.op ">"

/-- A `where` clause written out: nothing when it has no predicates. -/
def whereTokens (preds : List (List Token × List Token)) : List Token :=
  if preds.isEmpty then [] else .ident "where" false :: preds.flatMap fun (p, comma) => p ++ comma

/-- A named field: its attributes, its identifier and the tokens of its type. -/
structure Field where
  attrs : List Attribute
  ident : Token
  ty : List Token
  deriving Inhabited

/-- The fields of a struct as written: named fields in braces (each field, and the tokens of the
group), unnamed fields in parentheses (the tokens of the group), or none. -/
inductive StructShape where
  | named (fields : List Field) (tokens : List Token)
  | unnamed (tokens : List Token)
  | unit
  deriving Inhabited

/-- A type alias as read: `type` and its name, generic parameters if written, whether `:` was
written and the bounds after it, the definition `= Type`, the `where` predicates if written, and
the `;`. -/
structure FlexibleType where
  head : List Token
  params : Option (List (GenericParam × List Token))
  colon : Bool
  bounds : List Token
  definition : Option (List Token)
  preds : Option (List (List Token × List Token))
  semi : List Token
  deriving Inhabited

/-- A type alias in a trait written out: the bounds after `:` when there are any, the default,
then the `where` clause. -/
def FlexibleType.traitTokens (f : FlexibleType) : List Token :=
  f.head ++ genericsTokens (f.params.getD []) ++
    (if f.bounds.isEmpty then [] else Tokens.op ":" ++ f.bounds) ++ f.definition.getD [] ++
    whereTokens (f.preds.getD []) ++ f.semi


mutual

/-- A type. `allowPlus`: whether `A + B` is read as one trait object here. -/
def type : Nat → Bool → Parser TypeOut
  | 0, _ => tooDeep
  | n + 1, allowPlus => do
    let forTokens ← if ← peek (kw "for") then some <$> boundLifetimes n else pure none
    if forTokens.isSome then
      let ok ← peek fun ts => plainIdentNext ts || kw "fn" ts || kw "unsafe" ts ||
        kw "extern" ts || kw "super" ts || kw "self" ts || kw "Self" ts || kw "crate" ts
      if !ok || (← peek (kw "dyn")) then
        expected ["identifier", "`fn`", "`unsafe`", "`extern`", "`super`", "`self`", "`Self`",
          "`crate`"]
    let lifetimes := forTokens.getD []
    if ← peek (peekGroup .paren) then
      let body ← group .paren
      let inner ← within .paren body (parenType n)
      match inner with
      | .tuple ts => pure (Tokens.paren ts, .other)
      | .object ts => pure (Tokens.paren ts, .parenthesized)
      | .maybeBound ts =>
        let more ← plusBounds n false
        pure (Tokens.paren ts ++ more, .other)
      | .single ts form =>
        let convertible := match form with
          | .path false _ _ => true
          | .bareObject true => true
          | _ => false
        if allowPlus && convertible && (← peek (peekPunct "+")) then
          let more ← plusBounds n false
          pure (Tokens.paren ts ++ more, .other)
        else pure (Tokens.paren ts, .parenthesized)
    else if (← peek (kw "fn")) || (← peek (kw "unsafe")) || (← peek (kw "extern")) then
      let ts ← bareFunction n
      pure (lifetimes ++ ts, .other)
    else if (← peek plainIdentNext) || (← peek (kw "super")) || (← peek (kw "self")) ||
        (← peek (kw "Self")) || (← peek (kw "crate")) || (← peek (peekPunct "::")) ||
        (← peek (peekPunct "<")) then
      let (ts, qualified, p) ← qualifiedPath n false
      if qualified then return (ts, .path true false false)
      if (← peek (peekPunct "!")) && !(← peek (peekPunct "!=")) && p.modStyle then
        let bang ← punct "!"
        let body ← macroBody
        return (ts ++ bang ++ body, .other)
      if forTokens.isSome || (allowPlus && (← peek (peekPunct "+"))) then
        if allowPlus then
          let (more, count, trailing) ← objectBounds n
          pure (lifetimes ++ ts ++ more, .bareObject (count == 0 && !trailing))
        else pure (lifetimes ++ ts, .bareObject true)
      else pure (ts, .path false p.simple p.modStyle)
    else if ← peek (kw "dyn") then
      let dyn ← keyword "dyn"
      let star ← punct? "*"
      let bounds ← traitObjectBounds n allowPlus
      pure (dyn ++ star.getD [] ++ bounds, .other)
    else if ← peek (peekGroup .bracket) then
      let body ← group .bracket
      let ts ← within .bracket body do
        let elem ← type n true
        if ← peek (peekPunct ";") then
          let semi ← punct ";"
          let len ← expr n
          pure (elem.1 ++ semi ++ len.1)
        else pure elem.1
      pure (Tokens.bracket ts, .other)
    else if ← peek (peekPunct "*") then
      let star ← punct "*"
      let qualifier ← if ← peek (kw "const") then keyword "const"
        else if ← peek (kw "mut") then keyword "mut"
        else expected ["`const`", "`mut`"]
      let elem ← type n false
      pure (star ++ qualifier ++ elem.1, .other)
    else if ← peek (peekPunct "&") then
      let amp ← punct "&"
      let life ← if ← peek peekLifetime then lifetime else pure []
      let mutability := (← keyword? "mut").getD []
      let elem ← type n false
      pure (amp ++ life ++ mutability ++ elem.1, .other)
    else if ← peek (peekPunct "!") then
      pure (← punct "!", .other)
    else if ← peek (kw "impl") then
      let impl ← keyword "impl"
      let (bounds, kinds) ← boundList n allowPlus true
      if !kinds.contains .trait then fail "at least one trait must be specified"
      pure (impl ++ bounds, .other)
    else if ← peek (kw "_") then
      pure (← keyword "_", .other)
    else if ← peek peekLifetime then
      let bounds ← traitObjectBounds n true
      pure (bounds, .bareObject false)
    else
      expected ((if forTokens.isSome then [] else ["`for`"]) ++ ["parentheses", "`fn`",
        "`unsafe`", "`extern`", "identifier", "`::`", "`<`", "`dyn`", "square brackets", "`*`",
        "`&`", "`!`", "`impl`", "`_`", "lifetime"])

/-- The inside of a parenthesized type. -/
def parenType : Nat → Parser ParenType
  | 0 => tooDeep
  | n + 1 => do
    if ← atEnd then return .tuple []
    if ← peek peekLifetime then return .object (← traitObjectBounds n true)
    if ← peek (peekPunct "?") then return .maybeBound (← traitBound n false).1
    let first ← type n true
    if ← peek (peekPunct ",") then
      let comma ← punct ","
      let rest ← typeList n
      return .tuple (first.1 ++ comma ++ rest)
    return .single first.1 first.2

/-- Types separated by commas up to the end of the group, a trailing comma allowed. -/
def typeList : Nat → Parser (List Token)
  | 0 => tooDeep
  | n + 1 => do
    if ← atEnd then return []
    let t ← type n true
    if ← atEnd then return t.1
    let comma ← punct ","
    let rest ← typeList n
    pure (t.1 ++ comma ++ rest)

/-- `+` and further bounds after a first one, as long as `+` follows. -/
def plusBounds : Nat → Bool → Parser (List Token)
  | 0, _ => tooDeep
  | n + 1, allowConst => do
    match ← punct? "+" with
    | none => pure []
    | some plus =>
      let (b, _) ← bound n allowConst false
      let rest ← plusBounds n allowConst
      pure (plus ++ b ++ rest)

/-- The bounds after the first of a trait object without `dyn`: `+` and a bound, while a bound
can start after the `+`; the tokens, the number of bounds read, and whether a `+` ends them. -/
def objectBounds : Nat → Parser (List Token × Nat × Bool)
  | 0 => tooDeep
  | n + 1 => do
    if !(← peek (peekPunct "+")) then return ([], 0, false)
    let plus ← punct "+"
    let canStart ← peek fun ts => anyIdentNext ts || peekPunct "::" ts || peekPunct "?" ts ||
      peekLifetime ts || peekGroup .paren ts
    if !canStart then return (plus, 0, true)
    let (b, _) ← bound n false false
    let (rest, count, trailing) ← objectBounds n
    pure (plus ++ b ++ rest, count + 1, trailing)

/-- The bounds of a trait object, which must name at least one trait. -/
def traitObjectBounds : Nat → Bool → Parser (List Token)
  | 0, _ => tooDeep
  | n + 1, allowPlus => do
    let (ts, kinds) ← boundList n allowPlus false
    if !kinds.contains .trait then fail "at least one trait is required for an object type"
    pure ts

/-- Bounds separated by `+`: one at least, more while `+` follows and a bound can start. The
bounds of `impl` (`implTrait`) may be `const` and may capture parameters with `use<…>`; those
of `dyn` may not. -/
def boundList : Nat → Bool → Bool → Parser (List Token × List BoundKind)
  | 0, _, _ => tooDeep
  | n + 1, allowPlus, implTrait => do
    let (b, k) ← bound n implTrait implTrait
    if !(allowPlus && (← peek (peekPunct "+"))) then return (b, [k])
    let plus ← punct "+"
    let canStart ← peek fun ts => anyIdentNext ts || peekPunct "::" ts || peekPunct "?" ts ||
      peekLifetime ts || peekGroup .paren ts || (implTrait && peekGroup .bracket ts)
    if !canStart then return (b ++ plus, [k])
    let (rest, ks) ← boundList n allowPlus implTrait
    pure (b ++ plus ++ rest, k :: ks)

/-- One bound: a lifetime, `use<…>` where `allowCapture`, or a trait bound, possibly in
parentheses. A `const` trait bound is kept as it was written. -/
def bound : Nat → Bool → Bool → Parser (List Token × BoundKind)
  | 0, _, _ => tooDeep
  | n + 1, allowConst, allowCapture => do
    if ← peek peekLifetime then return (← lifetime, .lifetime)
    if ← peek (kw "use") then
      let ts ← preciseCapture n
      if !allowCapture then fail "`use<...>` precise capturing syntax is not allowed here"
      return (ts, .capture)
    let before ← rest
    if ← peek (peekGroup .paren) then
      let body ← group .paren
      let (ts, isConst) ← within .paren body (traitBound n allowConst)
      if isConst then return (← readSince before, .trait)
      return (Tokens.paren ts, .trait)
    let (ts, isConst) ← traitBound n allowConst
    if isConst then return (← readSince before, .trait)
    pure (ts, .trait)

/-- A trait bound: `for<…>`, `[const]` or `const`, `?`, a path, and parenthesized arguments on
its last segment; its tokens, and whether it is a `const` bound. -/
def traitBound : Nat → Bool → Parser (List Token × Bool)
  | 0, _ => tooDeep
  | n + 1, allowConst => do
    let mut lifetimes ← if ← peek (kw "for") then some <$> boundLifetimes n else pure none
    let mut constTokens : List Token := []
    if ← peek (peekGroup .bracket) then
      let body ← group .bracket
      let c ← within .bracket body (keyword "const")
      if !allowConst then fail "`[const]` is not allowed here"
      constTokens := Tokens.bracket c
    else if ← peek (kw "const") then
      let c ← keyword "const"
      if !allowConst then fail "`const` is not allowed here"
      constTokens := c
    let modifier ← punct? "?"
    if lifetimes.isNone && modifier.isSome then
      lifetimes ← if ← peek (kw "for") then some <$> boundLifetimes n else pure none
    let p ← path n false
    let lastEmpty := match p.segments.getLast? with
      | some (_, .none) => true
      | _ => false
    let parenArgs ← if lastEmpty && ((← peek (peekGroup .paren)) ||
        ((← peek (peekPunct "::")) && (← peekAt 2 (peekGroup .paren)))) then
        let _ ← punct? "::"
        parenthesizedArgs n
      else pure []
    if lifetimes.isSome && modifier.isSome then
      fail "`for<...>` binder not allowed with `?` trait polarity modifier"
    pure (modifier.getD [] ++ lifetimes.getD [] ++ p.tokens ++ parenArgs, !constTokens.isEmpty)

/-- `for<…>`: lifetime parameters bound for what follows. -/
def boundLifetimes : Nat → Parser (List Token)
  | 0 => tooDeep
  | n + 1 => do
    let forToken ← keyword "for"
    let lt ← punct "<"
    let params ← genericParamList n false
    let gt ← punct ">"
    pure (forToken ++ lt ++ params.1 ++ gt)

/-- Generic parameters separated by commas up to `>`; the tokens and the parameters.
`declaration`: the order of choices of a declaration's own parameters. -/
def genericParamList : Nat → Bool → Parser (List Token × List (GenericParam × List Token))
  | 0, _ => tooDeep
  | n + 1, declaration => do
    if ← peek (peekPunct ">") then return ([], [])
    let param ← genericParam n declaration
    if ← peek (peekPunct ">") then return (param.tokens, [(param, [])])
    let comma ← punct ","
    let (rest, params) ← genericParamList n declaration
    pure (param.tokens ++ comma ++ rest, (param, comma) :: params)

/-- One generic parameter. -/
def genericParam : Nat → Bool → Parser GenericParam
  | 0, _ => tooDeep
  | n + 1, declaration => do
    let attrs ← attributes n
    let attrTokens := attrs.flatMap (·.tokens)
    let isLifetime ← peek peekLifetime
    let isIdent ← peek plainIdentNext
    let isConst ← peek (kw "const")
    if isLifetime then
      let life ← lifetime
      let colon ← punct? ":"
      let bounds ← if colon.isSome then lifetimeBounds n else pure []
      let tail := if bounds.isEmpty then [] else Tokens.op ":" ++ bounds
      pure (.lifetime (attrTokens ++ life ++ tail))
    else if isIdent || (declaration && (← peek (kw "_"))) then
      let ident ← if isIdent then Parser.ident else identAny
      if !isIdent then return .type attrTokens ident [] (attrTokens ++ [ident])
      let colon ← punct? ":"
      let bounds ← if colon.isSome then paramBounds n else pure []
      let default ← if (← punct? "=").isSome then some <$> type n true else pure none
      let boundTail := if bounds.isEmpty then [] else Tokens.op ":" ++ bounds
      let defaultTail := match default with
        | some d => Tokens.op "=" ++ d.1
        | none => []
      pure (.type attrTokens ident bounds (attrTokens ++ [ident] ++ boundTail ++ defaultTail))
    else if isConst then
      let c ← keyword "const"
      let ident ← Parser.ident
      let colon ← punct ":"
      let ty ← type n true
      let default ← if ← peek (peekPunct "=") then
          let eq ← punct "="
          let v ← constArgument n
          pure (eq ++ v)
        else pure []
      pure (.const attrTokens ident ty.1 (attrTokens ++ c ++ [ident] ++ colon ++ ty.1 ++ default))
    else if declaration then expected ["lifetime", "identifier", "`const`"]
    else expected ["identifier", "lifetime", "`const`"]

/-- The bounds of a lifetime parameter: lifetimes separated by `+`, up to `,` or `>`. -/
def lifetimeBounds : Nat → Parser (List Token)
  | 0 => tooDeep
  | n + 1 => do
    if (← peek (peekPunct ",")) || (← peek (peekPunct ">")) then return []
    let l ← lifetime
    match ← punct? "+" with
    | none => pure l
    | some plus => pure (l ++ plus ++ (← lifetimeBounds n))

/-- The bounds of a type parameter, up to `,`, `>` or `=`. -/
def paramBounds : Nat → Parser (List Token)
  | 0 => tooDeep
  | n + 1 => do
    if (← peek (peekPunct ",")) || (← peek (peekPunct ">")) || (← peek (peekPunct "=")) then
      return []
    let (b, _) ← bound n true false
    match ← punct? "+" with
    | none => pure b
    | some plus => pure (b ++ plus ++ (← paramBounds n))

/-- A path. In `exprStyle`, generic arguments need `::` before them. -/
def path : Nat → Bool → Parser PathOut
  | 0, _ => tooDeep
  | n + 1, exprStyle => do
    let leading ← punct? "::"
    let (seg, form, ts) ← segment n exprStyle
    let rest ← pathRest n exprStyle
    pure {
      tokens := leading.getD [] ++ ts ++ rest.1
      leadingColon := leading.isSome
      segments := (seg, form) :: rest.2 }

/-- Further `::` segments of a path. -/
def pathRest : Nat → Bool → Parser (List Token × List (Token × ArgsForm))
  | 0, _ => tooDeep
  | n + 1, exprStyle => do
    if (← peek (peekPunct "::")) && !(← peekAt 2 (peekGroup .paren)) then
      let sep ← punct "::"
      let (seg, form, ts) ← segment n exprStyle
      let (more, segs) ← pathRest n exprStyle
      pure (sep ++ ts ++ more, (seg, form) :: segs)
    else pure ([], [])

/-- A path segment: an identifier and its generic arguments. -/
def segment : Nat → Bool → Parser (Token × ArgsForm × List Token)
  | 0, _ => tooDeep
  | n + 1, exprStyle => do
    if (← peek (kw "super")) || (← peek (kw "self")) || (← peek (kw "crate")) ||
        (← peek (kw "try")) then
      let i ← identAny
      return (i, .none, [i])
    let i ← if ← peek (kw "Self") then identAny else Parser.ident
    let angle ← peek fun ts =>
      (!exprStyle && peekPunct "<" ts && !peekPunct "<=" ts && !peekPunct "<<=" ts) ||
      (peekPunct "::" ts && peekPunct "<" (skipN 2 ts))
    if angle then
      let args ← angleArguments n
      pure (i, .angle, i :: args)
    else pure (i, .none, [i])

/-- Generic arguments in angle brackets, with an optional `::` before them. -/
def angleArguments : Nat → Parser (List Token)
  | 0 => tooDeep
  | n + 1 => do
    let colons ← punct? "::"
    let lt ← punct "<"
    let args ← argumentList n
    let gt ← punct ">"
    pure (colons.getD [] ++ lt ++ args ++ gt)

/-- Generic arguments separated by commas up to `>`. -/
def argumentList : Nat → Parser (List Token)
  | 0 => tooDeep
  | n + 1 => do
    if ← peek (peekPunct ">") then return []
    let a ← genericArgument n
    if ← peek (peekPunct ">") then return a
    let comma ← punct ","
    pure (a ++ comma ++ (← argumentList n))

/-- One generic argument: a lifetime, a constant, a type, or an associated type, constant or
constraint. -/
def genericArgument : Nat → Parser (List Token)
  | 0 => tooDeep
  | n + 1 => do
    if (← peek peekLifetime) && !(← peekAt 1 (peekPunct "+")) then return (← lifetime)
    if (← peek peekLiteral) || (← peek (peekGroup .brace)) then return (← constArgument n)
    let (ts, form) ← type n true
    match form with
    | .path false true _ =>
      if ← peek (peekPunct "=") then
        let eq ← punct "="
        if (← peek peekLiteral) || (← peek (peekGroup .brace)) then
          return ts ++ eq ++ (← constArgument n)
        return ts ++ eq ++ (← type n true).1
      if ← peek (peekPunct ":") then
        let colon ← punct ":"
        return ts ++ colon ++ (← constraintBounds n)
      pure ts
    | _ => pure ts

/-- The bounds of an associated type constraint, up to `,` or `>`. -/
def constraintBounds : Nat → Parser (List Token)
  | 0 => tooDeep
  | n + 1 => do
    if (← peek (peekPunct ",")) || (← peek (peekPunct ">")) then return []
    let (b, _) ← bound n true false
    match ← punct? "+" with
    | none => pure b
    | some plus => pure (b ++ plus ++ (← constraintBounds n))

/-- A constant generic argument: a literal, an identifier or a block. Anything else is an
unexpected token, named as no particular expectation. -/
def constArgument : Nat → Parser (List Token)
  | 0 => tooDeep
  | n + 1 => do
    if ← peek peekLiteral then return (← literal)
    if ← peek plainIdentNext then return [← Parser.ident]
    if ← peek (peekGroup .brace) then return ← innerBlock n
    expected []

/-- Parenthesized arguments `(A, B) -> C` of a function trait. -/
def parenthesizedArgs : Nat → Parser (List Token)
  | 0 => tooDeep
  | n + 1 => do
    let body ← group .paren
    let inputs ← within .paren body (typeList n)
    let output ← returnType n
    pure (Tokens.paren inputs ++ output)

/-- An optional `-> T`, whose type may not be followed by `+`. -/
def returnType : Nat → Parser (List Token)
  | 0 => tooDeep
  | n + 1 => do
    match ← punct? "->" with
    | none => pure []
    | some arrow => pure (arrow ++ (← type n false).1)

/-- A path with an optional qualified self `<T as Trait>::`; its tokens, whether it is
qualified, and the path. -/
def qualifiedPath : Nat → Bool → Parser (List Token × Bool × PathOut)
  | 0, _ => tooDeep
  | n + 1, exprStyle => do
    if ← peek (peekPunct "<") then
      let lt ← punct "<"
      let self_ ← type n true
      let trait_ ← if ← peek (kw "as") then
          let as_ ← keyword "as"
          let p ← path n false
          pure (as_ ++ p.tokens)
        else pure []
      let gt ← punct ">"
      let colons ← punct "::"
      let (rest, segs) ← qualifiedRest n exprStyle
      let p : PathOut := { tokens := rest, leadingColon := true, segments := segs }
      pure (lt ++ self_.1 ++ trait_ ++ gt ++ colons ++ rest, true, p)
    else
      let p ← path n exprStyle
      pure (p.tokens, false, p)

/-- The segments after a qualified self. -/
def qualifiedRest : Nat → Bool → Parser (List Token × List (Token × ArgsForm))
  | 0, _ => tooDeep
  | n + 1, exprStyle => do
    let (seg, form, ts) ← segment n exprStyle
    if ← peek (peekPunct "::") then
      let sep ← punct "::"
      let (more, segs) ← qualifiedRest n exprStyle
      pure (ts ++ sep ++ more, (seg, form) :: segs)
    else pure (ts, [(seg, form)])

/-- A function pointer type: `unsafe extern "C" fn(A, B) -> C`. -/
def bareFunction : Nat → Parser (List Token)
  | 0 => tooDeep
  | n + 1 => do
    let unsafety := (← keyword? "unsafe").getD []
    let abi ← if ← peek (kw "extern") then
        let e ← keyword "extern"
        let name ← if ← peek fun ts => match ts with
            | .literal t :: _ => t.startsWith "\"" || t.startsWith "r"
            | _ => false
          then pure (← literal) else pure []
        pure (e ++ name)
      else pure []
    let fn_ ← keyword "fn"
    let body ← group .paren
    let inputs ← within .paren body (fnInputs n)
    let output ← returnType n
    pure (unsafety ++ abi ++ fn_ ++ Tokens.paren inputs ++ output)

/-- The inputs of a function pointer type, each with an optional name; the last may be the
variadic `...`, with an optional name and comma. -/
def fnInputs : Nat → Parser (List Token)
  | 0 => tooDeep
  | n + 1 => do
    if ← atEnd then return []
    let attrs ← attributes n
    let variadic ← peek fun ts => peekPunct "..." ts ||
      ((plainIdentNext ts || kw "_" ts) && peekPunct ":" (skipOne ts) &&
        peekPunct "..." (skipN 2 ts))
    if variadic then
      let name ← if ← peek fun ts => plainIdentNext ts || kw "_" ts then
          let i ← identAny
          let colon ← punct ":"
          pure (i :: colon)
        else pure []
      let dots ← punct "..."
      let comma ← punct? ","
      return attrs.flatMap (·.tokens) ++ name ++ dots ++ comma.getD []
    let named ← peek fun ts => (plainIdentNext ts || kw "_" ts || kw "self" ts) &&
      peekPunct ":" (skipOne ts) && !peekPunct "::" (skipOne ts)
    let name ← if named then
        let i ← identAny
        let colon ← punct ":"
        pure (i :: colon)
      else pure []
    let ty ← type n true
    let item := attrs.flatMap (·.tokens) ++ name ++ ty.1
    if ← atEnd then return item
    let comma ← punct ","
    pure (item ++ comma ++ (← fnInputs n))

/-- Outer attributes `#[…]`. -/
def attributes : Nat → Parser (List Attribute)
  | 0 => tooDeep
  | n + 1 => do
    if !(← peek (peekPunct "#")) then return []
    let pound ← punct "#"
    let body ← group .bracket
    let a ← within .bracket body (attributeBody n)
    let rest ← attributes n
    pure ({ a with tokens := pound ++ Tokens.bracket a.tokens } :: rest)

/-- The inside of an attribute: a path and its arguments. -/
def attributeBody : Nat → Parser Attribute
  | 0 => tooDeep
  | n + 1 => do
    let (leading, segs, pathTokens) ← if ← peek (kw "unsafe") then
        let u ← keyword "unsafe"
        pure (false, u, u)
      else modPath n
    if (← peek (peekGroup .paren)) || (← peek (peekGroup .bracket)) || (← peek (peekGroup .brace)) then
      match ← next with
      | some (.group d body) =>
        return { leadingColon := leading, segments := segs, form := .list d body,
                 tokens := pathTokens ++ [.group d body] }
      | _ => fail "expected delimiter"
    if ← peek (peekPunct "=") then
      let eq ← punct "="
      let literalAlone ← peek fun ts => match ts with
        | [t] => isLiteralToken t || isKeyword "true" t || isKeyword "false" t
        | [.punct '-' _, .literal _] => peekLiteral ts
        | _ => false
      let value ← if literalAlone then pure (← literal)
        else if (← peek (peekPunct "#")) && (← peekAt 1 (peekGroup .bracket)) then
          failHere "unexpected attribute inside of attribute"
        else pure (← expr n).1
      return { leadingColon := leading, segments := segs, form := .nameValue,
               tokens := pathTokens ++ eq ++ value }
    pure { leadingColon := leading, segments := segs, form := .path, tokens := pathTokens }

/-- A path whose segments are identifiers only: whether it has a leading `::`, its segment
identifiers, and its tokens. -/
def modPath : Nat → Parser (Bool × List Token × List Token)
  | 0 => tooDeep
  | n + 1 => do
    let leading ← punct? "::"
    let (segs, ts, trailing) ← modSegments n
    if segs.isEmpty then
      let _ ← Parser.ident
      fail "expected identifier"
    if trailing then failHere "expected path segment after `::`"
    pure (leading.isSome, segs, leading.getD [] ++ ts)

/-- The segments of a path whose segments are identifiers only; whether a `::` ends them. -/
def modSegments : Nat → Parser (List Token × List Token × Bool)
  | 0 => tooDeep
  | n + 1 => do
    let starts ← peek fun ts => plainIdentNext ts || kw "super" ts || kw "self" ts ||
      kw "Self" ts || kw "crate" ts
    if !starts then return ([], [], true)
    let i ← identAny
    if !(← peek (peekPunct "::")) then return ([i], [i], false)
    let sep ← punct "::"
    let (segs, ts, trailing) ← modSegments n
    pure (i :: segs, i :: sep ++ ts, trailing)

/-- An expression. -/
def expr : Nat → Parser ExprOut
  | 0 => tooDeep
  | n + 1 => exprWith n true

/-- An expression; `allowStruct` tells whether a path before braces is a struct literal. -/
def exprWith : Nat → Bool → Parser ExprOut
  | 0, _ => tooDeep
  | n + 1, allowStruct => do
    let lhs ← unaryExpr n allowStruct
    binaryLoop n allowStruct lhs 0

/-- A prefix expression: attributes, then `&`, `&mut`, `&raw const`, `&raw mut`, `*`, `!` or
`-` before an operand, or an operand with its calls, fields, indexes and `?`. An operand kept
as it was written keeps its attributes and trailers as written too. -/
def unaryExpr : Nat → Bool → Parser ExprOut
  | 0, _ => tooDeep
  | n + 1, allowStruct => do
    let before ← rest
    let attrs := (← attributes n).flatMap (·.tokens)
    if ← peek (peekPunct "&") then
      let amp ← punct "&"
      let raw ← if (← peek (kw "raw")) && ((← peekAt 1 (kw "mut")) || (← peekAt 1 (kw "const")))
        then pure [← identAny] else pure []
      let mutability := (← keyword? "mut").getD []
      let constness ← if !raw.isEmpty && mutability.isEmpty then keyword "const" else pure []
      let e ← unaryExpr n allowStruct
      return (attrs ++ amp ++ raw ++ mutability ++ constness ++ e.1, .other)
    if (← peek (peekPunct "*")) || (← peek (peekPunct "!")) || (← peek (peekPunct "-")) then
      let o ← match ← next with
        | some (.punct c _) => pure (Tokens.op c.toString)
        | _ => fail "expected unary operator"
      let e ← unaryExpr n allowStruct
      return (attrs ++ o ++ e.1, .other)
    let atom ← atomExpr n allowStruct
    let (e, form) ← trailers n atom
    if form == .verbatim then return (← readSince before, .other)
    if !attrs.isEmpty && form == .range then
      fail "attributes are not allowed on range expressions starting with `..`"
    pure (attrs ++ e, form)

/-- The operand of an expression. -/
def atomExpr : Nat → Bool → Parser ExprOut
  | 0, _ => tooDeep
  | n + 1, allowStruct => do
    let ts ← rest
    if peekLiteral ts then return (← literal, .other)
    if kw "async" ts && (peekGroup .brace (skipOne ts) ||
        (kw "move" (skipOne ts) && peekGroup .brace (skipN 2 ts))) then
      let a ← keyword "async"
      let m := (← keyword? "move").getD []
      let b ← block n
      return (a ++ m ++ b, .other)
    if kw "try" ts && peekGroup .brace (skipOne ts) then
      let t ← keyword "try"
      let b ← block n
      return (t ++ b, .other)
    if closureStart ts then return (← closure n allowStruct, .other)
    if kw "builtin" ts && peekPunct "#" (skipOne ts) then
      let _ ← identAny
      let _ ← punct "#"
      let _ ← Parser.ident
      let _ ← group .paren
      return ([], .verbatim)
    if plainIdentNext ts || peekPunct "::" ts || peekPunct "<" ts || kw "self" ts ||
        kw "Self" ts || kw "super" ts || kw "crate" ts ||
        (kw "try" ts && (peekPunct "!" (skipOne ts) || peekPunct "::" (skipOne ts))) then
      return ← pathExpr n allowStruct
    if peekGroup .paren ts then
      let body ← group .paren
      let inner ← within .paren body (parenExpr n)
      return (Tokens.paren inner, .other)
    if kw "break" ts then return (← breakExpr n allowStruct, .other)
    if kw "continue" ts then
      let c ← keyword "continue"
      let label ← if peekLifetime (← rest) then lifetime else pure []
      return (c ++ label, .other)
    if kw "return" ts then
      let r ← keyword "return"
      if canBeginExpr (← rest) then
        let e ← expr n
        return (r ++ e.1, .other)
      return (r, .other)
    if kw "become" ts then
      let _ ← keyword "become"
      let _ ← expr n
      return ([], .verbatim)
    if peekGroup .bracket ts then
      let body ← group .bracket
      let inner ← within .bracket body (arrayExpr n)
      return (Tokens.bracket inner, .other)
    if kw "let" ts then return (← letExpr n, .other)
    if kw "if" ts then return (← ifExpr n, .other)
    if kw "while" ts then return (← whileExpr n [], .other)
    if kw "for" ts then return (← forExpr n [], .other)
    if kw "loop" ts then return (← loopExpr n [], .other)
    if kw "match" ts then return (← matchExpr n, .other)
    if kw "yield" ts then
      let y ← keyword "yield"
      if canBeginExpr (← rest) then
        let e ← expr n
        return (y ++ e.1, .other)
      return (y, .other)
    if kw "unsafe" ts then
      let u ← keyword "unsafe"
      let b ← innerBlock n
      return (u ++ b, .other)
    if kw "const" ts then
      let c ← keyword "const"
      let b ← innerBlock n
      return (c ++ b, .other)
    if peekGroup .brace ts then return (← innerBlock n, .other)
    if peekPunct ".." ts then
      let limits ← rangeLimits
      let closed := limits.length == 3
      if !closed && rangeEndsHere allowStruct (← rest) then return (limits, .range)
      let e ← binaryRhs n allowStruct 2
      return (limits ++ e.1, .range)
    if kw "_" ts then return (← keyword "_", .other)
    if peekLifetime ts then return (← labeled n, .other)
    failHere "expected an expression"

/-- A path expression, a macro call, or a struct literal where one may stand. -/
def pathExpr : Nat → Bool → Parser ExprOut
  | 0, _ => tooDeep
  | n + 1, allowStruct => do
    let (ts, qualified, p) ← qualifiedPath n true
    if !qualified && (← peek (peekPunct "!")) && !(← peek (peekPunct "!=")) && p.modStyle then
      let bang ← punct "!"
      let body ← macroBody
      let brace := match body with
        | [.group .brace _] => true
        | _ => false
      return (ts ++ bang ++ body, .macroCall brace)
    if allowStruct && (← peek (peekGroup .brace)) then
      let body ← group .brace
      let fields ← within .brace body (structFields n)
      return (ts ++ Tokens.brace fields, .other)
    pure (ts, .other)

/-- The fields of a struct literal: `member: value` or a shorthand name, separated by commas,
and optionally `..` with the base after the last. -/
def structFields : Nat → Parser (List Token)
  | 0 => tooDeep
  | n + 1 => do
    if ← atEnd then return []
    if ← peek (peekPunct "..") then
      let dots ← punct ".."
      if ← atEnd then return dots
      let base ← expr n
      return dots ++ base.1
    let attrs := (← attributes n).flatMap (·.tokens)
    let (m, named) ← member
    let field ← if (← peek (peekPunct ":")) || !named then
        let colon ← punct ":"
        let e ← expr n
        pure (attrs ++ m ++ colon ++ e.1)
      else pure (attrs ++ m)
    if ← atEnd then return field
    let comma ← punct ","
    pure (field ++ comma ++ (← structFields n))

/-- A closure: `for<…>`, `const`, `static`, `async`, `move`, its parameters between bars, and
its body, which is a block when a return type is written. -/
def closure : Nat → Bool → Parser (List Token)
  | 0, _ => tooDeep
  | n + 1, allowStruct => do
    let lifetimes ← if ← peek (kw "for") then boundLifetimes n else pure []
    let constness := (← keyword? "const").getD []
    let movability := (← keyword? "static").getD []
    let asyncness := (← keyword? "async").getD []
    let capture := (← keyword? "move").getD []
    let or1 ← punct "|"
    let params ← closureParams n
    let or2 ← punct "|"
    let head := lifetimes ++ constness ++ movability ++ asyncness ++ capture ++ or1 ++ params ++ or2
    if ← peek (peekPunct "->") then
      let arrow ← punct "->"
      let ty ← type n true
      let body ← block n
      return head ++ arrow ++ ty.1 ++ body
    let body ← exprWith n allowStruct
    pure (head ++ body.1)

/-- The parameters of a closure up to the closing bar: patterns with optional types. -/
def closureParams : Nat → Parser (List Token)
  | 0 => tooDeep
  | n + 1 => do
    if ← peek (peekPunct "|") then return []
    let attrs := (← attributes n).flatMap (·.tokens)
    let (p, _) ← patSingle n
    let param ← if ← peek (peekPunct ":") then
        let colon ← punct ":"
        let ty ← type n true
        pure (attrs ++ p ++ colon ++ ty.1)
      else pure (attrs ++ p)
    if ← peek (peekPunct "|") then return param
    let comma ← punct ","
    pure (param ++ comma ++ (← closureParams n))

/-- `if`, its condition and block, and an `else` with another `if` or a block. -/
def ifExpr : Nat → Parser (List Token)
  | 0 => tooDeep
  | n + 1 => do
    let i ← keyword "if"
    let cond ← exprWith n false
    let thenBranch ← block n
    let head := i ++ cond.1 ++ thenBranch
    if !(← peek (kw "else")) then return head
    let e ← keyword "else"
    if ← peek (kw "if") then return head ++ e ++ (← ifExpr n)
    if ← peek (peekGroup .brace) then return head ++ e ++ (← block n)
    expected ["`if`", "curly braces"]

/-- A `while` loop after its label. -/
def whileExpr : Nat → List Token → Parser (List Token)
  | 0, _ => tooDeep
  | n + 1, label => do
    let w ← keyword "while"
    let cond ← exprWith n false
    let body ← innerBlock n
    pure (label ++ w ++ cond.1 ++ body)

/-- A `for` loop after its label. -/
def forExpr : Nat → List Token → Parser (List Token)
  | 0, _ => tooDeep
  | n + 1, label => do
    let f ← keyword "for"
    let (p, _) ← patMulti n
    let i ← keyword "in"
    let e ← exprWith n false
    let body ← innerBlock n
    pure (label ++ f ++ p ++ i ++ e.1 ++ body)

/-- A `loop` after its label. -/
def loopExpr : Nat → List Token → Parser (List Token)
  | 0, _ => tooDeep
  | n + 1, label => do
    let l ← keyword "loop"
    let body ← innerBlock n
    pure (label ++ l ++ body)

/-- A label `'a:` and the loop or block it names. -/
def labeled : Nat → Parser (List Token)
  | 0 => tooDeep
  | n + 1 => do
    let l ← lifetime
    let colon ← punct ":"
    let label := l ++ colon
    if ← peek (kw "while") then return ← whileExpr n label
    if ← peek (kw "for") then return ← forExpr n label
    if ← peek (kw "loop") then return ← loopExpr n label
    if ← peek (peekGroup .brace) then return label ++ (← innerBlock n)
    failHere "expected loop or block expression"

/-- `match`, the scrutinee and the arms in braces. -/
def matchExpr : Nat → Parser (List Token)
  | 0 => tooDeep
  | n + 1 => do
    let m ← keyword "match"
    let e ← exprWith n false
    let body ← group .brace
    let inner ← within .brace body do
      let attrs ← innerAttributes n
      let arms ← matchArms n
      pure (attrs ++ arms)
    pure (m ++ e.1 ++ Tokens.brace inner)

/-- The arms of a `match`: pattern, guard, `=>` and body; a body that is not block-like needs
a comma unless it is the last. -/
def matchArms : Nat → Parser (List Token)
  | 0 => tooDeep
  | n + 1 => do
    if ← atEnd then return []
    let attrs := (← attributes n).flatMap (·.tokens)
    let (p, _) ← patMulti n
    let guard ← if ← peek (kw "if") then
        let i ← keyword "if"
        let g ← expr n
        pure (i ++ g.1)
      else pure []
    let arrow ← punct "=>"
    let (body, form) ← exprEarly n
    let comma ← if form != .block && !(← atEnd) then punct ","
      else pure ((← punct? ",").getD [])
    pure (attrs ++ p ++ guard ++ arrow ++ body ++ comma ++ (← matchArms n))

/-- A block: statements in braces. -/
def block : Nat → Parser (List Token)
  | 0 => tooDeep
  | n + 1 => do
    let body ← group .brace
    let inner ← within .brace body (stmts n)
    pure (Tokens.brace inner)

/-- A block that may begin with inner attributes `#![…]`. -/
def innerBlock : Nat → Parser (List Token)
  | 0 => tooDeep
  | n + 1 => do
    let body ← group .brace
    let inner ← within .brace body do
      let attrs ← innerAttributes n
      let ss ← stmts n
      pure (attrs ++ ss)
    pure (Tokens.brace inner)

/-- Inner attributes `#![…]`. -/
def innerAttributes : Nat → Parser (List Token)
  | 0 => tooDeep
  | n + 1 => do
    if !((← peek (peekPunct "#")) && (← peekAt 1 (peekPunct "!"))) then return []
    let pound ← punct "#"
    let bang ← punct "!"
    let body ← group .bracket
    let a ← within .bracket body (attributeBody n)
    pure (pound ++ bang ++ Tokens.bracket a.tokens ++ (← innerAttributes n))

/-- The statements of a block, to its end. Empty statements are their `;`; a statement that
needs a `;` and lacks it may only be the last. -/
def stmts : Nat → Parser (List Token)
  | 0 => tooDeep
  | n + 1 => do
    if ← peek (peekPunct ";") then
      let semi ← punct ";"
      return semi ++ (← stmts n)
    if ← atEnd then return []
    let (s, requiresSemi) ← stmt n
    if ← atEnd then return s
    if requiresSemi then fail "unexpected token, expected `;`"
    pure (s ++ (← stmts n))

/-- One statement: a macro call in braces, a `let`, an item, or an expression; its tokens and
whether it needs a `;` to be followed by another statement. -/
def stmt : Nat → Parser (List Token × Bool)
  | 0 => tooDeep
  | n + 1 => do
    let before ← rest
    let attrs := (← attributes n).flatMap (·.tokens)
    let saved ← get
    let ahead := match (modPath n).run saved with
      | .ok ((_, _, pathTokens), s') => some (pathTokens, s')
      | .error _ => none
    let mut itemMacro := false
    match ahead with
    | some (pathTokens, s') =>
      let ts := s'.tokens
      if peekPunct "!" ts then
        if plainIdentNext (skipOne ts) || kw "try" (skipOne ts) then itemMacro := true
        else if peekGroup .brace (skipOne ts) &&
            !((peekPunct "." (skipN 2 ts) && !peekPunct ".." (skipN 2 ts)) ||
              peekPunct "?" (skipN 2 ts)) then
          set s'
          let bang ← punct "!"
          let body ← macroBody
          let semi := (← punct? ";").getD []
          return (attrs ++ pathTokens ++ bang ++ body ++ semi, false)
    | none => pure ()
    if ← peek (kw "let") then return (← localStmt n attrs, false)
    if itemMacro || (← peek itemStart) then return (← item n before attrs, false)
    exprStatement n attrs

/-- A `let` statement after its attributes. An `else` block may follow the value when the value
does not end in a brace. -/
def localStmt : Nat → List Token → Parser (List Token)
  | 0, _ => tooDeep
  | n + 1, attrs => do
    let l ← keyword "let"
    let (p, _) ← patSingle n
    let ty ← if ← peek (peekPunct ":") then
        let colon ← punct ":"
        let t ← type n true
        pure (colon ++ t.1)
      else pure []
    let init ← match ← punct? "=" with
      | none => pure []
      | some eq =>
        let e ← expr n
        if !endsInBrace e.1 && (← peek (kw "else")) then
          let el ← keyword "else"
          let b ← block n
          pure (eq ++ e.1 ++ el ++ b)
        else pure (eq ++ e.1)
    let semi ← punct ";"
    pure (attrs ++ l ++ p ++ ty ++ init ++ semi)

/-- An expression statement after its attributes, with its `;` if one follows. -/
def exprStatement : Nat → List Token → Parser (List Token × Bool)
  | 0, _ => tooDeep
  | n + 1, attrs => do
    let (e, form) ← exprEarly n
    match ← punct? ";" with
    | some semi => pure (attrs ++ e ++ semi, false)
    | none =>
      let requiresSemi := match form with
        | .block => false
        | .macroCall brace => !brace
        | _ => true
      pure (attrs ++ e, requiresSemi)

/-- An expression where a statement or a match arm begins: a block-like expression (`if`,
`match`, a loop, a block, …) ends there, and anything else goes on as a whole expression. -/
def exprEarly : Nat → Parser ExprOut
  | 0 => tooDeep
  | n + 1 => do
    let attrs := (← attributes n).flatMap (·.tokens)
    let ts ← rest
    let t1 := skipOne ts
    if kw "if" ts then return (attrs ++ (← ifExpr n), .block)
    if kw "while" ts then return (attrs ++ (← whileExpr n []), .block)
    if kw "for" ts && !(peekPunct "<" t1 && (peekLifetime (skipN 2 ts) || peekPunct ">" (skipN 2 ts)))
      then return (attrs ++ (← forExpr n []), .block)
    if kw "loop" ts then return (attrs ++ (← loopExpr n []), .block)
    if kw "match" ts then return (attrs ++ (← matchExpr n), .block)
    if kw "try" ts && peekGroup .brace t1 then
      let t ← keyword "try"
      let b ← block n
      return (attrs ++ t ++ b, .block)
    if kw "unsafe" ts then
      let u ← keyword "unsafe"
      let b ← innerBlock n
      return (attrs ++ u ++ b, .block)
    if kw "const" ts && peekGroup .brace t1 then
      let c ← keyword "const"
      let b ← innerBlock n
      return (attrs ++ c ++ b, .block)
    if peekGroup .brace ts then return (attrs ++ (← innerBlock n), .block)
    if peekLifetime ts then return (attrs ++ (← labeled n), .block)
    let (u, form) ← unaryExpr n true
    binaryLoop n true (attrs ++ u, form) 0

/-- `let`, a pattern, `=` and an expression that binds more strongly than `&&`. -/
def letExpr : Nat → Parser (List Token)
  | 0 => tooDeep
  | n + 1 => do
    let l ← keyword "let"
    let (p, _) ← patMulti n
    let eq ← punct "="
    let lhs ← unaryExpr n false
    let e ← binaryLoop n false lhs 6
    pure (l ++ p ++ eq ++ e.1)

/-- `break`, an optional label and an optional value. A labeled loop right after `break` needs
parentheses. -/
def breakExpr : Nat → Bool → Parser (List Token)
  | 0, _ => tooDeep
  | n + 1, allowStruct => do
    let b ← keyword "break"
    let ts ← rest
    if peekLifetime ts && peekPunct ":" (skipOne ts) then
      let _ ← expr n
      fail "parentheses required"
    let label ← if peekLifetime ts then lifetime else pure []
    if canBeginExpr (← rest) && (allowStruct || !(← peek (peekGroup .brace))) then
      let e ← expr n
      return b ++ label ++ e.1
    pure (b ++ label)

/-- A pattern that may be several alternatives separated by `|`, with an optional `|` before
the first. -/
def patMulti : Nat → Parser (List Token × PatForm)
  | 0 => tooDeep
  | n + 1 => do
    let leading := (← punct? "|").getD []
    let (p, form) ← patSingle n
    if leading.isEmpty && !(← peek orNext) then return (p, form)
    let more ← patCases n
    pure (leading ++ p ++ more, .other)

/-- Further alternatives of a pattern, each after `|`. -/
def patCases : Nat → Parser (List Token)
  | 0 => tooDeep
  | n + 1 => do
    if !(← peek orNext) then return []
    let bar ← punct "|"
    let (p, _) ← patSingle n
    pure (bar ++ p ++ (← patCases n))

/-- One pattern, not alternatives. -/
def patSingle : Nat → Parser (List Token × PatForm)
  | 0 => tooDeep
  | n + 1 => do
    let ts ← rest
    let t1 := skipOne ts
    if (plainIdentNext ts && (peekPunct "::" t1 || peekPunct "!" t1 || peekGroup .brace t1 ||
          peekGroup .paren t1 || peekPunct ".." t1)) ||
        (kw "self" ts && peekPunct "::" t1) || peekPunct "::" ts || peekPunct "<" ts ||
        kw "Self" ts || kw "super" ts || kw "crate" ts then
      return ← patPath n
    if kw "_" ts then return (← keyword "_", .other)
    if kw "box" ts then
      let _ ← keyword "box"
      let _ ← patSingle n
      return (← readSince ts, .other)
    if peekPunct "-" ts || peekLiteral ts || kw "const" ts then return ← patLitOrRange n
    if kw "ref" ts || kw "mut" ts || kw "self" ts || plainIdentNext ts then
      return (← patIdent n, .other)
    if peekPunct "&" ts then
      let amp ← punct "&"
      let mutability := (← keyword? "mut").getD []
      let (p, _) ← patSingle n
      return (amp ++ mutability ++ p, .other)
    if peekGroup .paren ts then
      let body ← group .paren
      let inner ← within .paren body (patElems n)
      return (Tokens.paren inner, .other)
    if peekGroup .bracket ts then
      let body ← group .bracket
      let inner ← within .bracket body (slicePatElems n)
      return (Tokens.bracket inner, .other)
    if peekPunct ".." ts && !peekPunct "..." ts then return ← patRangeHalfOpen n
    expected (["identifier", "`::`", "`<`", "`_`", "literal", "`const`", "`ref`", "`mut`", "`&`",
      "parentheses", "square brackets"] ++ (if peekPunct ".." ts then [] else ["`..`"]) ++
      ["`const`"])

/-- An identifier pattern: `ref`, `mut`, the name, and `@` with a pattern. -/
def patIdent : Nat → Parser (List Token)
  | 0 => tooDeep
  | n + 1 => do
    let byRef := (← keyword? "ref").getD []
    let mutability := (← keyword? "mut").getD []
    let i ← if ← peek (kw "self") then identAny else Parser.ident
    if ← peek (peekPunct "@") then
      let at_ ← punct "@"
      let (p, _) ← patSingle n
      return byRef ++ mutability ++ [i] ++ at_ ++ p
    pure (byRef ++ mutability ++ [i])

/-- A pattern that begins with a path: a macro call, a struct or tuple struct, a range, or the
path itself. -/
def patPath : Nat → Parser (List Token × PatForm)
  | 0 => tooDeep
  | n + 1 => do
    let (ts, qualified, p) ← qualifiedPath n true
    if !qualified && (← peek (peekPunct "!")) && !(← peek (peekPunct "!=")) && p.modStyle then
      let bang ← punct "!"
      let body ← macroBody
      return (ts ++ bang ++ body, .other)
    if ← peek (peekGroup .brace) then
      let body ← group .brace
      let inner ← within .brace body (patFields n)
      return (ts ++ Tokens.brace inner, .other)
    if ← peek (peekGroup .paren) then
      let body ← group .paren
      let inner ← within .paren body (patElems n)
      return (ts ++ Tokens.paren inner, .other)
    if ← peek (peekPunct "..") then
      let (limits, closed) ← patternRangeLimits
      match ← patRangeBound n with
      | none =>
        if closed then failHere "expected range upper bound"
        return (ts ++ limits, .halfRange)
      | some e => return (ts ++ limits ++ e, .other)
    pure (ts, .other)

/-- A literal, a path or a `const` block that may stand at an end of a range pattern; none
where the pattern ends. -/
def patRangeBound : Nat → Parser (Option (List Token))
  | 0 => tooDeep
  | n + 1 => do
    let ts ← rest
    if ts.isEmpty || peekPunct "|" ts || peekPunct "=" ts || (peekPunct ":" ts && !peekPunct "::" ts) ||
        peekPunct "," ts || peekPunct ";" ts || kw "if" ts then return none
    if peekLiteral ts then return some (← literal)
    if plainIdentNext ts || peekPunct "::" ts || peekPunct "<" ts || kw "self" ts ||
        kw "Self" ts || kw "super" ts || kw "crate" ts then
      let (p, _, _) ← qualifiedPath n true
      return some p
    if kw "const" ts then
      let c ← keyword "const"
      let b ← innerBlock n
      return some (c ++ b)
    expected ["literal", "identifier", "`::`", "`<`", "`self`", "`Self`", "`super`", "`crate`",
      "`const`"]

/-- A literal pattern, or a range pattern that starts with a literal, a path or a `const`
block. -/
def patLitOrRange : Nat → Parser (List Token × PatForm)
  | 0 => tooDeep
  | n + 1 => do
    let start := (← patRangeBound n).getD []
    if ← peek (peekPunct "..") then
      let (limits, closed) ← patternRangeLimits
      match ← patRangeBound n with
      | none =>
        if closed then failHere "expected range upper bound"
        return (start ++ limits, .halfRange)
      | some e => return (start ++ limits ++ e, .other)
    pure (start, .other)

/-- A range pattern with no start, or the rest pattern `..`. -/
def patRangeHalfOpen : Nat → Parser (List Token × PatForm)
  | 0 => tooDeep
  | n + 1 => do
    let limits ← rangeLimits
    match ← patRangeBound n with
    | some e => pure (limits ++ e, .halfRange)
    | none =>
      if limits.length == 2 then pure (limits, .rest)
      else failHere "expected range upper bound"

/-- The patterns of a tuple or tuple struct pattern, separated by commas. -/
def patElems : Nat → Parser (List Token)
  | 0 => tooDeep
  | n + 1 => do
    if ← atEnd then return []
    let (p, _) ← patMulti n
    if ← atEnd then return p
    let comma ← punct ","
    pure (p ++ comma ++ (← patElems n))

/-- The patterns of a slice pattern, separated by commas; a range with a missing end needs
parentheses there. -/
def slicePatElems : Nat → Parser (List Token)
  | 0 => tooDeep
  | n + 1 => do
    if ← atEnd then return []
    let (p, form) ← patMulti n
    if form == .halfRange then fail "range pattern in slice pattern must be enclosed in parentheses"
    if ← atEnd then return p
    let comma ← punct ","
    pure (p ++ comma ++ (← slicePatElems n))

/-- The fields of a struct pattern, and an optional `..` at the end. -/
def patFields : Nat → Parser (List Token)
  | 0 => tooDeep
  | n + 1 => do
    if ← atEnd then return []
    let attrs := (← attributes n).flatMap (·.tokens)
    if ← peek (peekPunct "..") then
      let dots ← punct ".."
      return attrs ++ dots
    let f ← fieldPat n
    if ← atEnd then return attrs ++ f
    let comma ← punct ","
    pure (attrs ++ f ++ comma ++ (← patFields n))

/-- A field of a struct pattern: `member: pattern`, or a name with `ref` and `mut` (or `box`,
kept as written). -/
def fieldPat : Nat → Parser (List Token)
  | 0 => tooDeep
  | n + 1 => do
    let before ← rest
    let boxed ← keyword? "box"
    let byRef ← keyword? "ref"
    let mutability ← keyword? "mut"
    let plain := boxed.isNone && byRef.isNone && mutability.isNone
    let (m, named) ← if plain then member else do
      let i ← Parser.ident
      pure ([i], true)
    if (plain && (← peek (peekPunct ":"))) || !named then
      let colon ← punct ":"
      let (p, _) ← patMulti n
      return m ++ colon ++ p
    if boxed.isSome then return ← readSince before
    pure (byRef.getD [] ++ mutability.getD [] ++ m)

/-- The inside of a parenthesized expression: a tuple or one expression. -/
def parenExpr : Nat → Parser (List Token)
  | 0 => tooDeep
  | n + 1 => do
    if ← atEnd then return []
    let first ← expr n
    if ← atEnd then return first.1
    let rest ← exprTail n
    pure (first.1 ++ rest)

/-- `, e` items to the end of the group, a trailing comma allowed. -/
def exprTail : Nat → Parser (List Token)
  | 0 => tooDeep
  | n + 1 => do
    if ← atEnd then return []
    let comma ← punct ","
    if ← atEnd then return comma
    let e ← expr n
    pure (comma ++ e.1 ++ (← exprTail n))

/-- The inside of an array expression: elements, or an element and a length. -/
def arrayExpr : Nat → Parser (List Token)
  | 0 => tooDeep
  | n + 1 => do
    if ← atEnd then return []
    let first ← expr n
    if (← atEnd) || (← peek (peekPunct ",")) then return first.1 ++ (← exprTail n)
    if ← peek (peekPunct ";") then
      let semi ← punct ";"
      let len ← expr n
      return first.1 ++ semi ++ len.1
    failHere "expected `,` or `;`"

/-- Expressions separated by commas to the end of the group, a trailing comma allowed. -/
def exprList : Nat → Parser (List Token)
  | 0 => tooDeep
  | n + 1 => do
    if ← atEnd then return []
    let e ← expr n
    if ← atEnd then return e.1
    let comma ← punct ","
    pure (e.1 ++ comma ++ (← exprList n))

/-- Calls, method calls, fields, indexing and `?` after an operand. -/
def trailers : Nat → ExprOut → Parser ExprOut
  | 0, _ => tooDeep
  | n + 1, (e, form) => do
    if ← peek (peekGroup .paren) then
      let body ← group .paren
      let args ← within .paren body (exprList n)
      return ← trailers n (e ++ Tokens.paren args, .other)
    if (← peek (peekPunct ".")) && !(← peek (peekPunct "..")) && form != .range then
      let dot ← punct "."
      match ← rest with
      | .literal t :: _ =>
        if isFloatText t then
          let _ ← next
          let (fields, trailingDot) ← floatFields t
          if trailingDot then return ← dotMember n (e ++ dot ++ fields) (Tokens.op ".")
          return ← trailers n (e ++ dot ++ fields, .other)
        return ← dotMember n e dot
      | _ => return ← dotMember n e dot
    if ← peek (peekGroup .bracket) then
      let body ← group .bracket
      let index ← within .bracket body (expr n)
      return ← trailers n (e ++ Tokens.bracket index.1, .other)
    if (← peek (peekPunct "?")) && form != .range then
      let q ← punct "?"
      return ← trailers n (e ++ q, .other)
    pure (e, form)

/-- What follows a `.` after an operand: `await`, a method call, or a field; then more
trailers. -/
def dotMember : Nat → List Token → List Token → Parser ExprOut
  | 0, _, _ => tooDeep
  | n + 1, e, dot => do
    if ← peek (kw "await") then
      let a ← keyword "await"
      return ← trailers n (e ++ dot ++ a, .other)
    let (m, named) ← member
    let turbofish ← if named && (← peek (peekPunct "::")) then angleArguments n else pure []
    if named && (!turbofish.isEmpty || (← peek (peekGroup .paren))) then
      let body ← group .paren
      let args ← within .paren body (exprList n)
      return ← trailers n (e ++ dot ++ m ++ turbofish ++ Tokens.paren args, .other)
    trailers n (e ++ dot ++ m, .other)

/-- Binary operators, assignments, ranges and casts after a left operand, binding at least as
strongly as `base`. -/
def binaryLoop : Nat → Bool → ExprOut → Nat → Parser ExprOut
  | 0, _, _, _ => tooDeep
  | n + 1, allowStruct, (lhs, form), base => do
    if form == .range then return (lhs, form)
    match binaryOperator? (← rest) with
    | some (o, strength) =>
      if strength < base then return (lhs, form)
      if strength == 6 && form == .comparison then
        failHere "comparison operators cannot be chained"
      let opTokens ← punct o
      let rhs ← binaryRhs n allowStruct strength
      binaryLoop n allowStruct (lhs ++ opTokens ++ rhs.1,
        if strength == 6 then .comparison else .other) base
    | none =>
      if 1 ≥ base && (← peek (peekPunct "=")) && !(← peek (peekPunct "=>")) then
        let eq ← punct "="
        let rhs ← binaryRhs n allowStruct 1
        binaryLoop n allowStruct (lhs ++ eq ++ rhs.1, .other) base
      else if 2 ≥ base && (← peek (peekPunct "..")) then
        let limits ← rangeLimits
        let closed := limits.length == 3
        if !closed && (← peek (rangeEndsHere allowStruct)) then
          binaryLoop n allowStruct (lhs ++ limits, .range) base
        else
          let e ← binaryRhs n allowStruct 2
          binaryLoop n allowStruct (lhs ++ limits ++ e.1, .range) base
      else if 13 ≥ base && (← peek (kw "as")) then
        let as_ ← keyword "as"
        let ty ← type n false
        castFollow
        binaryLoop n allowStruct (lhs ++ as_ ++ ty.1, .other) base
      else pure (lhs, form)

/-- The right operand of a binary operator of the given strength. -/
def binaryRhs : Nat → Bool → Nat → Parser ExprOut
  | 0, _, _ => tooDeep
  | n + 1, allowStruct, strength => do
    let rhs ← unaryExpr n allowStruct
    rhsLoop n allowStruct strength rhs

/-- Operators after a right operand that bind more strongly than its own operator. -/
def rhsLoop : Nat → Bool → Nat → ExprOut → Parser ExprOut
  | 0, _, _, _ => tooDeep
  | n + 1, allowStruct, strength, rhs => do
    let nextOp := nextStrength (← rest)
    if nextOp > strength || (nextOp == strength && strength == 1) then
      let before := (← rest).length
      let rhs' ← binaryLoop n allowStruct rhs nextOp
      if (← rest).length == before then return rhs'
      rhsLoop n allowStruct strength rhs'
    else pure rhs

/-- A visibility: `pub`, `pub(crate)`, `pub(self)`, `pub(super)` or `pub(in path)`; its tokens,
none when no visibility is written. -/
def visibility : Nat → Parser (List Token)
  | 0 => tooDeep
  | n + 1 => do
    let some p ← keyword? "pub" | return []
    match ← rest with
    | .group .paren body :: _ =>
      if (kw "crate" body || kw "self" body || kw "super" body) && body.length == 1 then
        let _ ← group .paren
        return p ++ Tokens.paren body
      else if kw "in" body then
        let _ ← group .paren
        let inner ← within .paren body do
          let i ← keyword "in"
          let (_, _, path) ← modPath n
          pure (i ++ path)
        return p ++ Tokens.paren inner
      else return p
    | _ => return p

/-- The bounds of a `where` predicate on a type, up to what ends the clause. -/
def predicateBounds : Nat → Parser (List Token)
  | 0 => tooDeep
  | n + 1 => do
    if whereEnds true (← rest) then return []
    let (b, _) ← bound n true false
    match ← punct? "+" with
    | none => pure b
    | some plus => pure (b ++ plus ++ (← predicateBounds n))

/-- The bounds of a `where` predicate on a lifetime. -/
def lifetimePredicateBounds : Nat → Parser (List Token)
  | 0 => tooDeep
  | n + 1 => do
    if whereEnds false (← rest) then return []
    let l ← lifetime
    match ← punct? "+" with
    | none => pure l
    | some plus => pure (l ++ plus ++ (← lifetimePredicateBounds n))

/-- One `where` predicate. -/
def predicate : Nat → Parser (List Token)
  | 0 => tooDeep
  | n + 1 => do
    if (← peek peekLifetime) && (← peekAt 1 (peekPunct ":")) then
      let l ← lifetime
      let colon ← punct ":"
      let bounds ← lifetimePredicateBounds n
      return l ++ colon ++ bounds
    let lifetimes ← if ← peek (kw "for") then boundLifetimes n else pure []
    let (ty, _) ← type n true
    let colon ← punct ":"
    let bounds ← predicateBounds n
    pure (lifetimes ++ ty ++ colon ++ bounds)

/-- The predicates of a `where` clause after `where`, each with the comma written after it. -/
def predicates : Nat → Parser (List (List Token × List Token))
  | 0 => tooDeep
  | n + 1 => do
    if whereEnds true (← rest) then return []
    let p ← predicate n
    match ← punct? "," with
    | none => pure [(p, [])]
    | some comma => pure ((p, comma) :: (← predicates n))

/-- A `where` clause: its predicates. -/
def whereClause : Nat → Parser (List (List Token × List Token))
  | 0 => tooDeep
  | n + 1 => do
    let _ ← keyword "where"
    predicates n

/-- A `where` clause if one is written here. -/
def whereClause? : Nat → Parser (Option (List (List Token × List Token)))
  | 0 => tooDeep
  | n + 1 => do
    if ← peek (kw "where") then return some (← whereClause n)
    pure none

/-- Generic parameters `<…>` if they are written here. -/
def generics? : Nat → Parser (Option (List (GenericParam × List Token)))
  | 0 => tooDeep
  | n + 1 => do
    if !(← peek (peekPunct "<")) then return none
    let _ ← punct "<"
    let (_, params) ← genericParamList n true
    let _ ← punct ">"
    pure (some params)

/-- Generic parameters `<…>`, none when they are not written. -/
def generics : Nat → Parser (List (GenericParam × List Token))
  | 0 => tooDeep
  | n + 1 => do pure ((← generics? n).getD [])

/-- Named fields separated by commas to the end of the group: each field, and the tokens of
them all. A field named `_` may have an anonymous struct or union as its type. -/
def namedFields : Nat → Parser (List Field × List Token)
  | 0 => tooDeep
  | n + 1 => do
    if ← atEnd then return ([], [])
    let attrs ← attributes n
    let vis ← visibility n
    let anonymous ← peek (kw "_")
    let ident ← if anonymous then identAny else Parser.ident
    let colon ← punct ":"
    let before ← rest
    let ty ← if anonymous && ((← peek (kw "struct")) ||
        ((← peek (kw "union")) && (← peekAt 1 (peekGroup .brace)))) then
        let _ ← identAny
        let body ← group .brace
        let _ ← within .brace body (namedFields n)
        readSince before
      else pure (← type n true).1
    let f : Field := { attrs, ident, ty }
    let ts := attrs.flatMap (·.tokens) ++ vis ++ [ident] ++ colon ++ ty
    if ← atEnd then return ([f], ts)
    let comma ← punct ","
    let (more, moreTokens) ← namedFields n
    pure (f :: more, ts ++ comma ++ moreTokens)

/-- Unnamed fields separated by commas to the end of the group. -/
def unnamedFields : Nat → Parser (List Token)
  | 0 => tooDeep
  | n + 1 => do
    if ← atEnd then return []
    let attrs := (← attributes n).flatMap (·.tokens)
    let vis ← visibility n
    let (ty, _) ← type n true
    let ts := attrs ++ vis ++ ty
    if ← atEnd then return ts
    let comma ← punct ","
    pure (ts ++ comma ++ (← unnamedFields n))

/-- Named fields in braces. -/
def bracedFields : Nat → Parser (List Field × List Token)
  | 0 => tooDeep
  | n + 1 => do
    let body ← group .brace
    let (fs, ts) ← within .brace body (namedFields n)
    pure (fs, Tokens.brace ts)

/-- Unnamed fields in parentheses. -/
def parenthesizedFields : Nat → Parser (List Token)
  | 0 => tooDeep
  | n + 1 => do
    let body ← group .paren
    let ts ← within .paren body (unnamedFields n)
    pure (Tokens.paren ts)

/-- The rest of a struct after its generic parameters: a `where` clause and the fields. -/
def structData : Nat → Parser (Option (List (List Token × List Token)) × StructShape)
  | 0 => tooDeep
  | n + 1 => do
    let whereFirst ← whereClause? n
    if whereFirst.isNone && (← peek (peekGroup .paren)) then
      let fields ← parenthesizedFields n
      let whereAfter ← whereClause? n
      if ← peek (peekPunct ";") then
        let _ ← punct ";"
        return (whereAfter, .unnamed fields)
      if whereAfter.isSome then expected ["`;`"] else expected ["`where`", "`;`"]
    if ← peek (peekGroup .brace) then
      let (fs, ts) ← bracedFields n
      return (whereFirst, .named fs ts)
    if ← peek (peekPunct ";") then
      let _ ← punct ";"
      return (whereFirst, .unit)
    if whereFirst.isSome then expected ["curly braces", "`;`"]
    else expected ["`where`", "parentheses", "curly braces", "`;`"]

/-- Enum variants separated by commas to the end of the group. A variant's visibility is not
written out again. -/
def variants : Nat → Parser (List Token)
  | 0 => tooDeep
  | n + 1 => do
    if ← atEnd then return []
    let attrs := (← attributes n).flatMap (·.tokens)
    let _ ← visibility n
    let i ← Parser.ident
    let fields ← if ← peek (peekGroup .brace) then pure (← bracedFields n).2
      else if ← peek (peekGroup .paren) then parenthesizedFields n
      else pure []
    let discriminant ← if ← peek (peekPunct "=") then
        let eq ← punct "="
        let e ← expr n
        pure (eq ++ e.1)
      else pure []
    let ts := attrs ++ [i] ++ fields ++ discriminant
    if ← atEnd then return ts
    let comma ← punct ","
    pure (ts ++ comma ++ (← variants n))

/-- A method receiver: `self`, `mut self`, `&self`, `&'a mut self`, or `self: Type`. -/
def receiver : Nat → Parser (List Token)
  | 0 => tooDeep
  | n + 1 => do
    let reference ← if ← peek (peekPunct "&") then
        let amp ← punct "&"
        let l ← if ← peek peekLifetime then lifetime else pure []
        pure (some (amp ++ l))
      else pure none
    let mutability := (← keyword? "mut").getD []
    let s ← keyword "self"
    if reference.isNone && (← peek (peekPunct ":")) then
      let colon ← punct ":"
      let (t, _) ← type n true
      return mutability ++ s ++ colon ++ t
    pure (reference.getD [] ++ mutability ++ s)

/-- The parameters of a function to the end of its parentheses: a receiver first, typed
patterns, and a variadic `...` last. -/
def fnArgs : Nat → Bool → Bool → Parser (List Token)
  | 0, _, _ => tooDeep
  | n + 1, hasArgs, hasReceiver => do
    if ← atEnd then return []
    let attrs := (← attributes n).flatMap (·.tokens)
    if ← peek (peekPunct "...") then
      let dots ← punct "..."
      let comma ← if ← atEnd then pure [] else punct ","
      return attrs ++ dots ++ comma
    if let some r ← attempt (receiver n) then
      if hasReceiver then fail "unexpected second method receiver"
      if hasArgs then fail "unexpected method receiver"
      return ← fnArgsAfter n (attrs ++ r) true
    if (← peek plainIdentNext) && (← peekAt 1 (peekPunct "<")) then
      let (t, _) ← type n true
      return ← fnArgsAfter n (attrs ++ [.ident "_" false] ++ Tokens.op ":" ++ t) hasReceiver
    let (p, _) ← patSingle n
    let colon ← punct ":"
    if ← peek (peekPunct "...") then
      let dots ← punct "..."
      let comma ← if ← atEnd then pure [] else punct ","
      return attrs ++ p ++ colon ++ dots ++ comma
    let (t, _) ← type n true
    fnArgsAfter n (attrs ++ p ++ colon ++ t) hasReceiver

/-- A function parameter's comma and the parameters after it. -/
def fnArgsAfter : Nat → List Token → Bool → Parser (List Token)
  | 0, _, _ => tooDeep
  | n + 1, arg, hasReceiver => do
    if ← atEnd then return arg
    let comma ← punct ","
    pure (arg ++ comma ++ (← fnArgs n true hasReceiver))

/-- A function signature: qualifiers, ABI, `fn`, name, generic parameters, parameters, return
type and `where` clause; its tokens, and whether it is marked `safe` (where `allowSafe`). -/
def signature : Nat → Bool → Parser (List Token × Bool)
  | 0, _ => tooDeep
  | n + 1, allowSafe => do
    let constness := (← keyword? "const").getD []
    let asyncness := (← keyword? "async").getD []
    let unsafety := (← keyword? "unsafe").getD []
    let safe := allowSafe && unsafety.isEmpty && (← peek (kw "safe"))
    if safe then let _ ← identAny
    let abi ← if ← peek (kw "extern") then
        let e ← keyword "extern"
        let name ← if ← peek stringLiteralNext then literal else pure []
        pure (e ++ name)
      else pure []
    let f ← keyword "fn"
    let i ← Parser.ident
    let params ← generics n
    let body ← group .paren
    let args ← within .paren body (fnArgs n false false)
    let output ← if ← peek (peekPunct "->") then
        let arrow ← punct "->"
        let (t, _) ← type n true
        pure (arrow ++ t)
      else pure []
    let preds := (← whereClause? n).getD []
    pure (constness ++ asyncness ++ unsafety ++ abi ++ f ++ [i] ++ genericsTokens params ++
      Tokens.paren args ++ output ++ whereTokens preds, safe)

/-- Bounds after `:` up to what ends them (`stop`): bounds separated by `+`. -/
def boundsUntil : Nat → (List Token → Bool) → Bool → Parser (List Token)
  | 0, _, _ => tooDeep
  | n + 1, stop, allowConst => do
    if ← peek stop then return []
    let (b, _) ← bound n allowConst false
    if ← peek stop then return b
    let plus ← punct "+"
    pure (b ++ plus ++ (← boundsUntil n stop allowConst))

/-- A type alias as items of every kind write it, after the visibility: `type`, name, generic
parameters, bounds, `where` before and after the definition as `whereBefore` and
`whereAfter` allow, and `;`. -/
def flexibleType : Nat → Bool → Bool → Parser FlexibleType
  | 0, _, _ => tooDeep
  | n + 1, whereBefore, whereAfter => do
    let t ← keyword "type"
    let i ← Parser.ident
    let params ← generics? n
    let colon ← punct? ":"
    let bounds ← if colon.isSome then
        boundsUntil n (fun ts => kw "where" ts || peekPunct "=" ts || peekPunct ";" ts) true
      else pure []
    let preds ← if whereBefore then whereClause? n else pure none
    let definition ← match ← punct? "=" with
      | some eq =>
        let (d, _) ← type n true
        pure (some (eq ++ d))
      | none => pure none
    let preds ← if whereAfter && preds.isNone then whereClause? n else pure preds
    let semi ← punct ";"
    pure { head := t ++ [i], params, colon := colon.isSome, bounds, definition, preds, semi }

/-- A macro call as an item: a path, `!`, a delimited group, and `;` unless the group is in
braces. `named` items may give the macro a name after the `!`. -/
def itemMacro : Nat → Bool → Parser (List Token)
  | 0, _ => tooDeep
  | n + 1, named => do
    let (_, _, path) ← modPath n
    let bang ← punct "!"
    let name ← if named && (← peek (kw "try")) then pure [← identAny]
      else if named && (← peek plainIdentNext) then pure [← Parser.ident]
      else pure []
    let body ← macroBody
    let semi ← if isBraceGroup body then pure [] else punct ";"
    pure (path ++ bang ++ name ++ body ++ semi)

/-- A `const` item after its visibility: kept as written when it has generic parameters, a
`where` clause, or no value where one is required. -/
def constItem : Nat → List Token → List Token → Bool → Parser (List Token)
  | 0, _, _, _ => tooDeep
  | n + 1, before, head, valueRequired => do
    let c ← keyword "const"
    let i ← if (← peek plainIdentNext) || (← peek (kw "_")) then identAny
      else expected ["identifier", "`_`"]
    let params ← generics? n
    let colon ← punct ":"
    let (t, _) ← type n true
    let value ← match ← punct? "=" with
      | some eq =>
        let e ← expr n
        pure (some (eq ++ e.1))
      | none => pure none
    let preds ← whereClause? n
    let semi ← punct ";"
    if params.isSome || preds.isSome || (valueRequired && value.isNone) then readSince before
    else pure (head ++ c ++ [i] ++ colon ++ t ++ value.getD [] ++ semi)

/-- A function after its visibility and `default`: a signature, then a body or `;`. Outside a
trait a function without a body is kept as written (`bodyExpected`). -/
def fnItem : Nat → List Token → List Token → Bool → Parser (List Token)
  | 0, _, _, _ => tooDeep
  | n + 1, before, head, bodyExpected => do
    let (sig, _) ← signature n false
    if ← peek (peekPunct ";") then
      let semi ← punct ";"
      if bodyExpected then return ← readSince before
      return head ++ sig ++ semi
    if bodyExpected || (← peek (peekGroup .brace)) then return head ++ sig ++ (← innerBlock n)
    expected ["curly braces", "`;`"]

/-- The items of a trait, to the end of its braces. -/
def traitItems : Nat → Parser (List Token)
  | 0 => tooDeep
  | n + 1 => do
    if ← atEnd then return []
    let before ← rest
    let attrs := (← attributes n).flatMap (·.tokens)
    let vis ← visibility n
    let defaultness := (← keyword? "default").getD []
    let plain := vis.isEmpty && defaultness.isEmpty
    let ts ← rest
    let t1 := skipOne ts
    let it ← if kw "fn" ts || signatureAhead false ts then fnItem n before attrs false
      else if kw "const" ts then
        if plainIdentNext t1 || kw "_" t1 then constItem n before attrs false
        else if kw "async" t1 || kw "unsafe" t1 || kw "extern" t1 || kw "fn" t1 then
          fnItem n before attrs false
        else do
          let _ ← keyword "const"
          expected ["identifier", "`_`", "`async`", "`unsafe`", "`extern`", "`fn`"]
      else if kw "type" ts then do
        let f ← flexibleType n false true
        pure (attrs ++ f.traitTokens)
      else if plain && macroPathStart ts then do
        let m ← itemMacro n false
        pure (attrs ++ m)
      else
        expected (["`fn`", "`const`", "`type`"] ++
          (if plain then ["identifier", "`self`", "`super`", "`crate`", "`::`"] else []))
    let it ← if plain then pure it else readSince before
    pure (it ++ (← traitItems n))

/-- The items of an impl block, to the end of its braces. -/
def implItems : Nat → Parser (List Token)
  | 0 => tooDeep
  | n + 1 => do
    if ← atEnd then return []
    let before ← rest
    let attrs := (← attributes n).flatMap (·.tokens)
    let vis ← visibility n
    let defaultNext ← peek (kw "default")
    let defaultness ← if defaultNext && !(← peekAt 1 (peekPunct "!")) then keyword "default"
      else pure []
    let plain := vis.isEmpty && defaultness.isEmpty
    let head := attrs ++ vis ++ defaultness
    let ts ← rest
    let it ← if kw "fn" ts || signatureAhead false ts then fnItem n before head true
      else if kw "const" ts then constItem n before head true
      else if kw "type" ts then do
        let f ← flexibleType n false true
        match f.definition with
        | some d =>
          if f.colon then readSince before
          else pure (head ++ f.head ++ genericsTokens (f.params.getD []) ++ d ++
            whereTokens (f.preds.getD []) ++ f.semi)
        | none => readSince before
      else if plain && macroPathStart ts then do
        let m ← itemMacro n false
        pure (attrs ++ m)
      else
        expected ((if defaultNext then [] else ["`default`"]) ++ ["`fn`", "`const`", "`type`"] ++
          (if plain then ["identifier", "`self`", "`super`", "`crate`", "`::`"] else []))
    pure (it ++ (← implItems n))

/-- The items of a foreign block, to the end of its braces. -/
def foreignItems : Nat → Parser (List Token)
  | 0 => tooDeep
  | n + 1 => do
    if ← atEnd then return []
    let before ← rest
    let attrs := (← attributes n).flatMap (·.tokens)
    let vis ← visibility n
    let ts ← rest
    let t1 := skipOne ts
    let it ← if kw "fn" ts || signatureAhead true ts then do
        let (sig, safe) ← signature n true
        if ← peek (peekGroup .brace) then
          let _ ← innerBlock n
          readSince before
        else
          let semi ← punct ";"
          if safe then readSince before else pure (attrs ++ vis ++ sig ++ semi)
      else if kw "static" ts || ((kw "unsafe" ts || kw "safe" ts) && kw "static" t1) then do
        let unsafety := (← keyword? "unsafe").getD []
        let safe := unsafety.isEmpty && (← peek (kw "safe"))
        if safe then let _ ← identAny
        let s ← keyword "static"
        let mutability := (← keyword? "mut").getD []
        let i ← Parser.ident
        let colon ← punct ":"
        let (t, _) ← type n true
        let hasValue ← peek (peekPunct "=")
        if hasValue then
          let _ ← punct "="
          let _ ← expr n
        let semi ← punct ";"
        if !unsafety.isEmpty || safe || hasValue then readSince before
        else pure (attrs ++ vis ++ s ++ mutability ++ [i] ++ colon ++ t ++ semi)
      else if kw "type" ts then do
        let f ← flexibleType n true true
        if f.colon || f.definition.isSome then readSince before
        else pure (attrs ++ vis ++ f.head ++ genericsTokens (f.params.getD []) ++
          whereTokens (f.preds.getD []) ++ f.semi)
      else if vis.isEmpty && macroPathStart ts then do
        let m ← itemMacro n false
        pure (attrs ++ m)
      else
        expected (["`fn`", "`static`", "`type`"] ++
          (if vis.isEmpty then ["identifier", "`self`", "`super`", "`crate`", "`::`"] else []))
    pure (it ++ (← foreignItems n))

/-- A `use` tree; whether it is one that is written out (a group with a `::` at the root of one
of its paths is kept as written instead). -/
def useTree : Nat → Bool → Parser (List Token × Bool)
  | 0, _ => tooDeep
  | n + 1, allowRoot => do
    let ts ← rest
    if plainIdentNext ts || kw "self" ts || kw "super" ts || kw "crate" ts || kw "try" ts then
      let i ← identAny
      if ← peek (peekPunct "::") then
        let sep ← punct "::"
        let (t, ok) ← useTree n false
        return ([i] ++ sep ++ t, ok)
      if ← peek (kw "as") then
        let a ← keyword "as"
        let r ← if ← peek plainIdentNext then Parser.ident
          else if ← peek (kw "_") then identAny
          else failHere "expected identifier or underscore"
        return ([i] ++ a ++ [r], true)
      return ([i], true)
    if peekPunct "*" ts then return (← punct "*", true)
    if peekGroup .brace ts then
      let body ← group .brace
      let (inner, ok) ← within .brace body (useGroup n allowRoot false)
      return (Tokens.brace inner, ok)
    expected ["identifier", "`self`", "`super`", "`crate`", "`try`", "`*`", "curly braces"]

/-- The trees of a `use` group, separated by commas. -/
def useGroup : Nat → Bool → Bool → Parser (List Token × Bool)
  | 0, _, _ => tooDeep
  | n + 1, allowRoot, hasRoot => do
    if ← atEnd then return ([], !hasRoot)
    let startsRoot ← if allowRoot then pure (← punct? "::").isSome else pure false
    let (t, ok) ← useTree n (allowRoot && !startsRoot)
    let hasRoot := hasRoot || startsRoot || !ok
    if ← atEnd then return (t, !hasRoot)
    let comma ← punct ","
    let (more, ok') ← useGroup n allowRoot hasRoot
    pure (t ++ comma ++ more, ok')

/-- The rest of a trait after its generic parameters: supertraits, `where` clause and items. -/
def traitRest : Nat → List Token → List (GenericParam × List Token) → Parser (List Token)
  | 0, _, _ => tooDeep
  | n + 1, head, params => do
    let colon ← punct? ":"
    let supertraits ← if colon.isSome then
        boundsUntil n (fun ts => kw "where" ts || peekGroup .brace ts) true
      else pure []
    let preds := (← whereClause? n).getD []
    let body ← group .brace
    let inner ← within .brace body do
      let ia ← innerAttributes n
      let items ← traitItems n
      pure (ia ++ items)
    let supers := if supertraits.isEmpty then [] else Tokens.op ":" ++ supertraits
    pure (head ++ genericsTokens params ++ supers ++ whereTokens preds ++ Tokens.brace inner)

/-- An `impl` block after its visibility; kept as written when it has a visibility, is `const`,
or implements something that is not a trait path. -/
def implBlock : Nat → List Token → List Token → Bool → Parser (List Token)
  | 0, _, _, _ => tooDeep
  | n + 1, before, attrs, hasVisibility => do
    let defaultness := (← keyword? "default").getD []
    let unsafety := (← keyword? "unsafe").getD []
    let i ← keyword "impl"
    let params ← if ← peek chooseGenerics then generics? n else pure none
    let isConst ← peek fun ts => kw "const" ts || (peekPunct "?" ts && kw "const" (skipOne ts))
    if isConst then
      let _ ← punct? "?"
      let _ ← keyword "const"
    let polarity ← if (← peek (peekPunct "!")) && !(← peekAt 1 (peekGroup .brace)) then punct "!"
      else pure []
    let (first, firstForm) ← type n true
    let isFor ← peek (kw "for")
    let (traitPart, selfTy, traitPath) ← if isFor then do
        let f ← keyword "for"
        let (selfTy, _) ← type n true
        pure (polarity ++ first ++ f, selfTy, firstForm.isPlainPath)
      else if !polarity.isEmpty then fail "inherent impls cannot be negative"
      else pure ([], first, true)
    let preds := (← whereClause? n).getD []
    let body ← group .brace
    let inner ← within .brace body do
      let ia ← innerAttributes n
      let items ← implItems n
      pure (ia ++ items)
    if hasVisibility || isConst || !traitPath then return ← readSince before
    pure (attrs ++ defaultness ++ unsafety ++ i ++ genericsTokens (params.getD []) ++ traitPart ++
      selfTy ++ whereTokens preds ++ Tokens.brace inner)

/-- A foreign block `unsafe extern "abi" { … }`; a visibility may not come before it. -/
def foreignBlock : Nat → List Token → List Token → Parser (List Token)
  | 0, _, _ => tooDeep
  | n + 1, attrs, vis => do
    if !vis.isEmpty then fail "expected `extern`"
    let unsafety := (← keyword? "unsafe").getD []
    let e ← keyword "extern"
    let name ← if ← peek stringLiteralNext then literal else pure []
    let body ← group .brace
    let inner ← within .brace body do
      let ia ← innerAttributes n
      let items ← foreignItems n
      pure (ia ++ items)
    pure (attrs ++ unsafety ++ e ++ name ++ Tokens.brace inner)

/-- A module: `mod name;` or `mod name { items }`. -/
def moduleItem : Nat → List Token → Parser (List Token)
  | 0, _ => tooDeep
  | n + 1, head => do
    let unsafety := (← keyword? "unsafe").getD []
    let m ← keyword "mod"
    let i ← if ← peek (kw "try") then identAny else Parser.ident
    let head := head ++ unsafety ++ m ++ [i]
    if ← peek (peekPunct ";") then return head ++ (← punct ";")
    if ← peek (peekGroup .brace) then
      let body ← group .brace
      let inner ← within .brace body do
        let ia ← innerAttributes n
        let items ← itemList n
        pure (ia ++ items)
      return head ++ Tokens.brace inner
    expected ["`;`", "curly braces"]

/-- Items to the end of the group. -/
def itemList : Nat → Parser (List Token)
  | 0 => tooDeep
  | n + 1 => do
    if ← atEnd then return []
    let before ← rest
    let attrs := (← attributes n).flatMap (·.tokens)
    let it ← item n before attrs
    pure (it ++ (← itemList n))

/-- An item after its attributes; `before` is where it began, attributes included, for the
items that are kept as written. -/
def item : Nat → List Token → List Token → Parser (List Token)
  | 0, _, _ => tooDeep
  | n + 1, before, attrs => do
    let vis ← visibility n
    let head := attrs ++ vis
    let ts ← rest
    let t1 := skipOne ts
    if kw "fn" ts || signatureAhead false ts then return ← fnItem n before head true
    if kw "extern" ts then
      if kw "crate" t1 then
        let e ← keyword "extern"
        let c ← keyword "crate"
        let name ← if ← peek (kw "self") then identAny else Parser.ident
        let rename ← if ← peek (kw "as") then
            let a ← keyword "as"
            let r ← if ← peek (kw "_") then identAny else Parser.ident
            pure (a ++ [r])
          else pure []
        let semi ← punct ";"
        return head ++ e ++ c ++ [name] ++ rename ++ semi
      if peekGroup .brace t1 || (stringLiteralNext t1 && peekGroup .brace (skipOne t1)) then
        return ← foreignBlock n attrs vis
      let _ ← keyword "extern"
      if stringLiteralNext t1 then
        let _ ← literal
        expected ["curly braces"]
      expected ["`crate`", "curly braces", "string literal"]
    if kw "use" ts then
      let u ← keyword "use"
      let leading := (← punct? "::").getD []
      let (tree, ok) ← useTree n leading.isEmpty
      let semi ← punct ";"
      if !ok then return ← readSince before
      return head ++ u ++ leading ++ tree ++ semi
    if kw "static" ts then
      let s ← keyword "static"
      let mutability := (← keyword? "mut").getD []
      let i ← Parser.ident
      if ← peek (peekPunct "=") then
        let _ ← punct "="
        let _ ← expr n
        let _ ← punct ";"
        return ← readSince before
      let colon ← punct ":"
      let (t, _) ← type n true
      if ← peek (peekPunct ";") then
        let _ ← punct ";"
        return ← readSince before
      let eq ← punct "="
      let e ← expr n
      let semi ← punct ";"
      return head ++ s ++ mutability ++ [i] ++ colon ++ t ++ eq ++ e.1 ++ semi
    if kw "const" ts then return ← constItem n before head true
    if kw "unsafe" ts then
      if kw "trait" t1 || (kw "auto" t1 && kw "trait" (skipOne t1)) then
        let u ← keyword "unsafe"
        let a := (← keyword? "auto").getD []
        let t ← keyword "trait"
        let i ← Parser.ident
        let params ← generics n
        return ← traitRest n (head ++ u ++ a ++ t ++ [i]) params
      if kw "impl" t1 then return ← implBlock n before attrs !vis.isEmpty
      if kw "extern" t1 then return ← foreignBlock n attrs vis
      if kw "mod" t1 then return ← moduleItem n head
      let _ ← keyword "unsafe"
      expected (["`trait`"] ++ (if kw "auto" t1 then [] else ["`auto`"]) ++
        ["`impl`", "`extern`", "`mod`"])
    if kw "mod" ts then return ← moduleItem n head
    if kw "type" ts then
      let f ← flexibleType n true false
      match f.definition with
      | some d =>
        if f.colon then return ← readSince before
        return head ++ f.head ++ genericsTokens (f.params.getD []) ++
          whereTokens (f.preds.getD []) ++ d ++ f.semi
      | none => return ← readSince before
    if kw "struct" ts then
      let s ← keyword "struct"
      let i ← Parser.ident
      let params ← generics n
      let (preds, shape) ← structData n
      let w := whereTokens (preds.getD [])
      let g := genericsTokens params
      let semi := Tokens.op ";"
      return head ++ s ++ [i] ++ g ++ match shape with
        | .named _ fields => w ++ fields
        | .unnamed fields => fields ++ w ++ semi
        | .unit => w ++ semi
    if kw "enum" ts then
      let e ← keyword "enum"
      let i ← Parser.ident
      let params ← generics n
      let preds := (← whereClause? n).getD []
      let body ← group .brace
      let vs ← within .brace body (variants n)
      return head ++ e ++ [i] ++ genericsTokens params ++ whereTokens preds ++ Tokens.brace vs
    if kw "union" ts && plainIdentNext t1 then
      let u ← identAny
      let i ← Parser.ident
      let params ← generics n
      let preds := (← whereClause? n).getD []
      let (_, fields) ← bracedFields n
      return head ++ [u] ++ [i] ++ genericsTokens params ++ whereTokens preds ++ fields
    if kw "trait" ts then
      let t ← keyword "trait"
      let i ← Parser.ident
      let params ← generics n
      if (← peek (peekGroup .brace)) || (← peek (peekPunct ":")) || (← peek (kw "where")) then
        return ← traitRest n (head ++ t ++ [i]) params
      if ← peek (peekPunct "=") then
        let eq ← punct "="
        let bounds ← boundsUntil n (fun ts => kw "where" ts || peekPunct ";" ts) false
        let preds := (← whereClause? n).getD []
        let semi ← punct ";"
        return head ++ t ++ [i] ++ genericsTokens params ++ eq ++ bounds ++ whereTokens preds ++
          semi
      expected ["curly braces", "`:`", "`where`", "`=`"]
    if kw "auto" ts && kw "trait" t1 then
      let a ← identAny
      let t ← keyword "trait"
      let i ← Parser.ident
      let params ← generics n
      return ← traitRest n (head ++ [a] ++ t ++ [i]) params
    if kw "impl" ts || (kw "default" ts && !peekPunct "!" t1) then
      return ← implBlock n before attrs !vis.isEmpty
    if kw "macro" ts then
      let _ ← keyword "macro"
      let _ ← Parser.ident
      let paren ← peek (peekGroup .paren)
      if paren then let _ ← group .paren
      if ← peek (peekGroup .brace) then
        let _ ← group .brace
        return ← readSince before
      if paren then expected ["curly braces"] else expected ["parentheses", "curly braces"]
    if vis.isEmpty && macroPathStart ts then return attrs ++ (← itemMacro n true)
    expected (["`fn`", "`extern`", "`use`", "`static`", "`const`", "`unsafe`", "`mod`", "`type`",
      "`struct`", "`enum`", "`union`", "`trait`", "`auto`", "`impl`", "`default`", "`macro`"] ++
      (if vis.isEmpty then ["identifier", "`self`", "`super`", "`crate`", "`::`"] else []))

end

end ObjectMapping.Syntax
