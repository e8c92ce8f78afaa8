import ObjectMapping.Syntax.Declaration

/-!
# The `mapped` attributes of a record declaration

A record declaration steers what is generated for it with `#[mapped(…)]` attributes: on the
type `default` (the type has a constructor) and `auto_register` (it registers itself); on a
field `skip` (not a property), `adapted` (read and written through adapters), `default` (an
absent field takes its type's default) and `rename = "name"`.

* Every item may appear once per type or field, across all its `mapped` attributes; a second
  one is `duplicate attribute`. An unknown item names the ones allowed.
* `skip` goes with no other item on its field; `rename` needs a non-empty string.
* A `mapped` attribute must have its items in parentheses.

`Record.isPacked` reads `#[repr(…)]`: a record is packed when `packed` or `packed(N)` appears
among the representation items; other items and their arguments are passed over, and reading
stops without error at the first item it cannot read.
-/

namespace ObjectMapping.Record

open ObjectMapping.Syntax ObjectMapping.Syntax.Parser

/-- The items of `#[mapped(…)]` on a type. -/
structure TypeFlags where
  default : Bool := false
  autoRegister : Bool := false
  deriving Inhabited

/-- The items of `#[mapped(…)]` on a field; `rename` is the literal as written. -/
structure FieldFlags where
  skip : Bool := false
  adapted : Bool := false
  default : Bool := false
  rename : Option Token := none
  deriving Inhabited

/-- The further segments of an item path: an identifier after each `::` that follows. -/
def itemSegments : Nat → Parser (List Token)
  | 0 => tooDeep
  | k + 1 => do
    if ← peek (peekPunct "::") then
      let _ ← punct "::"
      let i ← identAny
      pure (i :: (← itemSegments k))
    else pure []

/-- The path of an item: whether it has a leading `::`, and its identifiers. -/
def itemPath (n : Nat) : Parser (Bool × List Token) := do
  let leading ← punct? "::"
  let first ← if ← peek anyIdentNext then identAny
    else if ← atEnd then failHere "expected nested attribute"
    else if ← peek peekLiteral then failHere "unexpected literal in nested attribute, expected ident"
    else failHere "unexpected token in nested attribute, expected ident"
  pure (leading.isSome, first :: (← itemSegments n))

/-- Whether an item path is the single identifier `name`. -/
def isItem (name : String) : Bool × List Token → Bool
  | (false, [t]) => isKeyword name t
  | _ => false

/-- The characters of a string literal's value, from the characters after its opening quote:
escapes are read and a line continuation leaves nothing. -/
def cookedValue : Nat → List Char → List Char
  | 0, _ => []
  | _ + 1, [] => []
  | fuel + 1, c :: rest =>
    if c == '"' then []
    else if c == '\\' then
      match rest with
      | 'n' :: r => '\n' :: cookedValue fuel r
      | 'r' :: r => '\r' :: cookedValue fuel r
      | 't' :: r => '\t' :: cookedValue fuel r
      | '0' :: r => '\x00' :: cookedValue fuel r
      | 'x' :: a :: b :: r =>
        Char.ofNat (((Tokens.hexValue? a).getD 0) * 16 + (Tokens.hexValue? b).getD 0) ::
          cookedValue fuel r
      | 'u' :: r =>
        match Tokens.unicodeEscape? r with
        | some (v, r') => Char.ofNat v :: cookedValue fuel r'
        | none => cookedValue fuel r
      | e :: r =>
        if e == '\n' || e == '\r' then
          cookedValue fuel (r.dropWhile fun d => d == ' ' || d == '\t' || d == '\n' || d == '\r')
        else e :: cookedValue fuel r
      | [] => []
    else c :: cookedValue fuel rest

/-- The value of a string literal, if a literal is a string (plain or raw, with an optional
suffix). -/
def stringValue? : Token → Option String
  | .literal t =>
    match t.toList with
    | '"' :: rest => some (String.ofList (cookedValue (rest.length + 1) rest))
    | 'r' :: rest =>
      let hashes := (rest.takeWhile (· == '#')).length
      match rest.drop hashes with
      | '"' :: body =>
        let closing := '"' :: List.replicate hashes '#'
        let rec upTo : Nat → List Char → List Char
          | 0, _ => []
          | _ + 1, [] => []
          | k + 1, d :: ds => if closing.isPrefixOf (d :: ds) then [] else d :: upTo k ds
        some (String.ofList (upTo (body.length + 1) body))
      | _ => none
    | _ => none
  | _ => none

/-- A string literal item value. -/
def stringItem : Parser Token := do
  if ← atEnd then failHere "expected string literal"
  match ← rest with
  | t :: _ =>
    match stringValue? t with
    | some _ => let _ ← next; pure t
    | none => fail "expected string literal"
  | [] => failHere "expected string literal"

/-- A flag set by an item, which may be set once. -/
def setOnce (already : Bool) : Parser Bool :=
  if already then fail "duplicate attribute" else pure true

/-- The items of one `mapped` attribute on a type, added to the flags so far. -/
def typeItems : Nat → TypeFlags → Parser TypeFlags
  | 0, _ => tooDeep
  | k + 1, flags => do
    let path ← itemPath k
    let flags ←
      if isItem "default" path then do pure { flags with default := ← setOnce flags.default }
      else if isItem "auto_register" path then do
        pure { flags with autoRegister := ← setOnce flags.autoRegister }
      else fail "expected `default` or `auto_register`"
    if ← atEnd then return flags
    let _ ← punct ","
    if ← atEnd then return flags
    typeItems k flags

/-- The items of one `mapped` attribute on a field, added to the flags so far. -/
def fieldItems : Nat → FieldFlags → Parser FieldFlags
  | 0, _ => tooDeep
  | k + 1, flags => do
    let path ← itemPath k
    let flags ←
      if isItem "skip" path then do pure { flags with skip := ← setOnce flags.skip }
      else if isItem "adapted" path then do pure { flags with adapted := ← setOnce flags.adapted }
      else if isItem "default" path then do pure { flags with default := ← setOnce flags.default }
      else if isItem "rename" path then do
        if flags.rename.isSome then fail "duplicate attribute"
        let _ ← punct "="
        let lit ← stringItem
        if (stringValue? lit).getD "" == "" then fail "the name cannot be empty"
        pure { flags with rename := some lit }
      else fail "expected `skip`, `adapted`, `default` or `rename`"
    if ← atEnd then return flags
    let _ ← punct ","
    if ← atEnd then return flags
    fieldItems k flags

/-- The items of a `mapped` attribute read by a parser of items; the attribute must have them in
parentheses. -/
def readItems (a : Attribute) (items : Nat → σ → Parser σ) (flags : σ) : Except String σ :=
  match a.form with
  | .path => .error "expected attribute arguments in parentheses: #[mapped(...)]"
  | .nameValue => .error "expected parentheses: #[mapped(...)]"
  | .list _ body =>
    if body.isEmpty then .ok flags
    else Parser.runAll (items (fuelFor body) flags) body

/-- The flags of the `mapped` attributes among a list of attributes, read in order. -/
def readAll (attrs : List Attribute) (items : Nat → σ → Parser σ) (flags : σ) : Except String σ :=
  (attrs.filter (·.isNamed "mapped")).foldlM (fun f a => readItems a items f) flags

/-- The type flags of a declaration's attributes. -/
def typeFlags (attrs : List Attribute) : Except String TypeFlags := readAll attrs typeItems {}

/-- The field flags of a field's attributes; `skip` must stand alone. -/
def fieldFlags (attrs : List Attribute) : Except String FieldFlags := do
  let flags ← readAll attrs fieldItems {}
  if flags.skip && (flags.adapted || flags.default || flags.rename.isSome) then
    throw "`skip` cannot be combined with other attributes"
  pure flags

/-- The items of a `repr` attribute as far as they can be read: whether `packed` is among
them. -/
def packedIn (body : List Token) : Bool :=
  let rec go : Nat → List Token → Bool → Bool
    | 0, _, found => found
    | k + 1, ts, found =>
      match (do
        let path ← itemPath k
        let found := found || isItem "packed" path
        if ← peek (peekGroup .paren) then let _ ← next
        pure found : Parser Bool).run { tokens := ts } with
      | .error _ => found
      | .ok (found', s) =>
        match s.tokens with
        | [] => found'
        | .punct ',' _ :: [] => found'
        | .punct ',' _ :: rest => go k rest found'
        | _ => found'
  go (fuelFor body) body false

/-- Whether a declaration is packed: a `repr` attribute with arguments naming `packed`. -/
def isPacked (attrs : List Attribute) : Bool :=
  attrs.any fun a =>
    a.isNamed "repr" && match a.form with
      | .list _ body => packedIn body
      | _ => false

end ObjectMapping.Record
