import ObjectMapping.Toml.Scalar

/-!
# TOML documents

`Toml.parse` reads a TOML text into a `Toml.Document`: tables with their entries in the order
they were made, values, inline tables and arrays of tables. It reads the text in two passes:
`Toml.readStatements` finds the statements, and then each statement's keys and value are
decoded and put in their place, in the order written. The first problem found wins, and a
problem with the shape of the text comes before any problem with what it says.

Tables come about three ways: by a header, on the way to a deeper header (implicitly), or by
dotted keys. The rules for putting things in place are those of TOML:

* a header may name a table made on the way to a deeper header and nothing else that exists;
  an array-of-tables header adds a table to an array of tables, or starts one;
* dotted keys pass through tables that dotted keys or deeper headers made, and the last table
  of an array of tables, never through a table with a header or through a value;
* a key with a value goes into a table that dotted keys made exactly when the key is dotted,
  and not over a key that is there;
* inside an inline table dotted keys only pass through the tables they made themselves.

A key that is taken is a `duplicate key`; dotted keys through a value cannot extend it.
-/

namespace ObjectMapping.Toml

/-- A value. An inline table knows whether dotted keys made it. -/
inductive Value where
  | string (s : String)
  | scalar (kind : Scalar)
  | array (items : List Value)
  | table (entries : List (String × Value)) (dotted : Bool)
  deriving Inhabited

/-- The name of a value's type in messages. -/
def Value.typeName : Value → String
  | .string _ => "string"
  | .scalar .integer => "integer"
  | .scalar .float => "float"
  | .scalar .boolean => "boolean"
  | .scalar .datetime => "datetime"
  | .array _ => "array"
  | .table _ _ => "inline table"

/-- How a table came to be. -/
inductive Origin where
  /-- By its own header. -/
  | header
  /-- On the way to a deeper header. -/
  | implicit
  /-- By dotted keys. -/
  | dotted
  deriving DecidableEq, Inhabited

/-- An entry of a table: a value, a table, or an array of tables. -/
inductive Item where
  | value (v : Value)
  | table (entries : List (String × Item)) (origin : Origin)
  | tables (list : List (List (String × Item)))
  deriving Inhabited

/-- The entries of a table, in the order they were made. -/
abbrev Entries := List (String × Item)

/-- A document: the entries of its root table. -/
abbrev Document := Entries

/-- A decoded simple key and where it is written. -/
structure Key where
  name : String
  span : Span
  deriving Inhabited

/-- A key that is taken. -/
def duplicateKey (k : Key) : Problem := Problem.plain "duplicate key" k.span

/-- Dotted keys that lead through a value. -/
def cannotExtend (k : Key) (v : Value) : Problem :=
  Problem.plain ("cannot extend value of type " ++ v.typeName ++ " with a dotted key") k.span

/-- Replaces the entry of a key. -/
def replaceEntry (entries : List (String × β)) (key : String) (item : β) : List (String × β) :=
  entries.map fun (k, e) => if k == key then (k, item) else (k, e)

/-- Decodes the simple keys of a key. -/
def decodeKeys (src : Array Char) (keys : List KeySyntax) : Except Problem (List Key) :=
  keys.mapM fun k => do pure ⟨← decodeKey src k, k.span⟩

/-- Puts a value at a dotted key into the entries of an inline table: `path` leads to `last`,
through tables the dotted keys made (made here when missing). The key goes into a table that
dotted keys made exactly when `path` is not empty, and not over a key that is there. -/
def insertInline (last : Key) (v : Value) (pathEmpty : Bool) :
    List Key → Bool → List (String × Value) → Except Problem (List (String × Value))
  | [], dotted, entries =>
    if dotted == pathEmpty then throw (duplicateKey last)
    else if entries.any (·.1 == last.name) then throw (duplicateKey last)
    else pure (entries ++ [(last.name, v)])
  | part :: more, _, entries =>
    match entries.find? (·.1 == part.name) with
    | none => do
      let inner ← insertInline last v pathEmpty more true []
      pure (entries ++ [(part.name, .table inner true)])
    | some (_, .table inner d) =>
      if !d then throw (duplicateKey part)
      else do
        let inner' ← insertInline last v pathEmpty more d inner
        pure (replaceEntry entries part.name (.table inner' d))
    | some (_, other) => throw (cannotExtend part other)

/-- Puts a decoded pair into the entries of an inline table. -/
def putInline (keys : List Key) (v : Value) (entries : List (String × Value)) :
    Except Problem (List (String × Value)) :=
  match keys.reverse with
  | [] => pure entries
  | last :: pathRev =>
    let path := pathRev.reverse
    insertInline last v path.isEmpty path false entries

mutual

/-- Decodes a value. -/
def decodeValue (src : Array Char) : ValueSyntax → Except Problem Value
  | .bare span => .scalar <$> decodeBare span.start (spanText src span)
  | .quoted form span => .string <$> decodeString form span.start (spanText src span)
  | .array items => .array <$> decodeItems src items
  | .inline pairs => (Value.table · false) <$> decodePairs src pairs []

/-- Decodes the items of an array. -/
def decodeItems (src : Array Char) : List ValueSyntax → Except Problem (List Value)
  | [] => pure []
  | item :: more => do
    let v ← decodeValue src item
    pure (v :: (← decodeItems src more))

/-- Decodes the pairs of an inline table and puts them in, in the order written. -/
def decodePairs (src : Array Char) :
    List (List KeySyntax × ValueSyntax) → List (String × Value) →
      Except Problem (List (String × Value))
  | [], entries => pure entries
  | (keys, value) :: more, entries => do
    let keys ← decodeKeys src keys
    let v ← decodeValue src value
    decodePairs src more (← putInline keys v entries)

end

/-- Goes down a path of keys from a table of `origin` and changes the table at its end with `f`,
which also gives a result. Tables missing on the way are made, as dotted tables for `dotted`
keys and as implicit ones for a header; an array of tables is entered at its last table. A
value on the way cannot be extended, and dotted keys do not enter a table with a header. -/
def descend (dotted : Bool) (f : Origin → Entries → Except Problem (Entries × α)) :
    List Key → Origin → Entries → Except Problem (Entries × α)
  | [], origin, entries => f origin entries
  | key :: more, _, entries =>
    match entries.find? (·.1 == key.name) with
    | none => do
      let made : Origin := if dotted then .dotted else .implicit
      let (inner, r) ← descend dotted f more made []
      pure (entries ++ [(key.name, .table inner made)], r)
    | some (_, .table inner o) =>
      if dotted && o == .header then throw (duplicateKey key)
      else do
        let (inner', r) ← descend dotted f more o inner
        pure (replaceEntry entries key.name (.table inner' o), r)
    | some (_, .tables list) =>
      match list.reverse with
      | last :: earlier => do
        let (last', r) ← descend dotted f more .header last
        pure (replaceEntry entries key.name (.tables (last' :: earlier).reverse), r)
      | [] => throw (duplicateKey key)
    | some (_, .value v) => throw (cannotExtend key v)

/-- A document being built: its root so far, the entries of the table whose lines are being
read, that table's header (empty before the first header), and whether it is a table of an
array. -/
structure Builder where
  root : Entries := []
  current : Entries := []
  header : List Key := []
  isArray : Bool := false
  deriving Inhabited

namespace Builder

/-- Puts the table being read into the document: the lines before the first header are the
root; a table of an array is added to its array; a table with a header takes the place of a
table made on the way or by dotted keys, and of nothing else. -/
def finalize (b : Builder) : Except Problem Builder := do
  match b.header.reverse with
  | [] => pure { b with root := b.current, current := [] }
  | last :: parentRev =>
    let (root, _) ← descend false (fun _ entries =>
      match entries.find? (·.1 == last.name), b.isArray with
      | none, true => pure (entries ++ [(last.name, .tables [b.current])], ())
      | none, false => pure (entries ++ [(last.name, .table b.current .header)], ())
      | some (_, .tables list), true =>
        pure (replaceEntry entries last.name (.tables (list ++ [b.current])), ())
      | some (_, .table _ o), false =>
        if o != .header then pure (replaceEntry entries last.name (.table b.current .header), ())
        else throw (duplicateKey last)
      | _, _ => throw (duplicateKey last)) parentRev.reverse .header b.root
    pure { b with root, current := [] }

/-- Starts the table of a header: the table made for it on the way to a deeper header, with
its entries, or a new one. -/
def startTable (b : Builder) (keys : List Key) : Except Problem Builder := do
  let b ← b.finalize
  match keys.reverse with
  | [] => pure b
  | last :: parentRev =>
    let (root, found) ← descend false (fun _ entries =>
      match entries.find? (·.1 == last.name) with
      | none => pure (entries, [])
      | some (_, .table inner .implicit) => pure (entries.filter (·.1 != last.name), inner)
      | some _ => throw (duplicateKey last)) parentRev.reverse .header b.root
    pure { root, current := found, header := keys, isArray := false }

/-- Starts a new table of the array of tables of a header. -/
def startArrayTable (b : Builder) (keys : List Key) : Except Problem Builder := do
  let b ← b.finalize
  match keys.reverse with
  | [] => pure b
  | last :: parentRev =>
    let (root, _) ← descend false (fun _ entries =>
      match entries.find? (·.1 == last.name) with
      | none => pure (entries ++ [(last.name, .tables [])], ())
      | some (_, .tables _) => pure (entries, ())
      | some _ => throw (duplicateKey last)) parentRev.reverse .header b.root
    pure { root, current := [], header := keys, isArray := true }

/-- Puts a value at a key into the table being read. A dotted key ends in a table that dotted
keys made, and a plain key in the table itself. -/
def putValue (b : Builder) (keys : List Key) (v : Value) : Except Problem Builder := do
  match keys.reverse with
  | [] => pure b
  | last :: pathRev =>
    let path := pathRev.reverse
    let (current, _) ← descend true (fun origin entries =>
      if (origin == .dotted) == path.isEmpty then throw (duplicateKey last)
      else if entries.any (·.1 == last.name) then throw (duplicateKey last)
      else pure (entries ++ [(last.name, .value v)], ())) path .header b.current
    pure { b with current }

/-- Takes in a statement: decodes its keys and value, and puts them in place. -/
def statement (src : Array Char) (b : Builder) : Statement → Except Problem Builder
  | .header keys isArray => do
    let keys ← decodeKeys src keys
    if isArray then b.startArrayTable keys else b.startTable keys
  | .pair keys value => do
    let keys ← decodeKeys src keys
    let v ← decodeValue src value
    b.putValue keys v

end Builder

/-- Reads a document; a byte order mark before it is passed over, and places stay those of the
whole text. -/
def parse (text : String) : Except Problem Document := do
  let cs := text.toList
  let (start, body) := match cs with
    | '\uFEFF' :: rest => (1, rest)
    | _ => (0, cs)
  let src := cs.toArray
  let statements ← readStatements src (tokenize start body)
  let b ← statements.foldlM (Builder.statement src) {}
  let b ← b.finalize
  pure b.root

end ObjectMapping.Toml
