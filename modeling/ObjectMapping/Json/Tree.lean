import ObjectMapping.Json.Reader
import ObjectMapping.Text.Quote

/-!
# JSON documents

`Tree` is a JSON document held whole: the requests the service reads and the answers it
writes. Numbers keep the reader's classification (`Number`), so integers beyond 64 bits and
the difference between `1` and `1.0` survive. `Tree.ofText` reads a document with the JSON
reader; `Tree.render` writes it compactly, with JSON string escapes and floats by their
shortest digits.
-/

namespace ObjectMapping.Json

open ObjectMapping.Float ObjectMapping.Text

/-- A JSON document. -/
inductive Tree where
  | null
  | bool (b : Bool)
  | number (n : Number)
  | string (s : String)
  | array (items : List Tree)
  | object (members : List (String × Tree))
  deriving Inhabited

namespace Tree

/-- Builds documents from what the reader hands over. -/
def visitor : Visitor Tree where
  null := pure .null
  bool b := pure (.bool b)
  number n := pure (.number n)
  string s := pure (.string s)
  array items := .array items
  object members := .object members

/-- Reads a document. -/
def ofText (s : String) : Except ReadError Tree := readDocument visitor s

/-- An integer as a document. -/
def int (n : Int) : Tree :=
  if n < 0 then .number (.signed n) else .number (.unsigned n.toNat)

def nat (n : Nat) : Tree := .number (.unsigned n)

/-- A member of an object; the last of a repeated name counts. -/
def get? (t : Tree) (name : String) : Option Tree :=
  match t with
  | .object members => (members.reverse.find? (·.1 == name)).map (·.2)
  | _ => none

mutual

/-- The number of nodes of a document. -/
def size : Tree → Nat
  | .array items => sizeItems items + 1
  | .object members => sizeMembers members + 1
  | _ => 1

def sizeItems : List Tree → Nat
  | [] => 0
  | t :: ts => size t + sizeItems ts

def sizeMembers : List (String × Tree) → Nat
  | [] => 0
  | (_, t) :: rest => size t + sizeMembers rest

end

/-- Fuel enough to walk a document: one step per node and some to spare. -/
def fuel (t : Tree) : Nat := 2 * t.size + 8

/-- How a document is named when it is not of the type expected. -/
def unexpected : Tree → Unexpected
  | .null => .null
  | .bool b => .bool b
  | .number n => .number n
  | .string s => .string s
  | .array _ => .sequence
  | .object _ => .map

/-- The text of a number. -/
def numberText : Number → String
  | .unsigned n => toString n
  | .signed n => toString n
  | .float x => x.render .json64

mutual

/-- The compact text of a document. -/
def render : Tree → String
  | .null => "null"
  | .bool b => if b then "true" else "false"
  | .number n => numberText n
  | .string s => jsonQuote s
  | .array items => "[" ++ renderItems items ++ "]"
  | .object members => "\x7b" ++ renderMembers members ++ "\x7d"

def renderItems : List Tree → String
  | [] => ""
  | [t] => render t
  | t :: ts => render t ++ "," ++ renderItems ts

def renderMembers : List (String × Tree) → String
  | [] => ""
  | [(k, t)] => jsonQuote k ++ ":" ++ render t
  | (k, t) :: rest => jsonQuote k ++ ":" ++ render t ++ "," ++ renderMembers rest

end

end Tree

end ObjectMapping.Json
