import ObjectMapping.Schema.Descriptor
import ObjectMapping.Error

/-!
# Adapters

An `Adapter` turns instances of one type (its input) into instances of another (its output)
and back. A `Registry` holds adapters in the order they were first added, each at most once
(by name); re-adding one replaces it in place.

* `Registry.resolve` builds the `Chain` of a declared type: starting at the declared type, it
  takes the first registered adapter whose input is the current type, moves to its output, and
  repeats; reaching a type twice is a cycle (`ConfigError.adapterCycle`). The type it stops at
  is the chain's terminal.
* `Chain.adapt` applies the adapters first to last and fails with the first failure;
  `Chain.restore` applies their inverses last to first. An empty chain cannot adapt and
  restores to its input.
-/

namespace ObjectMapping

/-- An instance of a type: its data and which instance it is. -/
structure Instance where
  ty : Ty
  datum : Datum
  identity : Identity
  deriving Inhabited

/-- A conversion between an input type and an output type, both ways. -/
structure Adapter where
  /-- The name of the adapter's own type. -/
  name : String
  input : Ty
  output : Ty
  adapt : Datum → Except MapError Datum
  restore : Datum → Except MapError Datum

namespace Adapter

/-- The error for an instance of another type than the one expected. -/
def wrongType (t : Ty) : MapError := .shape (.wrongType t.typeName)

/-- Adapts an instance; it must be of the input type. -/
def adaptInstance (a : Adapter) (x : Instance) : Except MapError Instance :=
  if x.ty == a.input then
    (fun d => ⟨a.output, d, .moved x.identity⟩) <$> a.adapt x.datum
  else throw (wrongType a.input)

/-- Restores an instance; it must be of the output type. -/
def restoreInstance (a : Adapter) (x : Instance) : Except MapError Instance :=
  if x.ty == a.output then
    (fun d => ⟨a.input, d, .moved x.identity⟩) <$> a.restore x.datum
  else throw (wrongType a.output)

end Adapter

/-- Adapters applied one after another, and the type they end at. -/
structure Chain where
  adapters : List Adapter
  terminal : TypeOps

namespace Chain

def names (c : Chain) : List String := c.adapters.map (·.name)

def isEmpty (c : Chain) : Bool := c.adapters.isEmpty

/-- Applies the adapters first to last. -/
def adapt (c : Chain) (x : Instance) : Except MapError Instance :=
  match c.adapters with
  | [] => throw (.custom "adapt called on an empty adapter chain")
  | a :: rest => do
    let first ← a.adaptInstance x
    rest.foldlM (fun v a => a.adaptInstance v) first

/-- Applies the inverses last to first. -/
def restore (c : Chain) (x : Instance) : Except MapError Instance :=
  c.adapters.reverse.foldlM (fun v a => a.restoreInstance v) x

end Chain

/-- Adapters in the order they were first added, each name at most once. -/
structure Registry where
  entries : List Adapter := []

namespace Registry

def names (r : Registry) : List String := r.entries.map (·.name)

def contains (r : Registry) (name : String) : Bool := r.names.contains name

def size (r : Registry) : Nat := r.entries.length

/-- Adds an adapter; one of the same name is replaced where it stands. -/
def add (r : Registry) (a : Adapter) : Registry :=
  if r.contains a.name then ⟨r.entries.map fun e => if e.name == a.name then a else e⟩
  else ⟨r.entries ++ [a]⟩

/-- Removes the adapter of a name, answering whether there was one. -/
def remove (r : Registry) (name : String) : Registry × Bool :=
  (⟨r.entries.filter (·.name != name)⟩, r.contains name)

/-- The first adapter that consumes a type. -/
def find? (r : Registry) (input : Ty) : Option Adapter := r.entries.find? (·.input == input)

/-- Follows adapters from `current`, with the types already reached. -/
def walk (S : Schema) (r : Registry) (start : TypeOps) :
    Nat → TypeOps → List Ty → List Adapter → Except ConfigError Chain
  | 0, current, _, acc => pure ⟨acc, current⟩
  | fuel + 1, current, seen, acc =>
    match r.find? current.ty with
    | none => pure ⟨acc, current⟩
    | some a =>
      let next := S.typeOps a.output
      if seen.contains next.ty then throw (.adapterCycle start.typeName next.typeName)
      else walk S r start fuel next (next.ty :: seen) (acc ++ [a])

/-- The chain of a declared type. Every step reaches a type not reached before, so there are
at most as many steps as adapters. -/
def resolve (S : Schema) (r : Registry) (declared : TypeOps) : Except ConfigError Chain :=
  walk S r declared (r.size + 1) declared [declared.ty] []

/-- The trace note of a resolved chain that has adapters. -/
def note (declared : TypeOps) (c : Chain) : Option String :=
  if c.isEmpty then none
  else some ("adapter chain of `" ++ declared.typeName ++ "`: " ++ toString c.adapters.length ++
    " adapter(s), terminal `" ++ c.terminal.typeName ++ "`")

end Registry

end ObjectMapping
