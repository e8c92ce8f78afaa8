import ObjectMapping.Kind
import ObjectMapping.Json.Error
import ObjectMapping.Text.Quote

/-!
# Mapping errors

The causes a mapping can fail for, each with its message and its diagnostic text.

* `ConfigError`: the factory cannot build a mapper (a missing mapper, an adapter cycle, a
  property no strategy or value representation serves, a clash of external names).
* `ShapeError`: a value does not fit its target (wrong kind, out of range, wrong length, wrong
  type).
* `MapError` adds allocation failures, the depth limit, reader errors, errors of user code, and
  `MapError.inProperty`, which records the chain of properties an error passed through. `MapError.within`
  prepends one property to that chain, so the chain never nests; `MapError.root` is the cause.
-/

namespace ObjectMapping

open ObjectMapping.Text

/-- Why a factory cannot build a mapper. -/
inductive ConfigError where
  /-- Resolving the adapters of `start` reached the type `repeated` twice. -/
  | adapterCycle (start repeated : String)
  /-- No mapper is available for a type. -/
  | missingMapper (name : String)
  /-- The accessor strategy cannot reach a property. -/
  | strategyRejected (strategy owner property : String)
  /-- The strategy is fixed once a mapper was built. -/
  | strategyLocked
  /-- A property has neither a value representation nor an adapter. -/
  | unmappable (owner property ty : String)
  /-- Two properties of a record share an external name. -/
  | duplicateName (owner name : String)
  deriving DecidableEq, Repr, Inhabited

/-- Why a value does not fit its target. -/
inductive ShapeError where
  | mismatch (expected found : Kind)
  | outOfRange (value target : String)
  | length (expected found : Nat)
  | wrongType (expected : String)
  deriving DecidableEq, Repr, Inhabited

namespace ConfigError

def message : ConfigError → String
  | adapterCycle s r => s!"adapter cycle while resolving `{s}`: `{r}` is consumed twice"
  | missingMapper n => s!"no mapper available for `{n}`"
  | strategyRejected s o p => s!"accessor strategy `{s}` cannot access `{o}::{p}`"
  | strategyLocked => "the accessor strategy cannot be replaced after a mapper was built"
  | unmappable o p t => s!"`{o}::{p}` of type `{t}` has no value representation and no adapter"
  | duplicateName o n => s!"external name `{n}` is used twice in `{o}`"

/-- The name of the cause. -/
def name : ConfigError → String
  | adapterCycle .. => "AdapterCycle"
  | missingMapper .. => "MissingMapper"
  | strategyRejected .. => "StrategyRejected"
  | strategyLocked => "StrategyLocked"
  | unmappable .. => "Unmappable"
  | duplicateName .. => "DuplicateName"

def debug : ConfigError → String
  | adapterCycle s r =>
    "AdapterCycle \x7b start: " ++ debugQuote s ++ ", repeated: " ++ debugQuote r ++ " \x7d"
  | missingMapper n => "MissingMapper(" ++ debugQuote n ++ ")"
  | strategyRejected s o p =>
    "StrategyRejected \x7b strategy: " ++ debugQuote s ++ ", owner: " ++ debugQuote o ++
      ", property: " ++ debugQuote p ++ " \x7d"
  | strategyLocked => "StrategyLocked"
  | unmappable o p t =>
    "Unmappable \x7b owner: " ++ debugQuote o ++ ", property: " ++ debugQuote p ++ ", ty: " ++
      debugQuote t ++ " \x7d"
  | duplicateName o n => "DuplicateName \x7b owner: " ++ debugQuote o ++ ", name: " ++ debugQuote n ++ " \x7d"

end ConfigError

namespace ShapeError

def message : ShapeError → String
  | mismatch e f => s!"expected {e.name}, found {f.name}"
  | outOfRange v t => s!"{v} is out of range for `{t}`"
  | length e f => s!"expected {e} elements, found {f}"
  | wrongType e => s!"value is not a `{e}`"

def name : ShapeError → String
  | mismatch .. => "Mismatch"
  | outOfRange .. => "OutOfRange"
  | length .. => "Length"
  | wrongType .. => "WrongType"

def debug : ShapeError → String
  | mismatch e f => s!"Mismatch \x7b expected: {e.debugName}, found: {f.debugName} \x7d"
  | outOfRange v t => "OutOfRange \x7b value: " ++ debugQuote v ++ ", target: " ++ debugQuote t ++ " \x7d"
  | length e f => s!"Length \x7b expected: {e}, found: {f} \x7d"
  | wrongType e => "WrongType \x7b expected: " ++ debugQuote e ++ " \x7d"

end ShapeError

/-- The chain of properties an error passed through, outermost first: pairs of an owner's
descriptor name and a field. -/
structure PropertyPath where
  segments : List (String × String)
  deriving DecidableEq, Repr, Inhabited

namespace PropertyPath

/-- `` `Top::mid` -> `Mid::leaf` ``. -/
def display (p : PropertyPath) : String :=
  " -> ".intercalate (p.segments.map fun (o, f) => "`" ++ o ++ "::" ++ f ++ "`")

def debug (p : PropertyPath) : String :=
  "PropertyPath \x7b segments: [" ++
    ", ".intercalate (p.segments.map fun (o, f) => "(" ++ debugQuote o ++ ", " ++ debugQuote f ++ ")") ++
    "] \x7d"

end PropertyPath

/-- Why a mapping failed. -/
inductive MapError where
  | config (e : ConfigError)
  | shape (e : ShapeError)
  /-- A fresh instance of a type cannot be made. -/
  | allocation (typeName reason : String)
  /-- The run never returns: an allocation default asks for itself again, and the program
  overflows its stack. -/
  | endless
  /-- Objects nest deeper than the limit. -/
  | depthExceeded (limit : Nat)
  /-- The text could not be read. -/
  | json (e : Json.ReadError)
  /-- An error of user code, with its message. -/
  | custom (text : String)
  /-- An error that happened inside a chain of properties. -/
  | inProperty (path : PropertyPath) (source : MapError)
  deriving Repr, Inhabited

namespace MapError

/-- The error with no property chain: the cause. -/
def root : MapError → MapError
  | inProperty _ e => e.root
  | e => e

/-- The property chain, if the error happened inside one. -/
def path? : MapError → Option PropertyPath
  | inProperty p _ => some p
  | _ => none

/-- Prepends a property to the chain of an error. -/
def within (e : MapError) (owner property : String) : MapError :=
  match e with
  | inProperty p s => inProperty ⟨(owner, property) :: p.segments⟩ s
  | other => inProperty ⟨[(owner, property)]⟩ other

def mismatch (expected found : Kind) : MapError := shape (.mismatch expected found)

def message : MapError → String
  | config e => e.message
  | shape e => e.message
  | allocation t r => s!"cannot allocate `{t}`: {r}"
  | endless => "the run does not end"
  | depthExceeded n => s!"nesting depth exceeds the limit of {n}"
  | json e => e.message
  | custom t => t
  | inProperty p e => "at " ++ p.display ++ ": " ++ e.message

def debug : MapError → String
  | config e => "Config(" ++ e.debug ++ ")"
  | shape e => "Shape(" ++ e.debug ++ ")"
  | allocation t r => "Allocation \x7b type_name: " ++ debugQuote t ++ ", reason: " ++ debugQuote r ++ " \x7d"
  | endless => "Endless"
  | depthExceeded n => s!"DepthExceeded({n})"
  | json e => "Json(" ++ e.debug ++ ")"
  | custom t => "Custom(" ++ debugQuote t ++ ")"
  | inProperty p e => "InProperty \x7b path: " ++ p.debug ++ ", source: " ++ e.debug ++ " \x7d"

/-- The name of the kind of the cause: `Config.MissingMapper`, `Shape.Length`, `Custom`. -/
def kindName (e : MapError) : String :=
  match e.root with
  | config c => "Config." ++ c.name
  | shape s => "Shape." ++ s.name
  | allocation .. => "Allocation"
  | endless => "Endless"
  | depthExceeded .. => "DepthExceeded"
  | json .. => "Json"
  | custom .. => "Custom"
  | inProperty .. => "InProperty"

def isConfig (e : MapError) : Bool :=
  match e.root with
  | config _ => true
  | _ => false

def isShape (e : MapError) : Bool :=
  match e.root with
  | shape _ => true
  | _ => false

end MapError

end ObjectMapping
