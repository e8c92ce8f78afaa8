import ObjectMapping.Access
import ObjectMapping.Text.Unicode

/-!
# Factories

A `Factory` builds one mapper per type and keeps it (`Factory.cache`). It holds the accessor
strategy, the naming policy of external property names, the adapter registry, the limits of
its configuration, the record types registered by name and the log of what it did. Its
operations run in `FactoryM`, which keeps the factory's state also when an operation fails.

* The strategy is locked by the first mapper build, even one that fails; after that it cannot
  be replaced (`ConfigError.strategyLocked`).
* `Naming.camelCase` keeps a rename as it is and a name without `_` as it is; otherwise it keeps
  the leading run of `_`, drops every other `_`, and writes the character after it in upper
  case (`toCamelCase`).
* Registering a record under a name that referred to another record warns in the log.
-/

namespace ObjectMapping

open ObjectMapping.Text

/-- The limits of a factory. -/
structure Config where
  maxDepth : Nat := 64
  requireRegistration : Bool := false
  deriving DecidableEq, Repr, Inhabited

def Config.debug (c : Config) : String :=
  "FactoryConfig \x7b max_depth: " ++ toString c.maxDepth ++ ", require_registration: " ++
    toString c.requireRegistration ++ " \x7d"

/-- Chooses the external name of a property of a record. -/
abbrev Naming := Descriptor → PropertyInfo → String

/-- One character of `toCamelCase`: the text written so far, and whether the next character
goes in upper case. An `_` is written while the text is all `_` (the leading run); any later `_`
is dropped and puts the next character in upper case. -/
def camelStep (acc : List Char × Bool) (c : Char) : List Char × Bool :=
  let (out, upper) := acc
  if c == '_' then
    if out.all (· == '_') then (out ++ [c], upper) else (out, true)
  else if upper then (out ++ upperFull c, false)
  else (out ++ [c], false)

/-- Drops the `_` of a snake-case name and writes the character after each in upper case;
the leading run of `_` stays. -/
def toCamelCase (name : String) : String :=
  String.ofList (name.toList.foldl camelStep ([], false)).1

namespace Naming

/-- The rename of a property, or else its field name. -/
def fieldName : Naming := fun _ p => p.rename.getD p.name

/-- The rename of a property, or else its field name in camel case. -/
def camelCase : Naming := fun _ p =>
  match p.rename with
  | some r => r
  | none => if p.name.toList.contains '_' then toCamelCase p.name else p.name

end Naming

/-- A property as a mapper writes and reads it. -/
structure MappedProperty where
  info : PropertyInfo
  /-- The external name. -/
  name : String
  /-- The kind of the terminal type. -/
  kind : Kind
  nullable : Bool
  chain : Chain
  location : Location

/-- The mapper of a type: its properties, each with its external name, adapters and location. -/
structure Mapper where
  ops : TypeOps
  descriptor : Option Descriptor
  properties : List MappedProperty
  strategy : Strategy
  /-- Which build made the mapper: two mappers are the same exactly when this is equal. -/
  serial : Nat

namespace Mapper

def typeName (m : Mapper) : String := m.ops.typeName

/-- The property of an external name. -/
def property? (m : Mapper) (name : String) : Option MappedProperty :=
  m.properties.find? (·.name == name)

/-- The name errors inside the mapper are attributed to. -/
def ownerName (m : Mapper) : String :=
  match m.descriptor with
  | some d => d.ident
  | none => m.ops.typeName

end Mapper

/-- The diagnostic text of a mapped property. -/
def MappedProperty.debug (p : MappedProperty) : String :=
  "MappedProperty \x7b name: " ++ Text.debugQuote p.name ++ ", field: " ++ Text.debugQuote p.info.name ++
    ", kind: " ++ p.kind.debugName ++ ", nullable: " ++ toString p.nullable ++ ", adapters: " ++
    toString p.chain.adapters.length ++ " \x7d"

/-- The diagnostic text of a mapper. -/
def Mapper.debug (m : Mapper) : String :=
  "Mapper(TypeMapper \x7b type_name: " ++ Text.debugQuote m.typeName ++ ", properties: [" ++
    ", ".intercalate (m.properties.map MappedProperty.debug) ++ "], strategy: " ++
    Text.debugQuote m.strategy.name ++ " \x7d)"

/-- A factory and its state. -/
structure Factory where
  schema : Schema
  strategy : Strategy := .raw
  locked : Bool := false
  adapters : Registry := {}
  naming : Naming := Naming.fieldName
  config : Config := {}
  /-- Registered record types. -/
  known : List Ty := []
  /-- Registered names and the record type each refers to. -/
  names : List (String × Ty) := []
  cache : List (Ty × Mapper) := []
  builds : Nat := 0
  instances : Nat := 0
  log : Array String := #[]

/-- An operation on a factory; the factory's state is kept when it fails. -/
abbrev FactoryM := ExceptT MapError (StateM Factory)

namespace Factory

/-- Runs an operation on a factory. -/
def run {α : Type} (x : FactoryM α) (f : Factory) : Except MapError α × Factory :=
  (x.run).run f

/-- Writes a record to the log. -/
def note (level message : String) : FactoryM Unit :=
  modify fun f => { f with log := f.log.push (level ++ " " ++ message) }

/-- A new instance identity. -/
def freshIdentity : FactoryM Identity := do
  let f ← get
  set { f with instances := f.instances + 1 }
  pure (.created f.instances)

def schemaM : FactoryM Schema := return (← get).schema

def cachedLen (f : Factory) : Nat := f.cache.length

def isRegistered (f : Factory) (t : Ty) : Bool := f.known.contains t

/-- The strategy for a build, locking it. -/
def lockStrategy : FactoryM Strategy := do
  modify fun f => { f with locked := true }
  return (← get).strategy

/-- Replaces the strategy, unless a mapper was built. -/
def setStrategy (s : Strategy) : FactoryM Unit := do
  if (← get).locked then throw (.config .strategyLocked)
  modify fun f => { f with strategy := s }

/-- The adapter chain of a declared type, noted in the log when it has adapters. -/
def resolveChain (declared : TypeOps) : FactoryM Chain := do
  let f ← get
  match f.adapters.resolve f.schema declared with
  | .error e => throw (.config e)
  | .ok c =>
    if let some line := Registry.note declared c then note "TRACE" line
    pure c

/-- The external name, adapters, terminal kind and location of a property. The checks come in
this order: name clash, adapter cycle, no value representation, missing or unregistered record
mapper, strategy. -/
def compileProperty (strategy : Strategy) (owner : Descriptor) (done : List MappedProperty)
    (p : PropertyInfo) : FactoryM MappedProperty := do
  let f ← get
  let name := f.naming owner p
  if done.any (·.name == name) then throw (.config (.duplicateName owner.typeName name))
  let chain ← resolveChain p.ops
  let some terminal := chain.terminal.value
    | throw (.config (.unmappable owner.typeName p.name p.typeName))
  if terminal.kind == .object then
    let missing := MapError.config (.missingMapper chain.terminal.typeName)
    match terminal.descriptor with
    | none => throw missing
    | some nested =>
      if f.config.requireRegistration && !f.isRegistered nested then throw missing
  if !strategy.canAccess p then
    throw (.config (.strategyRejected strategy.name owner.typeName p.name))
  match strategy.prepare owner p with
  | .error e => throw (.config e)
  | .ok location =>
    pure { info := p, name, kind := terminal.kind, nullable := terminal.nullable, chain, location }

/-- Builds the mapper of a type. -/
def build (ops : TypeOps) (descriptor : Option Descriptor) : FactoryM Mapper := do
  let strategy ← lockStrategy
  let properties ← match descriptor with
    | some d => d.properties.foldlM (fun done p => do
        let mp ← compileProperty strategy d done p
        pure (done ++ [mp])) []
    | none => if ops.value.isNone then throw (.config (.missingMapper ops.typeName)) else pure []
  note "DEBUG" ("built mapper for `" ++ ops.typeName ++ "`: " ++ toString properties.length ++
    " properties, `" ++ strategy.name ++ "` access")
  let f ← get
  set { f with builds := f.builds + 1 }
  pure ⟨ops, descriptor, properties, strategy, f.builds⟩

/-- The kept mapper of a type, or a new one, kept from then on. -/
def cachedOrBuild (ops : TypeOps) (descriptor : Option Descriptor) : FactoryM Mapper := do
  match (← get).cache.lookup ops.ty with
  | some m => pure m
  | none =>
    let m ← build ops descriptor
    modify fun f => { f with cache := f.cache ++ [(ops.ty, m)] }
    pure m

/-- The mapper of a record, by its descriptor. -/
def mapperFor (d : Descriptor) : FactoryM Mapper := cachedOrBuild d.ops (some d)

/-- The descriptor a type carries: its own, or that of the record an option or a box holds. -/
def descriptorOf (S : Schema) (t : Ty) : Option Descriptor := do
  let o ← S.valueOps? t
  let r ← o.descriptor
  S.descriptor? r

/-- The kept mapper of a type. -/
def createOrGet (t : Ty) : FactoryM Mapper := do
  let S ← schemaM
  cachedOrBuild (S.typeOps t) (descriptorOf S t)

/-- A new mapper of a type, not kept. -/
def create (t : Ty) : FactoryM Mapper := do
  let S ← schemaM
  build (S.typeOps t) (descriptorOf S t)

/-- Records a type under a name; a name that referred to another type is warned of. -/
def remember (t : Ty) (name : String) : FactoryM Unit := do
  let f ← get
  if let some previous := f.names.lookup name then
    if previous != t then note "WARN" ("type name `" ++ name ++ "` now refers to `" ++ t.typeName ++ "`")
  let f ← get
  set { f with
    known := if f.known.contains t then f.known else f.known ++ [t]
    names := (f.names.filter fun (entry : String × Ty) => entry.1 != name) ++ [(name, t)] }

/-- Registers a record under its type name. -/
def register (t : Ty) : FactoryM Unit := remember t t.typeName

/-- Registers a record under its type name and an alias. -/
def registerAs (t : Ty) (otherName : String) : FactoryM Unit := do
  remember t t.typeName
  remember t otherName

/-- Registers every record that asks for it. -/
def autoRegister : FactoryM Bool := do
  let S ← schemaM
  let auto := S.records.filter (·.autoRegister)
  for r in auto do register (.named r.path)
  note "DEBUG" ("auto-registered " ++ toString auto.length ++ " mapped types")
  pure true

/-- The mapper of a registered type. -/
def byId (t : Ty) : FactoryM Mapper := do
  if !(← get).isRegistered t then throw (.config (.missingMapper "TypeId(_)"))
  let S ← schemaM
  match S.descriptor? t with
  | some d => mapperFor d
  | none => throw (.config (.missingMapper "TypeId(_)"))

/-- The mapper of a registered name. -/
def byName (name : String) : FactoryM Mapper := do
  match (← get).names.lookup name with
  | some t => byId t
  | none => throw (.config (.missingMapper name))

/-- Warns that kept mappers keep their adapter chains. -/
def warnIfWarm (action : String) : FactoryM Unit := do
  let n := (← get).cachedLen
  if n != 0 then
    note "WARN" ("adapter " ++ action ++ " after " ++ toString n ++ " mappers were built, they keep their chains")

def addAdapter (a : Adapter) : FactoryM Unit := do
  warnIfWarm "added"
  modify fun f => { f with adapters := f.adapters.add a }

def removeAdapter (name : String) : FactoryM Bool := do
  let (r, removed) := (← get).adapters.remove name
  modify fun f => { f with adapters := r }
  if removed then warnIfWarm "removed"
  pure removed

def hasAdapter (name : String) : FactoryM Bool := return (← get).adapters.contains name

/-- The adapter chain of a type used without its value representation. -/
def adapterChain (t : Ty) : FactoryM Chain := do
  let S ← schemaM
  resolveChain (S.opaqueOps t)

/-- Enters one level of nesting below `depth`, refusing to pass the limit. -/
def enter (depth : Nat) : FactoryM Nat := do
  let limit := (← get).config.maxDepth
  if depth + 1 > limit then throw (.depthExceeded limit)
  pure (depth + 1)

def debug (f : Factory) : String :=
  "MapperFactory \x7b cached: " ++ toString f.cachedLen ++ ", strategy: " ++
    Text.debugQuote f.strategy.name ++ ", config: " ++ f.config.debug ++ ", .. \x7d"

end Factory

end ObjectMapping
