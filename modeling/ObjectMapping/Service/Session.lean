import ObjectMapping.Service.Inspect

/-!
# Factories over several steps

`session` runs a list of steps on one factory, so the cache, registration, the strategy lock
and adapters changed between builds can be watched. `chain` runs the adapters of a type on one
instance, `adapter_registry` works on a registry of its own, and `factory_debug` shows the
builder, the factory and its context as text.
-/

namespace ObjectMapping.Service

open ObjectMapping.Json ObjectMapping.Text

/-- An adapter chain as an answer. -/
def chainTree (c : Chain) : Tree :=
  .object [
    ("len", Tree.nat c.adapters.length),
    ("adapters", strings c.names),
    ("terminal", .string c.terminal.typeName),
    ("terminal_kind", optionText (c.terminal.value.map fun o => o.kind.name))]

/-- The diagnostic text of an adapter chain. -/
def chainDebug (c : Chain) : String :=
  "AdapterChain \x7b adapters: [" ++ ", ".intercalate (c.names.map debugQuote) ++ "], terminal: " ++
    debugQuote c.terminal.typeName ++ " \x7d"

/-- The type a request names in a member, opaque types included. -/
def anyTypeField (t : Tree) (name : String) : ServiceM Ty := do anyTypeOfKey (← stringField t name)

/-- The limits of a factory as an answer. -/
def configTree (c : Config) : Tree :=
  .object [("max_depth", Tree.nat c.maxDepth), ("require_registration", .bool c.requireRegistration)]

/-- One step of a session. -/
def sessionStep (s : Tree) : ServiceM Tree := do
  match ← stringField s "do" with
  | "create_or_get" => do
    let t ← requestType s
    pure (mapperTree (← factory (Factory.createOrGet t)))
  | "create" => do
    let t ← requestType s
    pure (mapperTree (← factory (Factory.create t)))
  | "by_name" => do
    let name ← stringField s "name"
    pure (mapperTree (← factory (Factory.byName name)))
  | "by_id" => do
    let t ← requestType s
    match ← attempt (Factory.byId t) with
    | .ok m => pure (mapperTree m)
    | .error e => throw (.kindOnly e.kindName)
  | "same" => do
    let t ← requestType s
    let name ← stringField s "name"
    let a ← factory (Factory.createOrGet t)
    let b ← factory (Factory.byName name)
    pure (.bool (a.serial == b.serial))
  | "same_create" => do
    let t ← requestType s
    let a ← factory (Factory.createOrGet t)
    let b ← factory (Factory.createOrGet t)
    let c ← factory (Factory.create t)
    pure (.object [("cached", .bool (a.serial == b.serial)), ("fresh", .bool (a.serial == c.serial))])
  | "register" => do
    let t ← registrableOfKey (← stringField s "type")
    factory (Factory.register t)
    pure .null
  | "register_as" => do
    let t ← registrableOfKey (← stringField s "type")
    factory (Factory.registerAs t (← stringField s "alias"))
    pure .null
  | "is_registered" => do
    let t ← requestType s
    pure (.bool ((← get).isRegistered t))
  | "auto_register" => .bool <$> factory Factory.autoRegister
  | "add_adapter" => do
    factory (Factory.addAdapter (← adapterOfName (← stringField s "adapter")))
    pure .null
  | "remove_adapter" => do
    let a ← adapterOfName (← stringField s "adapter")
    .bool <$> factory (Factory.removeAdapter a.name)
  | "has_adapter" => do
    let a ← adapterOfName (← stringField s "adapter")
    .bool <$> factory (Factory.hasAdapter a.name)
  | "adapter_chain" => do
    let t ← anyTypeField s "of"
    chainTree <$> factory (Factory.adapterChain t)
  | "set_strategy" => do
    let strategy ← strategyOfName (← stringField s "strategy")
    factory (Factory.setStrategy strategy)
    pure .null
  | "strategy_name" => pure (.string (← get).strategy.name)
  | "cached_len" => pure (Tree.nat (← get).cachedLen)
  | "config" => pure (configTree (← get).config)
  | "serialize" => serializeRequest s true
  | "trace" => traceRequest s false
  | "deserialize" => deserializeRequest s true
  | "deserialize_into" => deserializeIntoRequest s
  | other => refuse ("unknown step `" ++ other ++ "`")

/-- `session`: steps on one factory. -/
def sessionRequest (request : Tree) : ServiceM Tree := do
  let steps ← asArray "steps" (← field request "steps")
  .array <$> steps.mapM (step ∘ sessionStep)

/-- `chain`: the adapters of a type run forward on an instance, or backward on one of the
chain's terminal type. -/
def chainRequest (request : Tree) : ServiceM Tree := do
  let t ← anyTypeField request "of"
  let c ← factory (Factory.adapterChain t)
  let S := Catalogue.schema
  match request.get? "input", request.get? "output" with
  | some input, _ => do
    let x ← instanceOf (← anyTypeField input "type") (← field input "value")
    let y ← orFail (c.adapt x) []
    pure (tagged (S.valueOf true y.ty y.datum y.identity))
  | none, some output => do
    let x ← instanceOf (← anyTypeField output "type") (← field output "value")
    let y ← orFail (c.restore x) []
    pure (dumpOf y)
  | none, none => refuse "missing `input` or `output`"

/-- One step on an adapter registry: the registry after it and the step's result. -/
def registryStep (r : Registry) (s : Tree) : ServiceM (Registry × Tree) := do
  match ← stringField s "do" with
  | "add" => do
    let a ← adapterOfName (← stringField s "adapter")
    pure (r.add a, .null)
  | "remove" => do
    let a ← adapterOfName (← stringField s "adapter")
    let (r', removed) := r.remove a.name
    pure (r', .bool removed)
  | "contains" => do
    let a ← adapterOfName (← stringField s "adapter")
    pure (r, .bool (r.contains a.name))
  | "len" => pure (r, lengthTree r.size)
  | "debug" => pure (r, .string ("[" ++ ", ".intercalate (r.names.map debugQuote) ++ "]"))
  | "resolve" => do
    let t ← anyTypeField s "of"
    let S := Catalogue.schema
    let declared := S.typeOps t
    match r.resolve S declared with
    | .error e => failWith (.config e) []
    | .ok c => do
      if let some line := Registry.note declared c then
        modify fun f => { f with log := f.log.push ("TRACE " ++ line) }
      pure (r, .object [("chain", chainTree c), ("is_empty", .bool c.isEmpty),
        ("debug", .string (chainDebug c)), ("clone_len", Tree.nat c.adapters.length)])
  | other => refuse ("unknown step `" ++ other ++ "`")

/-- `adapter_registry`: steps on one adapter registry. -/
def adapterRegistryRequest (request : Tree) : ServiceM Tree := do
  let steps ← asArray "steps" (← field request "steps")
  let (_, results) ← steps.foldlM (fun (acc : Registry × Array Tree) s => do
    let (r, f) := (ExceptT.run (registryStep acc.1 s)).run (← get)
    set f
    match r with
    | .ok (r', v) => pure (r', acc.2.push (.object [("ok", v)]))
    | .error fault => pure (acc.1, acc.2.push (.object fault.members))) ({}, #[])
  pure (.array results.toList)

/-- `factory_debug`: the builder, the factory after some builds, and its context, as text. -/
def factoryDebugRequest (request : Tree) : ServiceM Tree := do
  let spec ← readSpec request
  spec.install
  let keys ← match request.get? "create" with
    | none | some .null => pure []
    | some v => do (← asArray "create" v).mapM (asString "create")
  let created ← keys.mapM fun k => do
    let t ← typeOfKey k
    match ← attempt (Factory.createOrGet t) with
    | .ok _ => pure Tree.null
    | .error e => pure (errorTree e)
  let f ← get
  pure (.object [
    ("builder", .string spec.builderDebug),
    ("created", .array created),
    ("factory", .string f.debug),
    ("context", .string "SerializationContext \x7b depth: 0, .. \x7d"),
    ("context_factory_cached", Tree.nat f.cachedLen),
    ("clone_cached", Tree.nat f.cachedLen),
    ("config_eq_default", .bool (f.config == {})),
    ("config_debug", .string f.config.debug)])

end ObjectMapping.Service
