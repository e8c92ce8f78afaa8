import ObjectMapping.Service.Codec

/-!
# Factories of requests and the shape of answers

A request may describe the factory it runs on (`FactorySpec`): the accessor strategy, the
naming policy, the adapters in registration order, the limits, and the records to register
after the build. `FactorySpec.factory` makes the factory; `FactorySpec.builderDebug` is the
text of the builder before the build.

Every answer is a JSON object: `{"ok": result}` on success, or the error's members
(`Fault.members`): `error` (the kind), `message`, and for an error inside properties the
`path` of owner and field pairs. A request with `"log": true` also gets the log of the
factory.
-/

namespace ObjectMapping.Service

open ObjectMapping.Json ObjectMapping.Text

/-- A strategy by its request name; the boxed ones forward to the plain ones. -/
def strategyOfName? : String → Option Strategy
  | "raw" | "raw_explicit" | "boxed_raw" => some .raw
  | "checked" | "boxed_checked" => some .checked
  | _ => none

def strategyOfName (name : String) : ServiceM Strategy :=
  match strategyOfName? name with
  | some s => pure s
  | none => refuse ("unknown strategy `" ++ name ++ "`")

/-- A naming policy by its request name. -/
def namingOfName? : String → Option Naming
  | "field" => some Naming.fieldName
  | "camel" => some Naming.camelCase
  | "upper" => some fun _ p => upperString p.name
  | "qualified" => some fun d p => d.ident ++ "." ++ p.name
  | "const" => some fun _ _ => "x"
  | _ => none

/-- An adapter by its request name. -/
def adapterOfName (name : String) : ServiceM Adapter :=
  match Catalogue.adapter? name with
  | some a => pure a
  | none => refuse ("unknown adapter `" ++ name ++ "`")

/-- A record type by its key. -/
def recordOfKey (key : String) : ServiceM Ty := do
  let t ← typeOfKey key
  if (Catalogue.schema.record? t).isSome then pure t
  else refuse ("`" ++ key ++ "` is not a mapped type")

/-- A record type to register, by its key: a known type that is not a record cannot be
registered. -/
def registrableOfKey (key : String) : ServiceM Ty := do
  let t ← typeOfKey key
  if (Catalogue.schema.record? t).isSome then pure t
  else refuse ("`" ++ key ++ "` cannot be registered")

/-- What a request says about its factory. -/
structure FactorySpec where
  strategy : Strategy := .raw
  naming : Naming := Naming.fieldName
  adapters : List Adapter := []
  config : Config := {}
  register : List Ty := []
  registerAs : List (Ty × String) := []
  /-- Made by a constructor, which ignores the builder's settings. -/
  constructed : Bool := false
  autoRegister : Bool := false

/-- A natural number member. -/
def asNat (name : String) (t : Tree) : ServiceM Nat := do
  let n ← asInt name t
  if 0 ≤ n then pure n.toNat else refuse ("`" ++ name ++ "` must be unsigned")

/-- The text of a member of a factory spec when it is a string. Members of another kind are
left out, as if they were not written. -/
def textOf? (t : Tree) : Option String :=
  match t with
  | .string s => some s
  | _ => none

/-- A member when it is a boolean. -/
def flagOf? (t : Tree) : Option Bool :=
  match t with
  | .bool b => some b
  | _ => none

/-- The items of a member when it is an array. -/
def itemsOf (t : Tree) : List Tree :=
  match t with
  | .array xs => xs
  | _ => []

/-- A depth limit: a whole number that fits in 32 bits. -/
def depthOf? (t : Tree) : Option Nat :=
  match t with
  | .number (.unsigned n) => if n < Nat.pow 2 32 then some n else none
  | _ => none

/-- Reads the limits of a `config` member. A limit that is missing, or not what it should be,
is the default. -/
def readConfig (t : Tree) : Config :=
  { maxDepth := ((t.get? "max_depth").bind depthOf?).getD 64
    requireRegistration := ((t.get? "require_registration").bind flagOf?).getD false }

/-- Reads the factory member of a request. Members of the wrong kind are passed over, and an
item of a list that is not a string names nothing (the empty name); `max_depth`, when written,
must be a depth. -/
def readSpec (request : Tree) : ServiceM FactorySpec := do
  match request.get? "factory" with
  | none | some .null => pure {}
  | some t => do
    let member (name : String) : Option Tree := t.get? name
    let name (item : Tree) : String := (textOf? item).getD ""
    let strategy ← match (member "strategy").bind textOf? with
      | none => pure .raw
      | some n => strategyOfName n
    let naming ← match (member "naming").bind textOf? with
      | none => pure Naming.fieldName
      | some n =>
        match namingOfName? n with
        | some policy => pure policy
        | none => refuse ("unknown naming `" ++ n ++ "`")
    let adapters ← ((member "adapters").map itemsOf).getD [] |>.mapM fun a =>
      adapterOfName (name a)
    let maxDepth ← match member "max_depth" with
      | none => pure 64
      | some v =>
        match depthOf? v with
        | some d => pure d
        | none => refuse "bad max_depth"
    let requireRegistration := ((member "require_registration").bind flagOf?).getD false
    let config := match member "config" with
      | none => { maxDepth, requireRegistration }
      | some c => readConfig c
    let register ← ((member "register").map itemsOf).getD [] |>.mapM fun k =>
      registrableOfKey (name k)
    let registerAs ← ((member "register_as").map itemsOf).getD [] |>.mapM fun pair => do
      let entry := itemsOf pair
      let key := (entry.head?.map name).getD ""
      let registeredName := ((entry.drop 1).head?.map name).getD ""
      pure (← registrableOfKey key, registeredName)
    let constructed := match (member "constructor").bind textOf? with
      | some "new" | some "default" => true
      | _ => false
    let autoRegister := ((member "auto_register").bind flagOf?).getD false
    pure { strategy, naming, adapters, config, register, registerAs, constructed, autoRegister }

/-- The registry of a list of adapters added in order. -/
def registryOf (adapters : List Adapter) : Registry := adapters.foldl Registry.add {}

namespace FactorySpec

/-- The text of the builder the spec describes. -/
def builderDebug (s : FactorySpec) : String :=
  "FactoryBuilder \x7b strategy: " ++ debugQuote s.strategy.name ++ ", adapters: [" ++
    ", ".intercalate (s.adapters.map fun a => debugQuote a.name) ++ "], config: " ++
    s.config.debug ++ ", .. \x7d"

/-- The factory right after the build. -/
def built (s : FactorySpec) : Factory :=
  if s.constructed then { schema := Catalogue.schema }
  else
    { schema := Catalogue.schema, strategy := s.strategy, naming := s.naming,
      adapters := registryOf s.adapters, config := s.config }

/-- Makes the factory and registers what the spec names. -/
def install (s : FactorySpec) : ServiceM Unit := do
  set s.built
  for t in s.register do factory (Factory.register t)
  for (t, name) in s.registerAs do factory (Factory.registerAs t name)
  if s.autoRegister then
    let _ ← factory Factory.autoRegister

end FactorySpec

/-- Reads the factory of a request and installs it. -/
def setupFactory (request : Tree) : ServiceM Unit := do
  (← readSpec request).install

/-! ## Answers -/

/-- The members of an error of the library. -/
def errorMembers (e : MapError) : List (String × Tree) :=
  let path := match e.path? with
    | some p => [("path", Tree.array (p.segments.map fun (o, f) => .array [.string o, .string f]))]
    | none => []
  [("error", .string e.kindName), ("message", .string e.message)] ++ path

/-- The members of the answer to a failed request. -/
def Fault.members : Fault → List (String × Tree)
  | .input m => [("error", .string "DriverInput"), ("message", .string m)]
  | .mapping e extra => errorMembers e ++ extra
  | .panic m => [("error", .string "Panic"), ("message", .string m)]
  | .other kind m extra => [("error", .string kind), ("message", .string m)] ++ extra
  | .kindOnly kind => [("error", .string kind)]

/-- An error object of the library. -/
def errorTree (e : MapError) : Tree := .object (errorMembers e)

/-- `{"ok": v}` or the error object of a result. -/
def resultTree : Except Fault Tree → Tree
  | .ok v => .object [("ok", v)]
  | .error f => .object f.members

/-- `{"ok": v}` or the error object of a result of the library. -/
def mappedTree : Except MapError Tree → Tree
  | .ok v => .object [("ok", v)]
  | .error e => errorTree e

/-- Runs a step and answers it on its own, keeping the factory. -/
def step (x : ServiceM Tree) : ServiceM Tree := do
  let (r, f) := (ExceptT.run x).run (← get)
  set f
  pure (resultTree r)

/-- Throws an error of the library with extra members. -/
def failWith {α : Type} (e : MapError) (extra : List (String × Tree)) : ServiceM α :=
  throw (.mapping e extra)

/-- The result of a library operation, or its error with extra members. -/
def orFail {α : Type} (r : Except MapError α) (extra : List (String × Tree)) : ServiceM α :=
  match r with
  | .ok a => pure a
  | .error e => failWith e extra

end ObjectMapping.Service
