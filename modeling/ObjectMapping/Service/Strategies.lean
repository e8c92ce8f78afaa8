import ObjectMapping.Service.Inspect
import ObjectMapping.Access.Primitive

/-!
# The accessor strategies on their own

`access` prepares locations of properties and reads and writes an instance through them, and
`allocate` builds a fresh instance field by field and finishes it. A step may forge its
location first (another index, another token) to show what each strategy checks: raw access
refuses a location that does not match the layout, checked access does not look at it.
-/

namespace ObjectMapping.Service

open ObjectMapping.Json

/-- The descriptor of a record type. -/
def descriptorOfKey (key : String) : ServiceM Descriptor := do
  let t ← typeOfKey key
  match Catalogue.schema.descriptor? t with
  | some d => pure d
  | none => refuse ("`" ++ key ++ "` has no descriptor")

/-- The property of a field of a descriptor. -/
def propertyOf (d : Descriptor) (name : String) : ServiceM PropertyInfo :=
  match d.property? name with
  | some p => pure p
  | none => refuse ("no property `" ++ name ++ "`")

/-- The offset of a field of a descriptor, property or excluded. -/
def offsetOf (d : Descriptor) (name : String) : ServiceM Nat := do
  let p ← propertyOf d name
  match p.offset with
  | some o => pure o
  | none => refuse ("`" ++ name ++ "` has no offset")

/-- A location with what a step forges put in: another index, or another token. -/
def forge (d : Descriptor) (s : Tree) (loc : Location) : ServiceM Location := do
  let loc ← match s.get? "index" with
    | none | some .null => pure loc
    | some i => do pure { loc with index := ← asNat "index" i }
  let loc ← match ← optString s "token_of" with
    | none => pure loc
    | some other => do pure { loc with token := ← offsetOf d other }
  let loc ← match s.get? "token" with
    | none | some .null => pure loc
    | some t => do pure { loc with token := ← asNat "token" t }
  match s.get? "token_add" with
  | none | some .null => pure loc
  | some t => do
    let n ← asInt "token_add" t
    pure { loc with token := (loc.token + n).toNat }

/-- The location of the property a step names, prepared by a strategy on a descriptor. -/
def stepLocation (strategy : Strategy) (d : Descriptor) (s : Tree) : ServiceM Location := do
  let p ← propertyOf d (← stringField s "field")
  match strategy.prepare d p with
  | .ok loc => forge d s loc
  | .error e => failWith (.config e) []

/-- The value a step writes: from the wire, or an instance of a type. -/
def incomingOf (s : Tree) : ServiceM Incoming := do
  match s.get? "wire", s.get? "boxed" with
  | some w, _ => .wire <$> valueOf w
  | none, some b => do .boxed <$> instanceOf (← anyTypeOfKey (← stringField b "type")) (← field b "value")
  | none, none => refuse "missing `wire` or `boxed`"

/-- Writes through a setter, reading wire values with the factory. -/
def runSetter (strategy : Strategy) (loc : Location) (target : Target) (incoming : Incoming) :
    ServiceM Target :=
  factory (Strategy.compiledSetter (fun t v => Mapper.decode v.fuel 0 t v) strategy loc target incoming)

/-- One step of `access` on an owner: the owner after it and the step's result. -/
def accessStep (strategy : Strategy) (d : Descriptor) (owner : Instance) (s : Tree) :
    ServiceM (Instance × Tree) := do
  let S := Catalogue.schema
  let target ← match s.get? "on" with
    | none | some .null => pure none
    | some on => do pure (some (← instanceOf (← anyTypeOfKey (← stringField on "type")) (← field on "value")))
  let subject := target.getD owner
  match ← stringField s "do" with
  | "prepare" => do
    let loc ← stepLocation strategy d s
    pure (owner, .object [("index", Tree.nat loc.index), ("property", .string loc.property.name),
      ("owner", .string loc.owner.ident)])
  | "prepare_foreign" => do
    let other ← descriptorOfKey (← stringField s "from")
    let p ← propertyOf other (← stringField s "field")
    match strategy.prepare d p with
    | .ok loc => pure (owner, .object [("index", Tree.nat loc.index)])
    | .error e => failWith (.config e) []
  | "can_access" => do
    let p ← propertyOf d (← stringField s "field")
    pure (owner, .bool (strategy.canAccess p))
  | "get" => do
    let loc ← stepLocation strategy d s
    let v ← orFail (Strategy.compiledGetter S strategy loc subject) []
    pure (owner, tagged v)
  | "ref" => do
    let loc ← stepLocation strategy d s
    let x ← orFail (strategy.reference loc subject) []
    match loc.property.ops.value with
    | some _ => pure (owner, tagged (S.valueOf false x.ty x.datum x.identity))
    | none => pure (owner, .string "opaque")
  | "set" => do
    let loc ← stepLocation strategy d s
    let incoming ← incomingOf s
    match ← runSetter strategy loc (.existing subject) incoming with
    | .existing y => pure (if target.isSome then owner else y, .null)
    | .uninit _ => pure (owner, .null)
  | other => refuse ("unknown step `" ++ other ++ "`")

/-- `access`: steps through the accessor strategy on one instance. -/
def accessRequest (request : Tree) : ServiceM Tree := do
  let strategy ← strategyOfName ((← optString request "strategy").getD "raw")
  let key ← stringField request "type"
  let d ← descriptorOfKey key
  let owner ← instanceOf d.ty (← field request "owner")
  let steps ← asArray "steps" (← field request "steps")
  let (owner, results) ← steps.foldlM (fun (acc : Instance × Array Tree) s => do
    let (r, f) := (ExceptT.run (accessStep strategy d acc.1 s)).run (← get)
    set f
    match r with
    | .ok (o, v) => pure (o, acc.2.push (.object [("ok", v)]))
    | .error fault => pure (acc.1, acc.2.push (.object fault.members))) (owner, #[])
  pure (.object [("steps", .array results.toList), ("owner", dumpOf owner)])

/-- One write of `allocate`: the target after it. -/
def allocateSet (strategy : Strategy) (d : Descriptor) (target : Target) (s : Tree) :
    ServiceM Target := do
  let setterStrategy ← match ← optString s "setter_strategy" with
    | some name => strategyOfName name
    | none => pure strategy
  let owner ← match ← optString s "owner_type" with
    | some key => descriptorOfKey key
    | none => pure d
  let loc ← stepLocation setterStrategy owner s
  runSetter setterStrategy loc target (← incomingOf s)

/-- `allocate`: a fresh instance of a record, written field by field, then finished. -/
def allocateRequest (request : Tree) : ServiceM Tree := do
  let strategy ← strategyOfName ((← optString request "strategy").getD "raw")
  let d ← descriptorOfKey (← stringField request "type")
  let S := Catalogue.schema
  let place ← factory Factory.freshIdentity
  let allocation ← orFail (strategy.allocate S d place) []
  let sets ← match request.get? "sets" with
    | none | some .null => pure []
    | some v => asArray "sets" v
  let (target, results) ← sets.foldlM (fun (acc : Target × Array Tree) s => do
    let (r, f) := (ExceptT.run (allocateSet strategy d acc.1 s)).run (← get)
    set f
    match r with
    | .ok t => pure (t, acc.2.push (.object [("ok", .null)]))
    | .error fault => pure (acc.1, acc.2.push (.object fault.members))) (allocation.target, #[])
  let finish ← (·.getD true) <$> optBool request "finish"
  let finished := if finish then
      match Strategy.finish S (Allocation.ofTarget target) with
      | .ok x => Tree.object [("ok", dumpOf x)]
      | .error e => errorTree e
    else .bool false
  pure (.object [("sets", .array results.toList), ("finished", finished)])

end ObjectMapping.Service
