import ObjectMapping.Proofs.UnderLimit
import ObjectMapping.Proofs.MapperBuild
import ObjectMapping.Proofs.FactoryRuns

/-!
# Factories that differ only in their strategy

Two factories built alike but for the access strategy build mappers that differ only in what
the strategy chooses: the strategy itself, and the token of each location (the field's offset
under raw access, the property's number under checked access). Their build notes name the
strategy, so their logs differ too. `Factory.shape` forgets exactly these, and two factories
with the same shape are twins.

A raw build refuses a property that has no offset, which is what a packed record's properties
are; a checked build takes it. So the twins only stay twins while every record they build is
laid out field by field (`Descriptor.exhaustive`). `Schema.Reaches` says which records a value
of a type can lead a mapper to: through options, boxes, lists, arrays and the values of maps,
through the properties of a record and the terminal types of their adapter chains, and, for a
value map, to any record at all.

* `Mapper.Sound`: what a kept mapper of a record satisfies, built for its descriptor under its
  strategy, with the adapter chains the registry resolves, for a record whose reach is laid
  out; `Factory.Kept` says it of every kept mapper, under the factory's strategy.
* `RunsAgree Rel R x y`: runs of `x` and `y` from states related by `Rel` end in related states,
  with the same error or with results related by `R`. Its rules follow the ways operations are
  put together, so later proofs compare two operations step by step.
-/

namespace ObjectMapping

/-! ## Shapes -/

/-- A property with the token of its location forgotten. -/
def MappedProperty.shape (p : MappedProperty) : MappedProperty :=
  { p with location := { p.location with token := 0 } }

/-- A mapper with its strategy and the tokens of its locations forgotten. -/
def Mapper.shape (m : Mapper) : Mapper :=
  { m with strategy := .raw, properties := m.properties.map MappedProperty.shape }

/-- A factory with its strategy, its log and what the strategy chose in its kept mappers
forgotten. -/
def Factory.shape (f : Factory) : Factory :=
  { f with strategy := .raw, log := #[], cache := f.cache.map fun e => (e.1, e.2.shape) }

section Shape

variable {m₁ m₂ : Mapper} {f₁ f₂ : Factory}

@[simp] theorem MappedProperty.shape_info (p : MappedProperty) : p.shape.info = p.info := rfl
@[simp] theorem MappedProperty.shape_name (p : MappedProperty) : p.shape.name = p.name := rfl
@[simp] theorem MappedProperty.shape_chain (p : MappedProperty) : p.shape.chain = p.chain := rfl
@[simp] theorem MappedProperty.shape_nullable (p : MappedProperty) :
    p.shape.nullable = p.nullable := rfl
@[simp] theorem MappedProperty.shape_kind (p : MappedProperty) : p.shape.kind = p.kind := rfl
@[simp] theorem MappedProperty.shape_index (p : MappedProperty) :
    p.shape.location.index = p.location.index := rfl

@[simp] theorem Mapper.shape_ops (m : Mapper) : m.shape.ops = m.ops := rfl
@[simp] theorem Mapper.shape_descriptor (m : Mapper) : m.shape.descriptor = m.descriptor := rfl
@[simp] theorem Mapper.shape_properties (m : Mapper) :
    m.shape.properties = m.properties.map MappedProperty.shape := rfl

theorem Mapper.shape_eq_iff : m₁.shape = m₂.shape ↔ m₁.ops = m₂.ops ∧
    m₁.descriptor = m₂.descriptor ∧
    m₁.properties.map MappedProperty.shape = m₂.properties.map MappedProperty.shape ∧
    m₁.serial = m₂.serial := by
  obtain ⟨o₁, d₁, ps₁, s₁, n₁⟩ := m₁
  obtain ⟨o₂, d₂, ps₂, s₂, n₂⟩ := m₂
  simp [Mapper.shape]

/-- Twin factories hold the same schema, registry, naming, configuration, registrations,
counters and lock, and keep mappers of the same shapes under the same types. -/
theorem Factory.shape_eq_iff : f₁.shape = f₂.shape ↔ f₁.schema = f₂.schema ∧
    f₁.locked = f₂.locked ∧ f₁.adapters = f₂.adapters ∧ f₁.naming = f₂.naming ∧
    f₁.config = f₂.config ∧ f₁.known = f₂.known ∧ f₁.names = f₂.names ∧
    f₁.cache.map (fun e => (e.1, e.2.shape)) = f₂.cache.map (fun e => (e.1, e.2.shape)) ∧
    f₁.builds = f₂.builds ∧ f₁.instances = f₂.instances := by
  obtain ⟨_, _, _, _, _, _, _, _, _, _, _, _⟩ := f₁
  obtain ⟨_, _, _, _, _, _, _, _, _, _, _, _⟩ := f₂
  simp [Factory.shape]

end Shape

/-! ## The records a type leads to -/

namespace Schema

/-- The records a value of a type refers to by itself, not through the properties of another
record: its own record, that of the type an option, a box, a list, an array or a map's values
hold, and any record for a value map, which can hold an object of any type. -/
inductive Leads (S : Schema) : Ty → Descriptor → Prop
  | record {t : Ty} {d : Descriptor} : S.descriptor? t = some d → Leads S t d
  | carried {t : Ty} {d : Descriptor} : Factory.descriptorOf S t = some d → Leads S t d
  | option {t : Ty} {d : Descriptor} : Leads S t d → Leads S (.option t) d
  | boxed {t : Ty} {d : Descriptor} : Leads S t d → Leads S (.boxed t) d
  | vec {t : Ty} {d : Descriptor} : Leads S t d → Leads S (.vec t) d
  | array {t : Ty} {n : Nat} {d : Descriptor} : Leads S t d → Leads S (.array t n) d
  | sortedMap {t : Ty} {d : Descriptor} : Leads S t d → Leads S (.sortedMap t) d
  | hashMap {t : Ty} {d : Descriptor} : Leads S t d → Leads S (.hashMap t) d
  | fixedMap {t : Ty} {d : Descriptor} : Leads S t d → Leads S (.fixedMap t) d
  | valueMap {t : Ty} {d : Descriptor} : S.descriptor? t = some d → Leads S .valueMap d

/-- The records reached from a record through its properties: by their declared types and by
the terminal types of the adapter chains the registry resolves for them. -/
inductive Under (S : Schema) (reg : Registry) : Descriptor → Descriptor → Prop
  | refl (d : Descriptor) : Under S reg d d
  | field {d d₁ d' : Descriptor} {p : PropertyInfo} : p ∈ d.properties → S.Leads p.ops.ty d₁ →
      Under S reg d₁ d' → Under S reg d d'
  | adapted {d d₁ d' : Descriptor} {p : PropertyInfo} {c : Chain} : p ∈ d.properties →
      reg.resolve S p.ops = .ok c → S.Leads c.terminal.ty d₁ → Under S reg d₁ d' →
      Under S reg d d'

/-- The records a mapper may look up while it writes or reads a value of a type. -/
def Reaches (S : Schema) (reg : Registry) (t : Ty) (d : Descriptor) : Prop :=
  ∃ d₀, S.Leads t d₀ ∧ S.Under reg d₀ d

/-- Every record reached from a record is laid out field by field. -/
def SafeRecord (S : Schema) (reg : Registry) (d : Descriptor) : Prop :=
  ∀ d', S.Under reg d d' → d'.exhaustive = true

/-- Every record a value of a type leads to is safe. -/
def SafeType (S : Schema) (reg : Registry) (t : Ty) : Prop :=
  ∀ d, S.Leads t d → S.SafeRecord reg d

section Safe

variable {S : Schema} {reg : Registry} {t : Ty} {d : Descriptor}

theorem safeType_iff : S.SafeType reg t ↔ ∀ d, S.Reaches reg t d → d.exhaustive = true := by
  constructor
  · rintro h d ⟨d₀, hl, hu⟩
    exact h d₀ hl d hu
  · intro h d₀ hl d hu
    exact h d ⟨d₀, hl, hu⟩

theorem SafeRecord.exhaustive (h : S.SafeRecord reg d) : d.exhaustive = true := h d (.refl d)

theorem SafeRecord.field (h : S.SafeRecord reg d) {p : PropertyInfo} (hp : p ∈ d.properties) :
    S.SafeType reg p.ops.ty :=
  fun _ hl d' hu => h d' (.field hp hl hu)

theorem SafeRecord.adapted (h : S.SafeRecord reg d) {p : PropertyInfo} (hp : p ∈ d.properties)
    {c : Chain} (hc : reg.resolve S p.ops = .ok c) : S.SafeType reg c.terminal.ty :=
  fun _ hl d' hu => h d' (.adapted hp hc hl hu)

theorem SafeType.record (h : S.SafeType reg t) (hd : S.descriptor? t = some d) :
    S.SafeRecord reg d :=
  h d (.record hd)

theorem SafeType.carried (h : S.SafeType reg t) (hd : Factory.descriptorOf S t = some d) :
    S.SafeRecord reg d :=
  h d (.carried hd)

theorem SafeType.option (h : S.SafeType reg (.option t)) : S.SafeType reg t :=
  fun d hl => h d (.option hl)

theorem SafeType.boxed (h : S.SafeType reg (.boxed t)) : S.SafeType reg t :=
  fun d hl => h d (.boxed hl)

theorem SafeType.vec (h : S.SafeType reg (.vec t)) : S.SafeType reg t :=
  fun d hl => h d (.vec hl)

theorem SafeType.array {n : Nat} (h : S.SafeType reg (.array t n)) : S.SafeType reg t :=
  fun d hl => h d (.array hl)

/-- The values of a sorted, hashed or fixed map are safe when the map is. -/
theorem SafeType.map {e : Ty} (ht : t = .sortedMap e ∨ t = .hashMap e ∨ t = .fixedMap e)
    (h : S.SafeType reg t) : S.SafeType reg e := by
  rcases ht with rfl | rfl | rfl
  · exact fun d hl => h d (.sortedMap hl)
  · exact fun d hl => h d (.hashMap hl)
  · exact fun d hl => h d (.fixedMap hl)

/-- A value map can hold an object of any record. -/
theorem SafeType.valueMap (h : S.SafeType reg .valueMap) {u : Ty} (hd : S.descriptor? u = some d) :
    S.SafeRecord reg d :=
  h d (.valueMap hd)

end Safe

end Schema

/-! ## Sound mappers and kept mappers -/

/-- What the mapper of a record that a factory keeps satisfies: it is built for the record's
descriptor under its strategy, for instances of the record, with each property's chain the one
the registry resolves, and every record reached from it is laid out field by field. The
descriptor is the one the schema declares for the record. -/
structure Mapper.Sound (S : Schema) (reg : Registry) (m : Mapper) (d : Descriptor) : Prop where
  built : m.Built d
  ty : m.ops.ty = d.ty
  wellFormed : d.WellFormed
  chains : ∀ p ∈ m.properties, reg.resolve S p.info.ops = .ok p.chain
  safe : S.SafeRecord reg d
  declared : S.descriptor? d.ty = some d

/-- Every mapper a factory keeps is built under the factory's strategy for the type it is kept
under, is sound when it is the mapper of a record, and has no properties otherwise. -/
def Factory.Kept (f : Factory) : Prop :=
  ∀ k m, (k, m) ∈ f.cache → m.strategy = f.strategy ∧ m.ops.ty = k ∧
    (∀ d, m.descriptor = some d → m.Sound f.schema f.adapters d) ∧
    (m.descriptor = none → m.properties = [])

/-- Twin factories, the first under the strategy `s₁` and the second under `s₂`, for the schema
`S` and the registry `reg`, each keeping only mappers built under its own strategy. -/
structure Factory.Twins (S : Schema) (reg : Registry) (s₁ s₂ : Strategy) (f₁ f₂ : Factory) :
    Prop where
  schema : f₁.schema = S
  adapters : f₁.adapters = reg
  left : f₁.strategy = s₁
  right : f₂.strategy = s₂
  shape : f₁.shape = f₂.shape
  keptLeft : f₁.Kept
  keptRight : f₂.Kept

/-- Mappers that twin factories give for one lookup: of the same shape, each under its
factory's strategy and sound for its record, with no properties when there is no record. -/
structure Mapper.Twins (S : Schema) (reg : Registry) (s₁ s₂ : Strategy) (m₁ m₂ : Mapper) :
    Prop where
  shape : m₁.shape = m₂.shape
  left : m₁.strategy = s₁
  right : m₂.strategy = s₂
  soundLeft : ∀ d, m₁.descriptor = some d → m₁.Sound S reg d
  soundRight : ∀ d, m₂.descriptor = some d → m₂.Sound S reg d
  bare : m₁.descriptor = none → m₁.properties = []

/-! ## Runs that agree -/

/-- Two outcomes of runs: the same error, or results related by `R`. -/
inductive Outcome {α β : Type} (R : α → β → Prop) : Except MapError α → Except MapError β → Prop
  | error (e : MapError) : Outcome R (.error e) (.error e)
  | ok {a : α} {b : β} : R a b → Outcome R (.ok a) (.ok b)

@[simp] theorem Outcome.eq_iff {α : Type} {r₁ r₂ : Except MapError α} :
    Outcome Eq r₁ r₂ ↔ r₁ = r₂ := by
  constructor
  · rintro (e | ⟨rfl⟩) <;> rfl
  · rintro rfl
    rcases r₁ with e | a
    · exact .error e
    · exact .ok rfl

theorem Outcome.mono {α β : Type} {R R' : α → β → Prop} {r₁ : Except MapError α}
    {r₂ : Except MapError β} (h : Outcome R r₁ r₂) (hR : ∀ a b, R a b → R' a b) :
    Outcome R' r₁ r₂ := by
  cases h with
  | error e => exact .error e
  | ok hab => exact .ok (hR _ _ hab)

open HoldsFactory

section Agree

variable {ω : Type} (Rel : ω → ω → Prop) {α β γ δ : Type}

/-- Runs of `x` and `y` from states related by `Rel` end in states related by `Rel`, with the
same error or with results related by `R`. -/
def RunsAgree (R : α → β → Prop) (x : ExceptT MapError (StateM ω) α)
    (y : ExceptT MapError (StateM ω) β) : Prop :=
  ∀ s₁ s₂, Rel s₁ s₂ → Outcome R (run x s₁).1 (run y s₂).1 ∧ Rel (run x s₁).2 (run y s₂).2

namespace RunsAgree

variable {Rel} {R : α → β → Prop} {Q : γ → δ → Prop}

theorem pure {a : α} {b : β} (h : R a b) :
    RunsAgree Rel R (Pure.pure a : ExceptT MapError (StateM ω) α) (Pure.pure b) :=
  fun _ _ hs => ⟨.ok h, hs⟩

theorem throw (e : MapError) :
    RunsAgree Rel R (MonadExcept.throw e : ExceptT MapError (StateM ω) α) (MonadExcept.throw e) :=
  fun _ _ hs => ⟨.error e, hs⟩

theorem bind {x : ExceptT MapError (StateM ω) α} {y : ExceptT MapError (StateM ω) β}
    {k : α → ExceptT MapError (StateM ω) γ} {k' : β → ExceptT MapError (StateM ω) δ}
    (hx : RunsAgree Rel R x y) (hk : ∀ a b, R a b → RunsAgree Rel Q (k a) (k' b)) :
    RunsAgree Rel Q (x >>= k) (y >>= k') := by
  intro s₁ s₂ hs
  obtain ⟨hout, hrel⟩ := hx s₁ s₂ hs
  rw [run_bind, run_bind]
  rcases h₁ : run x s₁ with ⟨r₁, t₁⟩
  rcases h₂ : run y s₂ with ⟨r₂, t₂⟩
  rw [h₁, h₂] at hout hrel
  cases hout with
  | error e => exact ⟨.error e, hrel⟩
  | ok hab => exact hk _ _ hab t₁ t₂ hrel

theorem throw_bind (e : MapError) {k : α → ExceptT MapError (StateM ω) γ}
    {k' : β → ExceptT MapError (StateM ω) δ} :
    RunsAgree Rel Q (MonadExcept.throw e >>= k) (MonadExcept.throw e >>= k') :=
  fun _ _ hs => ⟨.error e, hs⟩

theorem map {x : ExceptT MapError (StateM ω) α} {y : ExceptT MapError (StateM ω) β}
    {g : α → γ} {g' : β → δ} (hx : RunsAgree Rel R x y) (hg : ∀ a b, R a b → Q (g a) (g' b)) :
    RunsAgree Rel Q (g <$> x) (g' <$> y) := by
  rw [map_eq_pure_bind, map_eq_pure_bind]
  exact hx.bind fun a b hab => pure (hg a b hab)

theorem mono {x : ExceptT MapError (StateM ω) α} {y : ExceptT MapError (StateM ω) β}
    {R' : α → β → Prop} (hx : RunsAgree Rel R x y) (hR : ∀ a b, R a b → R' a b) :
    RunsAgree Rel R' x y := by
  intro s₁ s₂ hs
  obtain ⟨hout, hrel⟩ := hx s₁ s₂ hs
  exact ⟨hout.mono hR, hrel⟩

theorem tryCatch {x y : ExceptT MapError (StateM ω) α} {R : α → α → Prop}
    {h h' : MapError → ExceptT MapError (StateM ω) α} (hx : RunsAgree Rel R x y)
    (hh : ∀ e, RunsAgree Rel R (h e) (h' e)) :
    RunsAgree Rel R (tryCatch x h) (tryCatch y h') := by
  intro s₁ s₂ hs
  obtain ⟨hout, hrel⟩ := hx s₁ s₂ hs
  rcases h₁ : run x s₁ with ⟨r₁, t₁⟩
  rcases h₂ : run y s₂ with ⟨r₂, t₂⟩
  rw [h₁, h₂] at hout hrel
  cases hout with
  | error e =>
    rw [run_tryCatch_error h₁, run_tryCatch_error h₂]
    exact hh e t₁ t₂ hrel
  | ok hab =>
    rw [run_tryCatch_ok h₁, run_tryCatch_ok h₂]
    exact ⟨.ok hab, hrel⟩

/-- Two traversals of lists related member by member. -/
theorem mapM {cs : List γ} {cs' : List δ} {P : γ → δ → Prop}
    {g : γ → ExceptT MapError (StateM ω) α} {g' : δ → ExceptT MapError (StateM ω) β}
    (hcs : List.Forall₂ P cs cs') (hg : ∀ c c', P c c' → RunsAgree Rel R (g c) (g' c')) :
    RunsAgree Rel (List.Forall₂ R) (cs.mapM g) (cs'.mapM g') := by
  induction hcs with
  | nil => exact pure .nil
  | @cons c c' cs cs' hc _ ih =>
    rw [List.mapM_cons, List.mapM_cons]
    exact (hg c c' hc).bind fun a b hab => ih.bind fun as bs habs => pure (.cons hab habs)

/-- Two folds over lists related member by member, with accumulators related by `Q`. -/
theorem foldlM {cs : List γ} {cs' : List δ} {P : γ → δ → Prop}
    {step : α → γ → ExceptT MapError (StateM ω) α} {step' : β → δ → ExceptT MapError (StateM ω) β}
    (hcs : List.Forall₂ P cs cs')
    (hstep : ∀ a b c c', R a b → P c c' → RunsAgree Rel R (step a c) (step' b c')) :
    ∀ {a : α} {b : β}, R a b → RunsAgree Rel R (cs.foldlM step a) (cs'.foldlM step' b) := by
  induction hcs with
  | nil => exact fun hab => pure hab
  | @cons c c' cs cs' hc _ ih =>
    intro a b hab
    rw [List.foldlM_cons, List.foldlM_cons]
    exact (hstep a b c c' hab hc).bind fun a' b' hab' => ih hab'

/-- Operations that read the state: related states give related continuations. -/
theorem get_bind {k : ω → ExceptT MapError (StateM ω) α} {k' : ω → ExceptT MapError (StateM ω) β}
    (hk : ∀ s₁ s₂, Rel s₁ s₂ → RunsAgree Rel R (k s₁) (k' s₂)) :
    RunsAgree Rel R (get >>= k) (get >>= k') := by
  intro s₁ s₂ hs
  have hget : ∀ s : ω, run (get : ExceptT MapError (StateM ω) ω) s = (.ok s, s) := fun _ => rfl
  rw [run_bind_ok (hget s₁), run_bind_ok (hget s₂)]
  exact hk s₁ s₂ hs s₁ s₂ hs

/-- Operations that change the state in related ways. -/
theorem modify {g g' : ω → ω} (hg : ∀ s₁ s₂, Rel s₁ s₂ → Rel (g s₁) (g' s₂)) :
    RunsAgree Rel (fun _ _ => True) (modify g : ExceptT MapError (StateM ω) PUnit) (modify g') :=
  fun s₁ s₂ hs => ⟨.ok trivial, hg s₁ s₂ hs⟩

end RunsAgree

end Agree

theorem RunsAgree.lift {Rel : Factory → Factory → Prop} {α : Type} (r : Except MapError α) :
    RunsAgree Rel Eq (Mapper.lift r) (Mapper.lift r) := by
  cases r with
  | error e => exact throw e
  | ok a => exact pure rfl

/-! ## Operations that twins run alike -/

@[simp] theorem MappedProperty.shape_shape (p : MappedProperty) : p.shape.shape = p.shape := rfl

@[simp] theorem Mapper.shape_shape (m : Mapper) : m.shape.shape = m.shape := by
  simp [Mapper.shape, List.map_map, Function.comp_def]

@[simp] theorem Factory.shape_shape (f : Factory) : f.shape.shape = f.shape := by
  simp [Factory.shape, List.map_map, Function.comp_def]

namespace Factory

variable {α β : Type}

/-- An operation that reads only what the shape of a factory keeps and leaves alone what the
kept mappers are judged by: from a factory and from its shape it gives the same result and
final factories of the same shape, and it keeps the mappers, the strategy, the schema and the
registry. Twins run it alike. -/
structure Oblivious (x : FactoryM α) : Prop where
  result : ∀ f, (run x f.shape).1 = (run x f).1
  shape : ∀ f, (run x f.shape).2.shape = (run x f).2.shape
  frame : ∀ f, (run x f).2.cache = f.cache ∧ (run x f).2.strategy = f.strategy ∧
    (run x f).2.schema = f.schema ∧ (run x f).2.adapters = f.adapters

namespace Oblivious

theorem pure (a : α) : Oblivious (Pure.pure a : FactoryM α) :=
  ⟨fun _ => rfl, fun f => f.shape_shape, fun _ => ⟨rfl, rfl, rfl, rfl⟩⟩

theorem throw (e : MapError) : Oblivious (MonadExcept.throw e : FactoryM α) :=
  ⟨fun _ => rfl, fun f => f.shape_shape, fun _ => ⟨rfl, rfl, rfl, rfl⟩⟩

theorem bind {x : FactoryM α} {k : α → FactoryM β} (hx : Oblivious x)
    (hk : ∀ a, Oblivious (k a)) : Oblivious (x >>= k) := by
  -- the first step leaves the run from the shape at a factory of the same shape
  have hstep : ∀ f, (run (x >>= k) f.shape).1 = (run (x >>= k) f).1 ∧
      (run (x >>= k) f.shape).2.shape = (run (x >>= k) f).2.shape := by
    intro f
    have hr := hx.result f
    have hs := hx.shape f
    rw [run_bind, run_bind]
    rcases hf : run x f with ⟨r, g⟩
    rcases hg : run x f.shape with ⟨r', g'⟩
    rw [hf, hg] at hr hs
    dsimp only at hr hs
    subst hr
    rcases r' with e | a
    · exact ⟨rfl, hs⟩
    · have h₁ := (hk a).result g'
      have h₂ := (hk a).result g
      have h₃ := (hk a).shape g'
      have h₄ := (hk a).shape g
      rw [hs] at h₁ h₃
      exact ⟨h₁.symm.trans h₂, h₃.symm.trans h₄⟩
  refine ⟨fun f => (hstep f).1, fun f => (hstep f).2, fun f => ?_⟩
  obtain ⟨hc, hs, hS, ha⟩ := hx.frame f
  rw [run_bind]
  rcases hf : run x f with ⟨_ | a, g⟩ <;> rw [hf] at hc hs hS ha
  · exact ⟨hc, hs, hS, ha⟩
  · obtain ⟨hc', hs', hS', ha'⟩ := (hk a).frame g
    exact ⟨hc'.trans hc, hs'.trans hs, hS'.trans hS, ha'.trans ha⟩

theorem throw_bind {e : MapError} {k : α → FactoryM β} : Oblivious (MonadExcept.throw e >>= k) :=
  ⟨fun _ => rfl, fun f => f.shape_shape, fun _ => ⟨rfl, rfl, rfl, rfl⟩⟩

/-- Reading the factory: what is read is kept by its shape. -/
theorem get_bind {k : Factory → FactoryM α} (hread : ∀ f, k f.shape = k f)
    (hk : ∀ f, Oblivious (k f)) : Oblivious (get >>= k) := by
  refine ⟨fun f => ?_, fun f => ?_, fun f => ?_⟩
  · rw [run_bind_ok (run_get _), run_bind_ok (run_get f), hread]
    exact (hk f).result f
  · rw [run_bind_ok (run_get _), run_bind_ok (run_get f), hread]
    exact (hk f).shape f
  · rw [run_bind_ok (run_get f)]
    exact (hk f).frame f

/-- A change of the factory that commutes with its shape and keeps what the kept mappers are
judged by. -/
theorem modify {g : Factory → Factory} (hg : ∀ f, (g f.shape).shape = (g f).shape)
    (hframe : ∀ f, (g f).cache = f.cache ∧ (g f).strategy = f.strategy ∧ (g f).schema = f.schema ∧
      (g f).adapters = f.adapters) :
    Oblivious (modify g : FactoryM PUnit) :=
  ⟨fun _ => rfl, fun f => hg f, fun f => hframe f⟩

theorem lift (r : Except MapError α) : Oblivious (Mapper.lift r) := by
  cases r with
  | error e => exact throw e
  | ok a => exact pure a

theorem map {x : FactoryM α} (g : α → β) (hx : Oblivious x) : Oblivious (g <$> x) := by
  rw [map_eq_pure_bind]
  exact bind hx fun a => pure _

end Oblivious

/-- The log is not part of the shape. -/
@[simp] theorem shape_withLog (f : Factory) (l : Array String) :
    ({ f with log := l } : Factory).shape = f.shape :=
  rfl

theorem note_oblivious (level message : String) : Oblivious (note level message) :=
  Oblivious.modify (fun f => by simp) fun _ => ⟨rfl, rfl, rfl, rfl⟩

theorem freshIdentity_oblivious : Oblivious freshIdentity := by
  refine ⟨fun _ => rfl, fun f => ?_, fun _ => ⟨rfl, rfl, rfl, rfl⟩⟩
  show ({ f.shape with instances := f.instances + 1 } : Factory).shape =
    ({ f with instances := f.instances + 1 } : Factory).shape
  simp [Factory.shape, List.map_map, Function.comp_def]

theorem enter_oblivious (depth : Nat) : Oblivious (enter depth) := by
  refine Oblivious.get_bind (fun _ => rfl) fun f => ?_
  dsimp only
  split
  · exact Oblivious.throw_bind
  · exact Oblivious.pure _

theorem resolveChain_oblivious (declared : TypeOps) : Oblivious (resolveChain declared) := by
  refine Oblivious.get_bind (fun _ => rfl) fun f => ?_
  split
  · exact Oblivious.throw _
  · split
    · exact Oblivious.bind (note_oblivious _ _) fun _ => Oblivious.pure _
    · exact Oblivious.pure _

/-- Compiling a property under checked access reads the naming, the registry, the configuration
and the registrations, all kept by the shape. -/
theorem compileProperty_checked_oblivious (owner : Descriptor) (done : List MappedProperty)
    (p : PropertyInfo) : Oblivious (compileProperty .checked owner done p) := by
  unfold compileProperty
  refine Oblivious.get_bind (fun _ => rfl) fun f => ?_
  dsimp only
  split
  · exact Oblivious.throw_bind
  · refine Oblivious.bind (resolveChain_oblivious _) fun chain => ?_
    repeat' split
    all_goals first | exact Oblivious.throw_bind | exact Oblivious.throw _ | exact Oblivious.pure _

end Factory

section Twins

variable {S : Schema} {reg : Registry} {s₁ s₂ : Strategy} {f₁ f₂ g₁ g₂ : Factory} {α β : Type}

/-- What the kept mappers are judged by: a factory with the same mappers, strategy, schema and
registry keeps them as well. -/
theorem Factory.Kept.of_frame (h : f₁.Kept) (hc : g₁.cache = f₁.cache)
    (hs : g₁.strategy = f₁.strategy) (hS : g₁.schema = f₁.schema)
    (ha : g₁.adapters = f₁.adapters) : g₁.Kept := by
  intro k m hm
  rw [hc] at hm
  rw [hs, hS, ha]
  exact h k m hm

/-- Twins run an operation that reads only their shape alike. -/
theorem Factory.Oblivious.agrees {x : FactoryM α} (hx : Factory.Oblivious x) :
    RunsAgree (Factory.Twins S reg s₁ s₂) Eq x x := by
  intro f₁ f₂ ht
  obtain ⟨hc₁, hs₁, hS₁, ha₁⟩ := hx.frame f₁
  obtain ⟨hc₂, hs₂, hS₂, ha₂⟩ := hx.frame f₂
  have hres : (Factory.run x f₁).1 = (Factory.run x f₂).1 := by
    rw [← hx.result f₁, ← hx.result f₂, ht.shape]
  have hshape : (Factory.run x f₁).2.shape = (Factory.run x f₂).2.shape := by
    rw [← hx.shape f₁, ← hx.shape f₂, ht.shape]
  refine ⟨Outcome.eq_iff.mpr hres, ⟨hS₁.trans ht.schema, ha₁.trans ht.adapters,
    hs₁.trans ht.left, hs₂.trans ht.right, hshape, ht.keptLeft.of_frame hc₁ hs₁ hS₁ ha₁,
    ht.keptRight.of_frame hc₂ hs₂ hS₂ ha₂⟩⟩

/-- An operation that reads only the shape, followed by related continuations. -/
theorem Factory.Oblivious.agrees_bind {x : FactoryM α} {k k' : α → FactoryM β} {R : β → β → Prop}
    (hx : Factory.Oblivious x) (hk : ∀ a, RunsAgree (Factory.Twins S reg s₁ s₂) R (k a) (k' a)) :
    RunsAgree (Factory.Twins S reg s₁ s₂) R (x >>= k) (x >>= k') :=
  hx.agrees.bind fun a _ hab => hab ▸ hk a

end Twins

/-! ## Builds under either strategy -/

section Builds

variable {S : Schema} {reg : Registry} {s₁ s₂ : Strategy} {α β : Type}

theorem RunsAgree.set {ω : Type} {Rel : ω → ω → Prop} {t₁ t₂ : ω} (h : Rel t₁ t₂) :
    RunsAgree Rel (fun _ _ => True) (set t₁ : ExceptT MapError (StateM ω) PUnit) (set t₂) :=
  fun _ _ _ => ⟨.ok trivial, h⟩

/-- Facts every successful run of the first operation gives. -/
theorem RunsAgree.post {ω : Type} {Rel : ω → ω → Prop} {R : α → β → Prop} {P : α → Prop}
    {x : ExceptT MapError (StateM ω) α} {y : ExceptT MapError (StateM ω) β}
    (h : RunsAgree Rel R x y) (hP : ∀ s₁ a, (∃ s₂, Rel s₁ s₂) → (run x s₁).1 = .ok a → P a) :
    RunsAgree Rel (fun a b => R a b ∧ P a) x y := by
  intro s₁ s₂ hs
  obtain ⟨hout, hrel⟩ := h s₁ s₂ hs
  refine ⟨?_, hrel⟩
  rcases h₁ : (run x s₁).1 with e | a <;> rcases h₂ : (run y s₂).1 with e' | b <;>
    rw [h₁, h₂] at hout <;> cases hout
  · exact .error e
  · rename_i hab
    exact .ok ⟨hab, hP s₁ a ⟨s₂, hs⟩ h₁⟩

/-- Either strategy reaches a property of a record laid out field by field, at the property's
own number. -/
theorem Strategy.prepare_laid (s : Strategy) {d : Descriptor} (hwf : d.WellFormed)
    (hex : d.exhaustive = true) {p : PropertyInfo} (hp : p ∈ d.properties) :
    s.canAccess p = true ∧ ∃ token, s.prepare d p = .ok ⟨d, p, p.index, token⟩ := by
  have hpos := hwf.position?_eq hp
  cases s with
  | checked => exact ⟨rfl, p.index, by simp only [Strategy.prepare, hpos]; rfl⟩
  | raw =>
    -- a record laid out field by field has an offset for each property, inside the record
    have hdesc := hwf.described hex
    simp only [Strategy.described, Bool.and_eq_true, List.all_eq_true] at hdesc
    have hany := hdesc.1.2 p hp
    cases ho : p.offset with
    | none => simp [ho] at hany
    | some o =>
      have hfit : p.ops.footprint.fitsAt o d.ops.footprint = true := by simpa [ho] using hany
      refine ⟨by simp [Strategy.canAccess, ho], o, ?_⟩
      have hvalid : Strategy.validRaw ⟨d, p, p.index, o⟩ = true := by
        simp [Strategy.validRaw, hpos, ho, hfit]
      simp only [Strategy.prepare, hpos, ho, hvalid, if_true]
      rfl

namespace Factory

/-- A property compiled under a strategy that can reach it is the property compiled under
checked access, at the location the strategy prepares. -/
theorem compileProperty_at {s : Strategy} {d : Descriptor} {p : PropertyInfo} {loc : Location}
    (hcan : s.canAccess p = true) (hprep : s.prepare d p = .ok loc)
    (hloc : Strategy.checked.prepare d p = .ok ⟨d, p, loc.index, loc.index⟩)
    (done : List MappedProperty) :
    compileProperty s d done p =
      (fun mp => { mp with location := loc }) <$> compileProperty .checked d done p := by
  have hcanC : Strategy.checked.canAccess p = true := rfl
  unfold compileProperty
  simp only [hcan, hcanC, hprep, hloc, Bool.not_true, Bool.false_eq_true, if_false, map_bind,
    apply_ite]
  refine bind_congr fun f => ?_
  split
  · rfl
  · refine bind_congr fun chain => ?_
    split
    · split
      · split
        · rfl
        · split <;> rfl
      · rfl
    · rfl

/-- Compiling a property reads the properties compiled before it only by their names. -/
theorem compileProperty_names {s : Strategy} {d : Descriptor} {p : PropertyInfo}
    {done₁ done₂ : List MappedProperty} (h : done₁.map (·.name) = done₂.map (·.name)) :
    compileProperty s d done₁ p = compileProperty s d done₂ p := by
  have hany : ∀ n, (done₁.any fun x => x.name == n) = done₂.any fun x => x.name == n := by
    intro n
    have := congrArg (fun l : List String => l.any (· == n)) h
    simpa [List.any_map, Function.comp_def] using this
  unfold compileProperty
  simp only [hany]

/-- The chain of a compiled property is the one the registry resolves for its type. -/
theorem run_compileProperty_chain {s : Strategy} {d : Descriptor} {done : List MappedProperty}
    {p : PropertyInfo} {f f' : Factory} {mp : MappedProperty}
    (h : run (compileProperty s d done p) f = (.ok mp, f')) :
    f.adapters.resolve f.schema p.ops = .ok mp.chain := by
  unfold compileProperty at h
  rw [run_bind_ok (run_get f)] at h
  dsimp only at h
  split at h
  · cases h
  · obtain ⟨chain, f₁, hc, hk⟩ := run_bind_eq_ok h
    have hres : f.adapters.resolve f.schema p.ops = .ok chain := resolveChain_ok hc
    -- every branch after the chain either fails or keeps the chain
    repeat' split at hk
    all_goals first | (cases hk; done) | (cases hk; exact hres)

/-! ### Twins through a build -/

section Update

variable {f₁ f₂ : Factory}

theorem Twins.lock (ht : Twins S reg s₁ s₂ f₁ f₂) :
    Twins S reg s₁ s₂ { f₁ with locked := true } { f₂ with locked := true } :=
  ⟨ht.schema, ht.adapters, ht.left, ht.right,
    congrArg (fun g : Factory => { g with locked := true }) ht.shape,
    ht.keptLeft.of_frame rfl rfl rfl rfl, ht.keptRight.of_frame rfl rfl rfl rfl⟩

theorem Twins.log (ht : Twins S reg s₁ s₂ f₁ f₂) (l₁ l₂ : Array String) :
    Twins S reg s₁ s₂ { f₁ with log := l₁ } { f₂ with log := l₂ } :=
  ⟨ht.schema, ht.adapters, ht.left, ht.right, ht.shape,
    ht.keptLeft.of_frame rfl rfl rfl rfl, ht.keptRight.of_frame rfl rfl rfl rfl⟩

theorem Twins.count (ht : Twins S reg s₁ s₂ f₁ f₂) :
    Twins S reg s₁ s₂ { f₁ with builds := f₁.builds + 1 } { f₂ with builds := f₂.builds + 1 } := by
  have hb : f₁.builds = f₂.builds := (shape_eq_iff.mp ht.shape).2.2.2.2.2.2.2.2.1
  refine ⟨ht.schema, ht.adapters, ht.left, ht.right, ?_,
    ht.keptLeft.of_frame rfl rfl rfl rfl, ht.keptRight.of_frame rfl rfl rfl rfl⟩
  rw [hb]
  exact congrArg (fun g : Factory => { g with builds := f₂.builds + 1 }) ht.shape

/-- Keeping the mappers twins built for one type keeps the factories twins. -/
theorem Twins.keep (ht : Twins S reg s₁ s₂ f₁ f₂) (k : Ty) {m₁ m₂ : Mapper}
    (hm : Mapper.Twins S reg s₁ s₂ m₁ m₂) (hk : m₁.ops.ty = k) :
    Twins S reg s₁ s₂ { f₁ with cache := f₁.cache ++ [(k, m₁)] }
      { f₂ with cache := f₂.cache ++ [(k, m₂)] } := by
  refine ⟨ht.schema, ht.adapters, ht.left, ht.right, ?_, ?_, ?_⟩
  · obtain ⟨h₁, h₂, h₃, h₄, h₅, h₆, h₇, h₈, h₉, h₁₀⟩ := shape_eq_iff.mp ht.shape
    exact shape_eq_iff.mpr ⟨h₁, h₂, h₃, h₄, h₅, h₆, h₇, by simp [h₈, hm.shape], h₉, h₁₀⟩
  · intro k' m hmem
    rcases List.mem_append.mp hmem with hmem | hmem
    · exact ht.keptLeft k' m hmem
    · obtain ⟨rfl, rfl⟩ := Prod.mk.inj (List.mem_singleton.mp hmem)
      refine ⟨hm.left.trans ht.left.symm, hk, fun d hd => ?_, hm.bare⟩
      simpa [ht.schema, ht.adapters] using hm.soundLeft d hd
  · intro k' m hmem
    rcases List.mem_append.mp hmem with hmem | hmem
    · exact ht.keptRight k' m hmem
    · obtain ⟨rfl, rfl⟩ := Prod.mk.inj (List.mem_singleton.mp hmem)
      have hS : f₂.schema = S := ((shape_eq_iff.mp ht.shape).1).symm.trans ht.schema
      have ha : f₂.adapters = reg := ((shape_eq_iff.mp ht.shape).2.2.1).symm.trans ht.adapters
      obtain ⟨hops, hdesc, hprops, -⟩ := Mapper.shape_eq_iff.mp hm.shape
      refine ⟨hm.right.trans ht.right.symm, hops ▸ hk, fun d hd => ?_, fun hd => ?_⟩
      · simpa [hS, ha] using hm.soundRight d hd
      · -- the properties of twin mappers have the same shapes, so both have none
        have hnil := hm.bare (hdesc.trans hd)
        rw [hnil, List.map_nil] at hprops
        exact List.map_eq_nil_iff.mp hprops.symm

end Update

theorem lockStrategy_twins :
    RunsAgree (Twins S reg s₁ s₂) (fun a b => a = s₁ ∧ b = s₂) lockStrategy lockStrategy :=
  fun _ _ ht => ⟨.ok ⟨ht.left, ht.right⟩, ht.lock⟩

theorem note_twins (level : String) (message₁ message₂ : String) :
    RunsAgree (Twins S reg s₁ s₂) (fun _ _ => True) (note level message₁) (note level message₂) :=
  RunsAgree.modify fun _ _ ht => ht.log _ _

/-- Properties compiled for the record `d` under the two strategies: of the same shapes, and
each at the location its strategy prepared, with the chain the registry resolves. -/
def CompiledTwins (S : Schema) (reg : Registry) (s₁ s₂ : Strategy) (d : Descriptor)
    (ps₁ ps₂ : List MappedProperty) : Prop :=
  ps₁.map MappedProperty.shape = ps₂.map MappedProperty.shape ∧
    (∀ mp ∈ ps₁, s₁.prepare d mp.info = .ok mp.location ∧
      reg.resolve S mp.info.ops = .ok mp.chain) ∧
    ∀ mp ∈ ps₂, s₂.prepare d mp.info = .ok mp.location ∧ reg.resolve S mp.info.ops = .ok mp.chain

/-- Twins compile a property of a record laid out field by field alike, each at the location its
strategy prepares. -/
theorem compileProperty_twins {d : Descriptor} (hwf : d.WellFormed) (hex : d.exhaustive = true)
    {p : PropertyInfo} (hp : p ∈ d.properties) {done₁ done₂ : List MappedProperty}
    (hdone : done₁.map MappedProperty.shape = done₂.map MappedProperty.shape) :
    RunsAgree (Twins S reg s₁ s₂) (fun mp₁ mp₂ => CompiledTwins S reg s₁ s₂ d [mp₁] [mp₂] ∧
        mp₁.info = p) (compileProperty s₁ d done₁ p) (compileProperty s₂ d done₂ p) := by
  obtain ⟨hcan₁, t₁, hprep₁⟩ := s₁.prepare_laid hwf hex hp
  obtain ⟨hcan₂, t₂, hprep₂⟩ := s₂.prepare_laid hwf hex hp
  have hprepC : Strategy.checked.prepare d p = .ok ⟨d, p, p.index, p.index⟩ := by
    simp only [Strategy.prepare, hwf.position?_eq hp]
    rfl
  have hnames : done₂.map (·.name) = done₁.map (·.name) := by
    have := congrArg (List.map MappedProperty.name) hdone
    simpa [List.map_map, Function.comp_def] using this.symm
  rw [compileProperty_at hcan₁ hprep₁ hprepC, compileProperty_at hcan₂ hprep₂ hprepC,
    compileProperty_names hnames]
  -- both are the checked compilation, which twins run alike, moved to their own locations
  refine ((compileProperty_checked_oblivious d done₁ p).agrees.post
    (P := fun mp => mp.info = p ∧ reg.resolve S p.ops = .ok mp.chain) ?_).map ?_
  · rintro f a ⟨f₂, ht⟩ hrun
    have hrun' : Factory.run (compileProperty .checked d done₁ p) f =
        (.ok a, (Factory.run (compileProperty .checked d done₁ p) f).2) :=
      Prod.ext hrun rfl
    refine ⟨(compileProperty_yields .checked d done₁ p f a _ hrun').1, ?_⟩
    rw [← ht.schema, ← ht.adapters]
    exact run_compileProperty_chain hrun'
  · rintro mp _ ⟨rfl, hinfo, hchain⟩
    refine ⟨⟨rfl, ?_, ?_⟩, hinfo⟩
    · simpa [hinfo] using ⟨hprep₁, hchain⟩
    · simpa [hinfo] using ⟨hprep₂, hchain⟩

/-- Twins compile the properties of a record laid out field by field alike, in order. -/
theorem compileAll_twins {d : Descriptor} (hwf : d.WellFormed) (hex : d.exhaustive = true) :
    ∀ (ps : List PropertyInfo) (done₁ done₂ : List MappedProperty), (∀ p ∈ ps, p ∈ d.properties) →
      CompiledTwins S reg s₁ s₂ d done₁ done₂ →
      RunsAgree (Twins S reg s₁ s₂)
        (fun all₁ all₂ => CompiledTwins S reg s₁ s₂ d all₁ all₂ ∧
          all₁.map (·.info) = done₁.map (·.info) ++ ps)
        (ps.foldlM (fun done p => do
          let mp ← compileProperty s₁ d done p
          pure (done ++ [mp])) done₁)
        (ps.foldlM (fun done p => do
          let mp ← compileProperty s₂ d done p
          pure (done ++ [mp])) done₂)
  | [], _, _, _, hdone => RunsAgree.pure ⟨hdone, by simp⟩
  | p :: ps, done₁, done₂, hps, hdone => by
    rw [List.foldlM_cons, List.foldlM_cons]
    refine ((compileProperty_twins hwf hex (hps p List.mem_cons_self) hdone.1).bind
      fun mp₁ mp₂ hmp => RunsAgree.pure (R := fun all₁ all₂ =>
        CompiledTwins S reg s₁ s₂ d all₁ all₂ ∧ all₁.map (·.info) = done₁.map (·.info) ++ [p])
        ⟨?_, ?_⟩).bind fun all₁ all₂ hall => ?_
    · obtain ⟨⟨hshape, h₁, h₂⟩, -⟩ := hmp
      refine ⟨by simp [hdone.1, hshape], fun mp hmem => ?_, fun mp hmem => ?_⟩
      · rcases List.mem_append.mp hmem with hmem | hmem
        · exact hdone.2.1 mp hmem
        · exact h₁ mp hmem
      · rcases List.mem_append.mp hmem with hmem | hmem
        · exact hdone.2.2 mp hmem
        · exact h₂ mp hmem
    · simp [hmp.2]
    · refine (compileAll_twins hwf hex ps all₁ all₂
        (fun q hq => hps q (List.mem_cons_of_mem p hq)) hall.1).mono fun a b hab => ⟨hab.1, ?_⟩
      rw [hab.2, hall.2, List.append_assoc, List.singleton_append]

/-- The end of a build: the note, the count and the mapper, of the same shape for twins. -/
theorem build_tail_twins {ops : TypeOps} {descriptor : Option Descriptor}
    {ps₁ ps₂ : List MappedProperty} (level message₁ message₂ : String)
    (hshape : ps₁.map MappedProperty.shape = ps₂.map MappedProperty.shape)
    (hsound₁ : ∀ d, descriptor = some d →
      (⟨ops, descriptor, ps₁, s₁, 0⟩ : Mapper).Sound S reg d)
    (hsound₂ : ∀ d, descriptor = some d →
      (⟨ops, descriptor, ps₂, s₂, 0⟩ : Mapper).Sound S reg d)
    (hbare : descriptor = none → ps₁ = []) :
    RunsAgree (Twins S reg s₁ s₂) (fun m₁ m₂ => Mapper.Twins S reg s₁ s₂ m₁ m₂ ∧ m₁.ops = ops)
      (do
        note level message₁
        let f ← get
        set { f with builds := f.builds + 1 }
        pure ⟨ops, descriptor, ps₁, s₁, f.builds⟩)
      (do
        note level message₂
        let f ← get
        set { f with builds := f.builds + 1 }
        pure ⟨ops, descriptor, ps₂, s₂, f.builds⟩) := by
  refine (note_twins _ _ _).bind fun _ _ _ => RunsAgree.get_bind fun g₁ g₂ hg =>
    (RunsAgree.set hg.count).bind fun _ _ _ => RunsAgree.pure ?_
  have hb : g₁.builds = g₂.builds := (shape_eq_iff.mp hg.shape).2.2.2.2.2.2.2.2.1
  -- soundness reads neither the serial number nor anything but the properties' shapes
  refine ⟨⟨by simp [Mapper.shape, hb, hshape], rfl, rfl, fun d hd => ?_, fun d hd => ?_, hbare⟩,
    rfl⟩
  · obtain ⟨⟨h₁, h₂, h₃⟩, h₄, h₅, h₆, h₇, h₈⟩ := hsound₁ d hd
    exact ⟨⟨h₁, h₂, h₃⟩, h₄, h₅, h₆, h₇, h₈⟩
  · obtain ⟨⟨h₁, h₂, h₃⟩, h₄, h₅, h₆, h₇, h₈⟩ := hsound₂ d hd
    exact ⟨⟨h₁, h₂, h₃⟩, h₄, h₅, h₆, h₇, h₈⟩

/-- Twins build the mapper of a record laid out field by field, or of a type with no record,
alike: mappers of the same shape, each under its factory's strategy and sound, of the type
they are built for. -/
theorem build_twins {ops : TypeOps} {descriptor : Option Descriptor}
    (hd : ∀ d, descriptor = some d → ops.ty = d.ty ∧ d.WellFormed ∧ S.SafeRecord reg d ∧
      S.descriptor? d.ty = some d) :
    RunsAgree (Twins S reg s₁ s₂) (fun m₁ m₂ => Mapper.Twins S reg s₁ s₂ m₁ m₂ ∧ m₁.ops = ops)
      (build ops descriptor) (build ops descriptor) := by
  unfold build
  refine lockStrategy_twins.bind fun a b ⟨ha, hb⟩ => ?_
  rw [ha, hb]
  cases descriptor with
  | none =>
    dsimp only
    split
    · exact RunsAgree.throw_bind _
    · simp only [pure_bind]
      exact build_tail_twins _ _ _ rfl (fun _ h => by cases h) (fun _ h => by cases h)
        fun _ => rfl
  | some d =>
    obtain ⟨hty, hwf, hsafe, hdecl⟩ := hd d rfl
    dsimp only
    refine (compileAll_twins hwf hsafe.exhaustive d.properties [] []
      (fun _ hp => hp) ⟨rfl, by simp, by simp⟩).bind fun ps₁ ps₂ ⟨hps, hinfo⟩ => ?_
    simp only [List.map_nil, List.nil_append] at hinfo
    have hinfo₂ : ps₂.map (·.info) = d.properties := by
      have := congrArg (List.map MappedProperty.info) hps.1
      simp only [List.map_map, Function.comp_def, MappedProperty.shape_info] at this
      rw [← this]
      exact hinfo
    refine build_tail_twins _ _ _ hps.1 (fun d' hd' => ?_) (fun d' hd' => ?_) fun h => by cases h
    · cases hd'
      exact ⟨⟨rfl, hinfo, fun mp hmp => (hps.2.1 mp hmp).1⟩, hty, hwf,
        fun mp hmp => (hps.2.1 mp hmp).2, hsafe, hdecl⟩
    · cases hd'
      exact ⟨⟨rfl, hinfo₂, fun mp hmp => (hps.2.2 mp hmp).1⟩, hty, hwf,
        fun mp hmp => (hps.2.2 mp hmp).2, hsafe, hdecl⟩

theorem lookup_map_shape (c : List (Ty × Mapper)) (k : Ty) :
    (c.map fun e => (e.1, e.2.shape)).lookup k = (c.lookup k).map Mapper.shape := by
  induction c with
  | nil => rfl
  | cons e c ih =>
    obtain ⟨k', m⟩ := e
    simp only [List.map_cons, List.lookup_cons]
    split <;> simp_all

/-- The record a type carries is the one the schema declares for the record's type. -/
theorem descriptorOf_declared {t : Ty} {d : Descriptor} (hd : descriptorOf S t = some d) :
    S.descriptor? d.ty = some d := by
  unfold descriptorOf at hd
  obtain ⟨o, -, hd⟩ := Option.bind_eq_some_iff.mp hd
  obtain ⟨r, -, hd⟩ := Option.bind_eq_some_iff.mp hd
  rw [Schema.descriptor?_ty hd]
  exact hd

theorem Twins.schema_right {f₁ f₂ : Factory} (ht : Twins S reg s₁ s₂ f₁ f₂) : f₂.schema = S :=
  (shape_eq_iff.mp ht.shape).1.symm.trans ht.schema

/-- Twins read the same schema. -/
theorem schemaM_bind_twins {R : α → β → Prop} {k : Schema → FactoryM α} {k' : Schema → FactoryM β}
    (hk : RunsAgree (Twins S reg s₁ s₂) R (k S) (k' S)) :
    RunsAgree (Twins S reg s₁ s₂) R (schemaM >>= k) (schemaM >>= k') := by
  intro f₁ f₂ ht
  have hschema : ∀ g : Factory, run schemaM g = (.ok g.schema, g) := fun _ => rfl
  simp only [HoldsFactory.run_factoryM]
  rw [run_bind_ok (hschema f₁), run_bind_ok (hschema f₂), ht.schema, ht.schema_right]
  exact hk f₁ f₂ ht

/-- Twins look up or build the mapper of a type alike, a mapper of that type. -/
theorem cachedOrBuild_twins {ops : TypeOps} {descriptor : Option Descriptor}
    (hd : ∀ d, descriptor = some d → ops.ty = d.ty ∧ d.WellFormed ∧ S.SafeRecord reg d ∧
      S.descriptor? d.ty = some d) :
    RunsAgree (Twins S reg s₁ s₂) (fun m₁ m₂ => Mapper.Twins S reg s₁ s₂ m₁ m₂ ∧ m₁.ops.ty = ops.ty)
      (cachedOrBuild ops descriptor) (cachedOrBuild ops descriptor) := by
  unfold cachedOrBuild
  refine RunsAgree.get_bind fun f₁ f₂ ht => ?_
  have hlook : (f₁.cache.lookup ops.ty).map Mapper.shape =
      (f₂.cache.lookup ops.ty).map Mapper.shape := by
    rw [← lookup_map_shape, ← lookup_map_shape, (shape_eq_iff.mp ht.shape).2.2.2.2.2.2.2.1]
  rcases h₁ : f₁.cache.lookup ops.ty with _ | m₁ <;>
    rcases h₂ : f₂.cache.lookup ops.ty with _ | m₂ <;> rw [h₁, h₂] at hlook <;>
    simp only [Option.map_none, Option.map_some, reduceCtorEq, Option.some.injEq] at hlook
  · -- neither keeps one: both build it and keep it
    dsimp only
    exact (build_twins hd).bind fun m₁ m₂ hm =>
      (RunsAgree.modify fun g₁ g₂ hg => hg.keep ops.ty hm.1 (congrArg TypeOps.ty hm.2)).bind
        fun _ _ _ => RunsAgree.pure ⟨hm.1, congrArg TypeOps.ty hm.2⟩
  · -- both keep one, built under their own strategies
    dsimp only
    obtain ⟨hs₁, hk₁, hsound₁, hbare₁⟩ := ht.keptLeft _ m₁ (mem_of_lookup_eq_some h₁)
    obtain ⟨hs₂, -, hsound₂, -⟩ := ht.keptRight _ m₂ (mem_of_lookup_eq_some h₂)
    refine RunsAgree.pure ⟨⟨hlook, hs₁.trans ht.left, hs₂.trans ht.right, fun d hd => ?_,
      fun d hd => ?_, hbare₁⟩, hk₁⟩
    · simpa [ht.schema, ht.adapters] using hsound₁ d hd
    · have ha : f₂.adapters = reg :=
        ((shape_eq_iff.mp ht.shape).2.2.1).symm.trans ht.adapters
      simpa [ht.schema_right, ha] using hsound₂ d hd

/-- Twins look up the mapper of a declared record whose reach is laid out field by field
alike, a mapper of the record's type. -/
theorem mapperFor_twins {d : Descriptor} (hwf : d.WellFormed) (hsafe : S.SafeRecord reg d)
    (hdecl : S.descriptor? d.ty = some d) :
    RunsAgree (Twins S reg s₁ s₂) (fun m₁ m₂ => Mapper.Twins S reg s₁ s₂ m₁ m₂ ∧ m₁.ops.ty = d.ty)
      (mapperFor d) (mapperFor d) :=
  cachedOrBuild_twins fun _ h => by
    cases h
    exact ⟨rfl, hwf, hsafe, hdecl⟩

/-- Twins make the mapper of a type alike, when the record the type carries (if any) is of the
type itself and its reach is laid out field by field. -/
theorem createOrGet_twins {t : Ty} (hsafe : S.SafeType reg t)
    (hty : ∀ d, descriptorOf S t = some d → d.ty = t) :
    RunsAgree (Twins S reg s₁ s₂) (Mapper.Twins S reg s₁ s₂) (createOrGet t) (createOrGet t) :=
  schemaM_bind_twins ((cachedOrBuild_twins fun d hd =>
    ⟨(hty d hd).symm, descriptorOf_wellFormed hd, hsafe.carried hd, descriptorOf_declared hd⟩).mono
      fun _ _ h => h.1)

end Factory

end Builds

end ObjectMapping
