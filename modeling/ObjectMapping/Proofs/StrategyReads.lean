import ObjectMapping.Proofs.StrategyTwins
import ObjectMapping.Proofs.PropertyRead
import Mathlib.Data.List.Forall2

/-!
# Reading under either strategy

The access strategy of a factory decides how a reader makes a fresh record and how it writes
the properties it reads from a map. Under raw access a fresh record starts with no field set,
and is finished by giving every property left absent its default; under checked access it is
the record's default instance, whose properties are then set one by one. For a record laid
out field by field both setters write the data the property reads at its place
(`Target.put`), so the strategy counts only where a fresh record is made and finished.

`Mapper.decodeBy s` is the reader with only that left to the strategy `s`: every property is
written in place, and `s` allocates and finishes the fresh records. Twin factories, the first
under `s`, read every type whose reach is laid out field by field alike, the first with the
factory's reader and the second with `decodeBy s` (`Mapper.reader_twins`).

* `Strategy.Writable`: the targets a strategy's setters are given while a fresh record is read.
* `Mapper.Sound.setPropertyWith_eq`: the setter of a sound mapper writes in place.
* `Mapper.readValue_twins`, `Mapper.readValueInto_twins`: reading a value into a fresh or an
  existing instance.
-/

namespace ObjectMapping

namespace Mapper

mutual

/-- Reads an instance of a type from a value, each fresh record made and finished by the
strategy `s` and each property written in place. -/
def decodeBy (s : Strategy) (fuel depth : Nat) (t : Ty) (v : Value) : FactoryM Datum :=
  match fuel with
  | 0 => do throw (.depthExceeded (← get).config.maxDepth)
  | fuel + 1 => do
    let S ← Factory.schemaM
    decodeWith S (decodeBy s fuel depth) (nestedBy s fuel depth) t v

/-- Reads an instance of a type that is written as an object, as `decodeBy` does. -/
def nestedBy (s : Strategy) (fuel depth : Nat) (t : Ty) (v : Value) : FactoryM Datum :=
  match fuel with
  | 0 => do throw (.depthExceeded (← get).config.maxDepth)
  | fuel + 1 => nestedWith (readMapBy s fuel) depth t v

/-- Reads a fresh instance of the mapper's record from a map, made and finished by `s`. -/
def readMapBy (s : Strategy) (fuel depth : Nat) (m : Mapper) (vm : ValueMap) :
    FactoryM Instance :=
  match fuel with
  | 0 => do throw (.depthExceeded (← get).config.maxDepth)
  | fuel + 1 => readMapWith (putBy s fuel depth) { m with strategy := s } vm

/-- Writes the data a property reads from a value at its place in a target. -/
def putBy (s : Strategy) (fuel depth : Nat) (p : MappedProperty) (target : Target)
    (v : Value) : FactoryM Target :=
  match fuel with
  | 0 => do throw (.depthExceeded (← get).config.maxDepth)
  | fuel + 1 => (target.put p ·) <$> decodeProperty (decodeBy s fuel depth) p v

end

/-- Reads a value as an instance of the mapper's type, as `readValue` does, each fresh record
made and finished by `s`. -/
def readValueBy (s : Strategy) (m : Mapper) (v : Value) : FactoryM Instance := do
  match m.descriptor with
  | some _ =>
    match v with
    | .map vm => readMapBy s v.fuel 0 m vm
    | other => throw (.mismatch .object other.kind)
  | none =>
    match m.ops.value with
    | none => throw (.shape (.wrongType m.typeName))
    | some _ => do
      let d ← decodeBy s v.fuel 0 m.ops.ty v
      pure ⟨m.ops.ty, d, ← Factory.freshIdentity⟩

/-- Reads a value into an existing instance of the mapper's type, as `readValueInto` does, each
fresh record made and finished by `s`. -/
def readValueIntoBy (s : Strategy) (m : Mapper) (v : Value) (x : Instance) :
    FactoryM (Instance × Option MapError) := do
  match m.descriptor with
  | some _ =>
    match v with
    | .map vm => readMapIntoWith (putBy s v.fuel 0) m vm x
    | other => pure (x, some (.mismatch .object other.kind))
  | none =>
    match m.ops.value with
    | none => pure (x, some (.shape (.wrongType m.typeName)))
    | some _ =>
      tryCatch (do
          let d ← decodeBy s v.fuel 0 m.ops.ty v
          if x.ty != m.ops.ty then pure (x, some (.shape (.wrongType m.typeName)))
          else pure ({ x with datum := d }, none))
        (fun e => pure (x, some e))

end Mapper

/-! ## Setting a property in place -/

/-- The targets the setters of a strategy are given while a record of `d` is read: of the
record's type, and under checked access a constructed instance. -/
def Strategy.Writable (s : Strategy) (d : Descriptor) (target : Target) : Prop :=
  target.ty = d.ty ∧ (s = .checked → ∃ x, target = .existing x)

namespace Strategy

variable {s : Strategy} {d : Descriptor} {target : Target}

theorem Writable.put (h : s.Writable d target) (p : MappedProperty) (x : Datum) :
    s.Writable d (target.put p x) := by
  refine ⟨by rw [Target.ty_put]; exact h.1, fun hs => ?_⟩
  obtain ⟨y, rfl⟩ := h.2 hs
  exact ⟨_, rfl⟩

theorem writable_existing {x : Instance} (hx : x.ty = d.ty) : s.Writable d (.existing x) :=
  ⟨hx, fun _ => ⟨x, rfl⟩⟩

/-- What a strategy allocates for a record is a target its setters take. -/
theorem allocate_writable {S : Schema} {place : Identity} {a : Allocation}
    (h : s.allocate S d place = .ok a) : s.Writable d a.target := by
  cases s with
  | raw =>
    simp only [allocate] at h
    split at h
    · cases h
      exact ⟨rfl, fun h => by cases h⟩
    · cases h
  | checked =>
    simp only [allocate] at h
    split at h
    · cases h
      exact writable_existing rfl
    · cases h

end Strategy

namespace Mapper

variable {S : Schema} {reg : Registry} {m : Mapper} {d : Descriptor}

/-- The setter of a sound mapper writes the data a property reads at its place, in every target
its strategy is given. -/
theorem Sound.setPropertyWith_eq (hm : m.Sound S reg d) {p : MappedProperty}
    (hp : p ∈ m.properties) {target : Target} (ht : m.strategy.Writable d target)
    (dec : Ty → Value → FactoryM Datum) (v : Value) :
    setPropertyWith dec m p target v = (target.put p ·) <$> decodeProperty dec p v := by
  obtain ⟨howner, hprop, -, hvalid⟩ := hm.built.location hp
  cases hs : m.strategy with
  | raw =>
    rw [hs] at hvalid
    exact setPropertyWith_raw_put hs (hvalid rfl) hprop (by rw [howner]; exact ht.1) v
  | checked =>
    obtain ⟨owner, rfl⟩ := ht.2 hs
    -- the owner a checked setter expects is the record the property is declared in
    have hinfo : p.info ∈ d.properties := by
      rw [← hm.built.info]
      exact List.mem_map_of_mem hp
    exact setPropertyWith_checked_put hs hprop
      ((ht.1.trans (hm.wellFormed.owners _ hinfo).symm)) v

end Mapper

/-! ## What the shape of a property keeps -/

section Shape

variable {p : MappedProperty}

@[simp] theorem Mapper.take_shape (vm : ValueMap) : Mapper.take vm p.shape = Mapper.take vm p :=
  rfl

@[simp] theorem Mapper.decodeProperty_shape (dec : Ty → Value → FactoryM Datum) (v : Value) :
    Mapper.decodeProperty dec p.shape v = Mapper.decodeProperty dec p v :=
  rfl

@[simp] theorem Target.put_shape (x : Datum) (target : Target) :
    target.put p.shape x = target.put p x := by
  cases target <;> rfl

/-- The properties of twin mappers, member by member: of the same shape. -/
theorem Mapper.forall₂_shape {m₁ m₂ : Mapper}
    (h : m₁.properties.map MappedProperty.shape = m₂.properties.map MappedProperty.shape) :
    List.Forall₂ (fun p₁ p₂ => p₁ ∈ m₁.properties ∧ p₂ ∈ m₂.properties ∧ p₁.shape = p₂.shape)
      m₁.properties m₂.properties := by
  have heq : List.Forall₂ (fun p₁ p₂ : MappedProperty => p₁.shape = p₂.shape)
      m₁.properties m₂.properties := by
    have hmap : List.Forall₂ Eq (m₁.properties.map MappedProperty.shape)
        (m₂.properties.map MappedProperty.shape) := by
      rw [h]
      exact List.forall₂_same.mpr fun _ _ => rfl
    simpa using hmap
  rw [List.forall₂_iff_zip] at heq ⊢
  exact ⟨heq.1, fun hab => ⟨(List.of_mem_zip hab).1, (List.of_mem_zip hab).2, heq.2 hab⟩⟩

theorem Mapper.take_of_shape {p₁ p₂ : MappedProperty} (h : p₁.shape = p₂.shape) (vm : ValueMap) :
    Mapper.take vm p₁ = Mapper.take vm p₂ := by
  rw [← Mapper.take_shape (p := p₁), h, Mapper.take_shape]

theorem Mapper.decodeProperty_of_shape {p₁ p₂ : MappedProperty} (h : p₁.shape = p₂.shape)
    (dec : Ty → Value → FactoryM Datum) (v : Value) :
    Mapper.decodeProperty dec p₁ v = Mapper.decodeProperty dec p₂ v := by
  rw [← Mapper.decodeProperty_shape (p := p₁), h, Mapper.decodeProperty_shape]

theorem Target.put_of_shape {p₁ p₂ : MappedProperty} (h : p₁.shape = p₂.shape) (x : Datum)
    (target : Target) : target.put p₁ x = target.put p₂ x := by
  rw [← Target.put_shape (p := p₁), h, Target.put_shape]

theorem MappedProperty.info_of_shape {p₁ p₂ : MappedProperty} (h : p₁.shape = p₂.shape) :
    p₁.info = p₂.info := by
  rw [← MappedProperty.shape_info p₁, h, MappedProperty.shape_info]

end Shape

/-! ## Reading on twin factories -/

section Twins

open HoldsFactory

variable {ω α β γ : Type} {Rel : ω → ω → Prop}

theorem RunsAgree.lift_ok {Rel : Factory → Factory → Prop} (r : Except MapError α) :
    RunsAgree Rel (fun a b => a = b ∧ r = .ok a) (Mapper.lift r) (Mapper.lift r) := by
  cases r with
  | error e => exact RunsAgree.throw e
  | ok a => exact RunsAgree.pure ⟨rfl, rfl⟩

/-- One traversal of a list by two operations that agree on each member. -/
theorem RunsAgree.mapM_same {cs : List γ} {g g' : γ → ExceptT MapError (StateM ω) α}
    (hg : ∀ c ∈ cs, RunsAgree Rel Eq (g c) (g' c)) :
    RunsAgree Rel Eq (cs.mapM g) (cs.mapM g') := by
  refine (RunsAgree.mapM (R := Eq) (P := fun c c' => c = c' ∧ c ∈ cs)
    (List.forall₂_same.mpr fun c hc => ⟨rfl, hc⟩) fun c c' h => ?_).mono fun as bs h => ?_
  · obtain ⟨rfl, hc⟩ := h
    exact hg c hc
  · rwa [List.forall₂_eq_eq_eq] at h

variable {S : Schema} {reg : Registry} {s₁ s₂ : Strategy}

open Factory

/-- A reader out of fuel fails alike on twins, with the limit of nesting they share. -/
theorem depthExceeded_twins {R : α → β → Prop} :
    RunsAgree (Twins S reg s₁ s₂) R
      (get >>= fun f => (throw (.depthExceeded f.config.maxDepth) : FactoryM α))
      (get >>= fun f => (throw (.depthExceeded f.config.maxDepth) : FactoryM β)) :=
  RunsAgree.get_bind fun f₁ f₂ ht => by
    rw [(shape_eq_iff.mp ht.shape).2.2.2.2.1]
    exact RunsAgree.throw _

namespace Mapper

/-- A property reads alike on twins when its type and the terminal type of its adapters read
alike. -/
theorem decodeProperty_twins {dec₁ dec₂ : Ty → Value → FactoryM Datum} {p : MappedProperty}
    {v : Value} (hdec : ∀ t, S.SafeType reg t →
      RunsAgree (Factory.Twins S reg s₁ s₂) Eq (dec₁ t v) (dec₂ t v))
    (hinfo : S.SafeType reg p.info.ops.ty) (hchain : S.SafeType reg p.chain.terminal.ty) :
    RunsAgree (Factory.Twins S reg s₁ s₂) Eq (decodeProperty dec₁ p v) (decodeProperty dec₂ p v) := by
  unfold decodeProperty incoming
  refine RunsAgree.bind (R := Eq) ?_ fun x y hxy => ?_
  · split
    · simp only [Strategy.intoBoxed]
      split
      · exact (hdec _ hinfo).bind fun a b hab => RunsAgree.pure (hab ▸ rfl)
      · exact RunsAgree.throw _
    · exact (hdec _ hchain).bind fun a b hab => hab ▸ RunsAgree.lift _
  · subst hxy
    split
    · exact RunsAgree.throw _
    · exact RunsAgree.pure rfl

/-- One level of reading agrees on twins when the readings it calls agree, for every type whose
reach is laid out field by field. The induction is on the type, as `decodeWith` recurses through
options and boxes; elements go to `inner` and records to `nested`. -/
theorem decodeWith_twins {inner₁ inner₂ nested₁ nested₂ : Ty → Value → FactoryM Datum}
    (hinner : ∀ t x, S.SafeType reg t →
      RunsAgree (Factory.Twins S reg s₁ s₂) Eq (inner₁ t x) (inner₂ t x))
    (hnested : ∀ t x, S.SafeType reg t →
      RunsAgree (Factory.Twins S reg s₁ s₂) Eq (nested₁ t x) (nested₂ t x)) :
    ∀ t v, S.SafeType reg t → RunsAgree (Factory.Twins S reg s₁ s₂) Eq
      (decodeWith S inner₁ nested₁ t v) (decodeWith S inner₂ nested₂ t v) := by
  intro t
  induction t with
  | option t ih =>
    intro v hsafe
    simp only [decodeWith]
    split
    · exact RunsAgree.pure rfl
    · exact (ih v hsafe.option).map fun a b hab => hab ▸ rfl
  | boxed t ih =>
    intro v hsafe
    exact ih v hsafe.boxed
  | vec t =>
    intro v hsafe
    simp only [decodeWith]
    split
    · exact (RunsAgree.mapM_same fun x _ => hinner t x hsafe.vec).map fun a b hab => hab ▸ rfl
    · exact RunsAgree.throw _
  | array t n =>
    intro v hsafe
    simp only [decodeWith]
    split
    · refine (RunsAgree.mapM_same fun x _ => hinner t x hsafe.array).bind fun ds ds' hds => ?_
      subst hds
      split
      · exact RunsAgree.pure rfl
      · exact RunsAgree.throw _
    · exact RunsAgree.throw _
  | sortedMap e | hashMap e | fixedMap e =>
    intro v hsafe
    have he : S.SafeType reg e := hsafe.map (by simp)
    simp only [decodeWith]
    split
    · refine (RunsAgree.mapM_same fun kx _ => ?_).bind fun kvs kvs' h => h ▸ RunsAgree.pure rfl
      exact (hinner e kx.2 he).bind fun a b hab => hab ▸ RunsAgree.pure rfl
    · exact RunsAgree.throw _
  | named p | apply g a =>
    intro v hsafe
    simp only [decodeWith]
    split
    · -- a scalar of the schema is read as its integer, on both alike
      refine (RunsAgree.lift _).bind fun n n' hn => ?_
      subst hn
      split
      · exact RunsAgree.throw _
      · exact RunsAgree.pure rfl
    · exact hnested _ v hsafe
  | _ =>
    -- the remaining types are read from one value, on both alike
    intro v _
    simp only [decodeWith]
    repeat' split
    all_goals first
      | exact RunsAgree.pure rfl
      | exact RunsAgree.throw _
      | exact (RunsAgree.lift _).map fun a b hab => hab ▸ rfl
      | exact (RunsAgree.lift _).bind fun n n' hn => hn ▸ by
          split
          · exact RunsAgree.throw _
          · exact RunsAgree.pure rfl

/-- Reading an object agrees on twins when reading a record with twin mappers does, for a type
whose reach is laid out field by field: its record is looked up alike on both. -/
theorem nestedWith_twins {read₁ read₂ : Nat → Mapper → ValueMap → FactoryM Instance}
    (hread : ∀ n m₁ m₂ vm, Mapper.Twins S reg s₁ s₂ m₁ m₂ →
      RunsAgree (Factory.Twins S reg s₁ s₂) Eq (read₁ n m₁ vm) (read₂ n m₂ vm))
    {depth : Nat} {t : Ty} (hsafe : S.SafeType reg t) (v : Value) :
    RunsAgree (Factory.Twins S reg s₁ s₂) Eq (nestedWith read₁ depth t v)
      (nestedWith read₂ depth t v) := by
  unfold nestedWith
  refine schemaM_bind_twins ?_
  split
  · split
    · exact RunsAgree.throw _
    · rename_i d hd
      refine (enter_oblivious depth).agrees_bind fun n => ?_
      refine (mapperFor_twins (descriptorOf_wellFormed hd) (hsafe.carried hd)
        (descriptorOf_declared hd)).bind fun m₁ m₂ hm => (hread n m₁ m₂ _ hm.1).bind
          fun x y hxy => ?_
      subst hxy
      split
      · exact RunsAgree.pure rfl
      · exact RunsAgree.throw _
  · split
    · exact RunsAgree.pure rfl
    · exact RunsAgree.throw _
  · exact RunsAgree.throw _

/-- Reading a fresh record agrees on twins, the second mapper made to allocate and finish under
the first one's strategy, when the setters agree on the targets that strategy gives them. Both
allocate the same target; the properties are then read in the same order from the same map. -/
theorem readMapWith_twins {set₁ set₂ : MappedProperty → Target → Value → FactoryM Target}
    {m₁ m₂ : Mapper} (hm : Mapper.Twins S reg s₁ s₂ m₁ m₂) (vm : ValueMap)
    (hset : ∀ d, m₁.descriptor = some d → ∀ p₁ p₂, p₁ ∈ m₁.properties → p₁.shape = p₂.shape →
      ∀ target, s₁.Writable d target → ∀ v, RunsAgree (Factory.Twins S reg s₁ s₂)
        (fun t₁ t₂ => t₁ = t₂ ∧ s₁.Writable d t₁) (set₁ p₁ target v) (set₂ p₂ target v)) :
    RunsAgree (Factory.Twins S reg s₁ s₂) Eq (readMapWith set₁ m₁ vm)
      (readMapWith set₂ { m₂ with strategy := s₁ } vm) := by
  obtain ⟨hops, hdesc, hprops, -⟩ := Mapper.shape_eq_iff.mp hm.shape
  unfold readMapWith
  refine schemaM_bind_twins ?_
  dsimp only
  rw [← hdesc]
  cases hd : m₁.descriptor with
  | none =>
    simp only [typeName, hops]
    exact RunsAgree.throw _
  | some d =>
    dsimp only
    refine freshIdentity_oblivious.agrees_bind fun place => ?_
    rw [hm.left]
    refine (RunsAgree.lift_ok _).bind fun a b hab => ?_
    obtain ⟨rfl, halloc⟩ := hab
    -- the same properties, in the same order, from the same target
    refine (RunsAgree.foldlM (R := fun t₁ t₂ => t₁ = t₂ ∧ s₁.Writable d t₁)
      (forall₂_shape hprops) (fun t₁ t₂ p₁ p₂ ht hp => ?_)
      ⟨rfl, Strategy.allocate_writable halloc⟩).bind fun t₁ t₂ ht => ?_
    · obtain ⟨rfl, hw⟩ := ht
      obtain ⟨hmem, -, hsh⟩ := hp
      rw [take_of_shape hsh, MappedProperty.info_of_shape hsh]
      split
      · exact RunsAgree.pure ⟨rfl, hw⟩
      · exact RunsAgree.tryCatch (hset d hd p₁ p₂ hmem hsh t₁ hw _) fun e => RunsAgree.throw _
    · obtain ⟨rfl, -⟩ := ht
      exact RunsAgree.lift _

/-- Setting a property of a sound mapper under its strategy agrees on twins with writing in
place what the property reads, when the readings of its types agree. -/
theorem setPropertyWith_twins {dec₁ dec₂ : Ty → Value → FactoryM Datum} {m : Mapper}
    {d : Descriptor} (hm : m.Sound S reg d) (hs : m.strategy = s₁) {p₁ p₂ : MappedProperty}
    (hp : p₁ ∈ m.properties) (hsh : p₁.shape = p₂.shape) {target : Target}
    (hw : s₁.Writable d target) {v : Value}
    (hdec : ∀ t, S.SafeType reg t →
      RunsAgree (Factory.Twins S reg s₁ s₂) Eq (dec₁ t v) (dec₂ t v)) :
    RunsAgree (Factory.Twins S reg s₁ s₂) (fun t₁ t₂ => t₁ = t₂ ∧ s₁.Writable d t₁)
      (setPropertyWith dec₁ m p₁ target v) ((target.put p₂ ·) <$> decodeProperty dec₂ p₂ v) := by
  have hinfo : p₁.info ∈ d.properties := by
    rw [← hm.built.info]
    exact List.mem_map_of_mem hp
  rw [hm.setPropertyWith_eq hp (hs ▸ hw), ← decodeProperty_of_shape hsh]
  refine (decodeProperty_twins hdec (hm.safe.field hinfo)
    (hm.safe.adapted hinfo (hm.chains p₁ hp))).map fun a b hab => ?_
  subst hab
  exact ⟨Target.put_of_shape hsh a target, hw.put p₁ a⟩

/-- The reader of a factory, against `decodeBy` under the factory's strategy on its twin, with
any fuel: reading a type whose reach is laid out field by field, reading an object of such a
type, reading a record with twin mappers, and setting a property of a sound mapper. The
induction is on the fuel; each part is its one-level lemma with the parts below as the readings
it calls. -/
theorem reader_twins : ∀ fuel : Nat,
    (∀ depth t v, S.SafeType reg t → RunsAgree (Factory.Twins S reg s₁ s₂) Eq
      (decode fuel depth t v) (decodeBy s₁ fuel depth t v)) ∧
    (∀ depth t v, S.SafeType reg t → RunsAgree (Factory.Twins S reg s₁ s₂) Eq
      (deserializeNested fuel depth t v) (nestedBy s₁ fuel depth t v)) ∧
    (∀ depth m₁ m₂ vm, Mapper.Twins S reg s₁ s₂ m₁ m₂ → RunsAgree (Factory.Twins S reg s₁ s₂) Eq
      (readMap fuel depth m₁ vm) (readMapBy s₁ fuel depth m₂ vm)) ∧
    (∀ depth m d p₁ p₂ target v, m.Sound S reg d → m.strategy = s₁ → p₁ ∈ m.properties →
      p₁.shape = p₂.shape → s₁.Writable d target →
      RunsAgree (Factory.Twins S reg s₁ s₂) (fun t₁ t₂ => t₁ = t₂ ∧ s₁.Writable d t₁)
        (setProperty fuel depth m p₁ target v) (putBy s₁ fuel depth p₂ target v))
  | 0 => by
    -- with no fuel left every part fails at once, with the limit both factories hold
    refine ⟨fun _ _ _ _ => ?_, fun _ _ _ _ => ?_, fun _ _ _ _ _ => ?_,
      fun _ _ _ _ _ _ _ _ _ _ _ _ => ?_⟩ <;>
      simp only [decode, decodeBy, deserializeNested, nestedBy, readMap, readMapBy, setProperty,
        putBy] <;>
      exact depthExceeded_twins
  | fuel + 1 => by
    obtain ⟨hdec, hnest, hmap, hset⟩ := reader_twins fuel
    refine ⟨fun depth t v hsafe => ?_, fun depth t v hsafe => ?_, fun depth m₁ m₂ vm hm => ?_,
      fun depth m d p₁ p₂ target v hm hs hp hsh hw => ?_⟩
    · rw [decode, decodeBy]
      exact schemaM_bind_twins
        (decodeWith_twins (fun t x h => hdec depth t x h) (fun t x h => hnest depth t x h) t v hsafe)
    · rw [deserializeNested, nestedBy]
      exact nestedWith_twins (fun n m₁ m₂ vm hm => hmap n m₁ m₂ vm hm) hsafe v
    · rw [readMap, readMapBy]
      exact readMapWith_twins hm vm fun d hd p₁ p₂ hp hsh target hw v =>
        hset depth m₁ d p₁ p₂ target v (hm.soundLeft d hd) hm.left hp hsh hw
    · rw [setProperty, putBy]
      exact setPropertyWith_twins hm hs hp hsh hw fun t h => hdec depth t v h

/-- Reading a map into an existing instance agrees on twin mappers when the setters agree on
constructed instances of the record. The instance is checked against the type both mappers
share, and each property then written as the first setter writes it. -/
theorem readMapIntoWith_twins {set₁ set₂ : MappedProperty → Target → Value → FactoryM Target}
    {m₁ m₂ : Mapper} (hm : Mapper.Twins S reg s₁ s₂ m₁ m₂) (vm : ValueMap) (x : Instance)
    (hset : ∀ d, m₁.descriptor = some d → ∀ p₁ p₂, p₁ ∈ m₁.properties → p₁.shape = p₂.shape →
      ∀ target, s₁.Writable d target → ∀ v, RunsAgree (Factory.Twins S reg s₁ s₂)
        (fun t₁ t₂ => t₁ = t₂ ∧ s₁.Writable d t₁) (set₁ p₁ target v) (set₂ p₂ target v)) :
    RunsAgree (Factory.Twins S reg s₁ s₂) Eq (readMapIntoWith set₁ m₁ vm x)
      (readMapIntoWith set₂ m₂ vm x) := by
  obtain ⟨hops, hdesc, hprops, -⟩ := Mapper.shape_eq_iff.mp hm.shape
  unfold readMapIntoWith
  rw [← hdesc, ← hops]
  cases hd : m₁.descriptor with
  | none =>
    simp only [typeName, hops]
    exact RunsAgree.pure rfl
  | some d =>
    dsimp only
    simp only [typeName, ← hops]
    split
    · exact RunsAgree.pure rfl
    · rename_i hty
      have hx : x.ty = d.ty := by simpa [(hm.soundLeft d hd).ty] using hty
      -- the written instance stays of the record's type, and the first error stops the writing
      refine (RunsAgree.foldlM (R := fun a b => a = b ∧ a.1.ty = d.ty) (forall₂_shape hprops)
        (fun a b p₁ p₂ hab hp => ?_) ⟨rfl, hx⟩).mono fun a b hab => hab.1
      obtain ⟨rfl, hcur⟩ := hab
      obtain ⟨hmem, -, hsh⟩ := hp
      obtain ⟨cur, _ | e⟩ := a
      · dsimp only
        rw [take_of_shape hsh, MappedProperty.info_of_shape hsh]
        split
        · exact RunsAgree.pure ⟨rfl, hcur⟩
        · refine RunsAgree.tryCatch ((hset d hd p₁ p₂ hmem hsh _ (Strategy.writable_existing hcur)
            _).bind fun t₁ t₂ ht => ?_) fun e => RunsAgree.pure ⟨rfl, hcur⟩
          obtain ⟨rfl, hw⟩ := ht
          cases t₁ with
          | existing y => exact RunsAgree.pure ⟨rfl, hw.1⟩
          | uninit u => exact RunsAgree.pure ⟨rfl, hcur⟩
      · exact RunsAgree.pure ⟨rfl, hcur⟩

variable {m₁ m₂ : Mapper}

/-- Reading a value with the mapper of a factory agrees with `readValueBy` under the factory's
strategy on its twin, for a mapper whose type's reach is laid out field by field. -/
theorem readValue_twins (hm : Mapper.Twins S reg s₁ s₂ m₁ m₂) (hsafe : S.SafeType reg m₁.ops.ty)
    (v : Value) :
    RunsAgree (Factory.Twins S reg s₁ s₂) Eq (readValue m₁ v) (readValueBy s₁ m₂ v) := by
  obtain ⟨hops, hdesc, -, -⟩ := Mapper.shape_eq_iff.mp hm.shape
  unfold readValue readValueBy
  simp only [typeName, ← hops, ← hdesc]
  cases m₁.descriptor with
  | some d =>
    cases v with
    | map vm => exact (reader_twins _).2.2.1 0 m₁ m₂ _ hm
    | _ => exact RunsAgree.throw _
  | none =>
    cases m₁.ops.value with
    | none => exact RunsAgree.throw _
    | some o =>
      refine ((reader_twins _).1 0 _ v hsafe).bind fun a b hab => ?_
      subst hab
      exact freshIdentity_oblivious.agrees_bind fun i => RunsAgree.pure rfl

/-- Reading a value into an existing instance with the mapper of a factory agrees with
`readValueIntoBy` under the factory's strategy on its twin, for a mapper whose type's reach is
laid out field by field. -/
theorem readValueInto_twins (hm : Mapper.Twins S reg s₁ s₂ m₁ m₂)
    (hsafe : S.SafeType reg m₁.ops.ty) (v : Value) (x : Instance) :
    RunsAgree (Factory.Twins S reg s₁ s₂) Eq (readValueInto m₁ v x) (readValueIntoBy s₁ m₂ v x) := by
  obtain ⟨hops, hdesc, -, -⟩ := Mapper.shape_eq_iff.mp hm.shape
  unfold readValueInto readValueIntoBy readMapInto
  simp only [typeName, ← hops, ← hdesc]
  cases m₁.descriptor with
  | some d =>
    cases v with
    | map vm =>
      exact readMapIntoWith_twins hm _ x fun d hd p₁ p₂ hp hsh target hw v =>
        (reader_twins _).2.2.2 0 m₁ d p₁ p₂ target v (hm.soundLeft d hd) hm.left hp hsh hw
    | _ => exact RunsAgree.pure rfl
  | none =>
    cases m₁.ops.value with
    | none => exact RunsAgree.pure rfl
    | some o =>
      refine RunsAgree.tryCatch (((reader_twins _).1 0 _ v hsafe).bind fun a b hab => ?_)
        fun e => RunsAgree.pure rfl
      subst hab
      split
      · exact RunsAgree.pure rfl
      · exact RunsAgree.pure rfl

end Mapper

end Twins

end ObjectMapping
