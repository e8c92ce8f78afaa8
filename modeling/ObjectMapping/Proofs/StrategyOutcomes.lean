import ObjectMapping.Proofs.StrategyEquivalence
import ObjectMapping.Proofs.ReadInto

/-!
# Raw against checked access

Raw access builds a fresh record field by field and, when it finishes, fills the properties the
map leaves absent and the skipped fields with their own defaults; checked access starts from the
record's default instance. Everything else a reading does, the two do alike
(`Mapper.readValue_twins`). So a reading under raw access and the same reading under checked
access from twin factories end in one of three ways: the same error; results that agree except at
the fields the two strategies fill; or raw access stopped at a field it has no default for.

* `MapError.FillStop`: the errors a fill gives under raw access.
* `UpToFills S t x y`: data of type `t` that agree except at fields of fresh records, where `x`
  holds the field's own default and `y` the field of the record's default instance.
* `Compared`, `RunsCompared`: a run under raw access against the same run under checked access
  from one factory. Their rules follow the ways operations are put together.
* `Mapper.reader_compare`: the readers under the two strategies, compared level by level.
* `raw_and_checked_compare`: writing, reading and reading into, with the twin mappers that twin
  factories give.
-/

namespace ObjectMapping

/-! ## What the two strategies fill differently -/

/-- An error that a fresh record's finish gives under raw access: the first property left absent,
or the first skipped field, whose default cannot be made, or a default that never returns. -/
def MapError.FillStop (e : MapError) : Prop :=
  (∃ name, e.root = .allocation name "an absent property has no default value" ∨
    e.root = .allocation name "an excluded field has no default value") ∨ e.root = .endless

theorem MapError.FillStop.within {e : MapError} (h : e.FillStop) (owner property : String) :
    (e.within owner property).FillStop := by
  unfold MapError.FillStop
  rw [MapError.root_within]
  exact h

/-- Position `i` of a fresh record of `d` as the two strategies fill it: under raw access with the
default of the field standing there, a property left absent or a skipped field, and under checked
access with that field of the record's default instance. -/
def Descriptor.Fills (d : Descriptor) (S : Schema) (i : Nat) (x y : Datum) : Prop :=
  ((∃ p ∈ d.properties, p.position = i ∧ p.ops.makeDefault S = .ok x) ∨
    ∃ e ∈ d.excluded, e.position = i ∧ e.ops.makeDefault S = .ok x) ∧
  ∃ defs, S.default? d.ty = some (.record defs) ∧ defs[i]? = some y

/-- Data `x` and `y` of type `t`, read under raw and under checked access, that agree except at
fields of fresh records, where `x` holds the field's own default and `y` the field of the record's
default instance (`Descriptor.Fills`). There is one constructor for each way a datum is read: an
option's content, a box's content, the elements of a list or an array, the values of a map under
the same keys, and the fields of the record the schema declares for `t`. -/
inductive UpToFills (S : Schema) : Ty → Datum → Datum → Prop
  | refl (t : Ty) (x : Datum) : UpToFills S t x x
  | some {t : Ty} {x y : Datum} : UpToFills S t x y → UpToFills S (.option t) (.some x) (.some y)
  | boxed {t : Ty} {x y : Datum} : UpToFills S t x y → UpToFills S (.boxed t) x y
  | list {u t : Ty} {xs ys : List Datum} : (u = .vec t ∨ ∃ n, u = .array t n) →
      xs.length = ys.length →
      (∀ (i : Nat) x y, xs[i]? = some x → ys[i]? = some y → UpToFills S t x y) →
      UpToFills S u (.list xs) (.list ys)
  | entries {u e : Ty} {kvs kvs' : List (String × Datum)} :
      (u = .sortedMap e ∨ u = .hashMap e ∨ u = .fixedMap e) →
      kvs.map Prod.fst = kvs'.map Prod.fst →
      (∀ (i : Nat) a b, kvs[i]? = some a → kvs'[i]? = some b → UpToFills S e a.2 b.2) →
      UpToFills S u (.entries kvs) (.entries kvs')
  | record {t : Ty} {d : Descriptor} {xs ys : List Datum} (filled : List Nat) :
      S.descriptor? t = some d → xs.length = ys.length →
      (∀ i ∈ filled, ∀ x y, xs[i]? = some x → ys[i]? = some y → d.Fills S i x y) →
      (∀ p ∈ d.properties, p.position ∉ filled → ∀ x y, xs[p.position]? = some x →
        ys[p.position]? = some y → UpToFills S p.ops.ty x y) →
      (∀ i, i ∉ filled → i ∉ d.properties.map (·.position) → xs[i]? = ys[i]?) →
      UpToFills S t (.record xs) (.record ys)

/-- Instances read under raw and under checked access: of one type and identity, with data that
agree up to fills. -/
def Instance.UpToFills (S : Schema) (x y : Instance) : Prop :=
  x.ty = y.ty ∧ x.identity = y.identity ∧ ObjectMapping.UpToFills S x.ty x.datum y.datum

/-- The data of an instance read into under raw and under checked access: the target's data `x`
with the same properties of `d` written, the data written for each agreeing up to fills at its
type. The target was not made fresh, so none of its own fields is filled. -/
inductive Descriptor.WrittenApart (d : Descriptor) (S : Schema) (x : Datum) : Datum → Datum → Prop
  | target : d.WrittenApart S x x x
  | write {y₁ y₂ a b : Datum} {p : PropertyInfo} : d.WrittenApart S x y₁ y₂ → p ∈ d.properties →
      UpToFills S p.ops.ty a b →
      d.WrittenApart S x (y₁.setField p.position a) (y₂.setField p.position b)

/-- A record both strategies can make fresh: laid out field by field, with a constructor and a
default instance of one datum per field, as `#[mapped(default)]` gives a record that is not
packed. -/
structure Descriptor.Refillable (d : Descriptor) (S : Schema) : Prop where
  exhaustive : d.exhaustive = true
  constructible : d.constructible = true
  default : ∃ defs, S.default? d.ty = some (.record defs) ∧ defs.length = Uninit.fieldCount d

/-- A registry whose chains keep apart only what was apart: restoring through a chain it resolves,
from data of the terminal type that agree up to fills, gives the same error, or instances of one
type whose data agree up to fills. -/
def Registry.RestoresUpToFills (reg : Registry) (S : Schema) : Prop :=
  ∀ ops c, reg.resolve S ops = .ok c → ∀ x y, UpToFills S c.terminal.ty x y →
    Outcome (fun a b => a.ty = b.ty ∧ UpToFills S a.ty a.datum b.datum)
      (c.restore ⟨c.terminal.ty, x, .sizeless⟩) (c.restore ⟨c.terminal.ty, y, .sizeless⟩)

/-! ## Records in reach -/

namespace Schema

/-- Every record reached from `d` satisfies `P`. -/
def RecordsUnder (S : Schema) (reg : Registry) (P : Descriptor → Prop) (d : Descriptor) : Prop :=
  ∀ d', S.Under reg d d' → P d'

/-- Every record a value of `t` may lead a reader to satisfies `P`. -/
def RecordsOf (S : Schema) (reg : Registry) (P : Descriptor → Prop) (t : Ty) : Prop :=
  ∀ d, S.Leads t d → S.RecordsUnder reg P d

section Reach

variable {S : Schema} {reg : Registry} {P : Descriptor → Prop} {t : Ty} {d : Descriptor}

theorem safeType_iff_recordsOf : S.SafeType reg t ↔ S.RecordsOf reg (·.exhaustive = true) t :=
  Iff.rfl

theorem RecordsUnder.self (h : S.RecordsUnder reg P d) : P d := h d (.refl d)

theorem RecordsUnder.field (h : S.RecordsUnder reg P d) {p : PropertyInfo} (hp : p ∈ d.properties) :
    S.RecordsOf reg P p.ops.ty :=
  fun _ hl d' hu => h d' (.field hp hl hu)

theorem RecordsUnder.adapted (h : S.RecordsUnder reg P d) {p : PropertyInfo}
    (hp : p ∈ d.properties) {c : Chain} (hc : reg.resolve S p.ops = .ok c) :
    S.RecordsOf reg P c.terminal.ty :=
  fun _ hl d' hu => h d' (.adapted hp hc hl hu)

theorem RecordsOf.mono {Q : Descriptor → Prop} (h : S.RecordsOf reg P t) (hPQ : ∀ d, P d → Q d) :
    S.RecordsOf reg Q t :=
  fun d hl d' hu => hPQ d' (h d hl d' hu)

theorem RecordsOf.record (h : S.RecordsOf reg P t) (hd : S.descriptor? t = some d) :
    S.RecordsUnder reg P d :=
  h d (.record hd)

theorem RecordsOf.carried (h : S.RecordsOf reg P t) (hd : Factory.descriptorOf S t = some d) :
    S.RecordsUnder reg P d :=
  h d (.carried hd)

theorem RecordsOf.option (h : S.RecordsOf reg P (.option t)) : S.RecordsOf reg P t :=
  fun d hl => h d (.option hl)

theorem RecordsOf.boxed (h : S.RecordsOf reg P (.boxed t)) : S.RecordsOf reg P t :=
  fun d hl => h d (.boxed hl)

theorem RecordsOf.vec (h : S.RecordsOf reg P (.vec t)) : S.RecordsOf reg P t :=
  fun d hl => h d (.vec hl)

theorem RecordsOf.array {n : Nat} (h : S.RecordsOf reg P (.array t n)) : S.RecordsOf reg P t :=
  fun d hl => h d (.array hl)

/-- The values of a sorted, hashed or fixed map lead where the map does. -/
theorem RecordsOf.map {u : Ty} (hu : u = .sortedMap t ∨ u = .hashMap t ∨ u = .fixedMap t)
    (h : S.RecordsOf reg P u) : S.RecordsOf reg P t := by
  rcases hu with rfl | rfl | rfl
  · exact fun d hl => h d (.sortedMap hl)
  · exact fun d hl => h d (.hashMap hl)
  · exact fun d hl => h d (.fixedMap hl)

/-- A record satisfying `P` whose properties lead to no record is the only record under it with the
empty registry, which adapts nothing. -/
theorem recordsUnder_flat (hP : P d) (hflat : ∀ p ∈ d.properties, ∀ d₁, ¬ S.Leads p.ops.ty d₁) :
    S.RecordsUnder {} P d := by
  intro d' hu
  cases hu with
  | refl => exact hP
  | field hp hl _ => exact absurd hl (hflat _ hp _)
  | @adapted _ _ _ p _ hp hc hl _ =>
    have hres : Registry.resolve S {} p.ops = .ok ⟨[], p.ops⟩ := rfl
    rw [hres] at hc
    cases hc
    exact absurd hl (hflat _ hp _)

end Reach

end Schema

/-- The empty registry resolves every type to itself, and restores what it reads as it is. -/
theorem Registry.restoresUpToFills_empty (S : Schema) : ({} : Registry).RestoresUpToFills S := by
  intro ops c hc x y hxy
  have hres : Registry.resolve S {} ops = .ok ⟨[], ops⟩ := rfl
  rw [hres] at hc
  cases hc
  exact .ok ⟨rfl, hxy⟩

/-! ## Comparing runs -/

/-- Lists of results of a traversal of `cs`, related at each member by `R`. -/
inductive Along {γ α β : Type} (R : γ → α → β → Prop) : List γ → List α → List β → Prop
  | nil : Along R [] [] []
  | cons {c : γ} {a : α} {b : β} {cs : List γ} {as : List α} {bs : List β} :
      R c a b → Along R cs as bs → Along R (c :: cs) (a :: as) (b :: bs)

namespace Along

variable {γ α β : Type} {R : γ → α → β → Prop} {cs : List γ} {as : List α} {bs : List β}

theorem length_left (h : Along R cs as bs) : as.length = cs.length := by
  induction h with
  | nil => rfl
  | cons _ _ ih => simp [ih]

theorem length_right (h : Along R cs as bs) : bs.length = cs.length := by
  induction h with
  | nil => rfl
  | cons _ _ ih => simp [ih]

/-- The results at each place of the traversal, related by `R` at the member there. -/
theorem getElem? (h : Along R cs as bs) {i : Nat} {c : γ} (hc : cs[i]? = some c) :
    ∃ a b, as[i]? = some a ∧ bs[i]? = some b ∧ R c a b := by
  induction h generalizing i with
  | nil => simp at hc
  | @cons c' a b _ _ _ hab _ ih =>
    cases i with
    | zero =>
      cases hc
      exact ⟨a, b, rfl, rfl, hab⟩
    | succ i => exact ih hc

/-- Results standing at one place come from the member there. -/
theorem getElem?_rel (h : Along R cs as bs) {i : Nat} {a : α} {b : β} (ha : as[i]? = some a)
    (hb : bs[i]? = some b) : ∃ c, cs[i]? = some c ∧ R c a b := by
  induction h generalizing i with
  | nil => simp at ha
  | @cons c _ _ _ _ _ hab _ ih =>
    cases i with
    | zero =>
      cases ha
      cases hb
      exact ⟨c, rfl, hab⟩
    | succ i => exact ih ha hb

theorem rel_of_mem_zip (h : Along R cs as bs) {a : α} {b : β} (hab : (a, b) ∈ as.zip bs) :
    ∃ c, R c a b := by
  induction h with
  | nil => simp at hab
  | cons hcab _ ih =>
    simp only [List.zip_cons_cons, List.mem_cons, Prod.mk.injEq] at hab
    rcases hab with ⟨rfl, rfl⟩ | hmem
    · exact ⟨_, hcab⟩
    · exact ih hmem

theorem map_eq {ι : Type} {f : α → ι} {g : β → ι} (h : Along R cs as bs)
    (hR : ∀ c a b, R c a b → f a = g b) : as.map f = bs.map g := by
  induction h with
  | nil => rfl
  | cons hcab _ ih => simp [hR _ _ _ hcab, ih]

end Along

/-- A run under raw access against the same run under checked access, from one factory: the same
error, or results related by `R`, in one final factory; or the raw run stopped at a fill, whatever
the checked run gave. -/
inductive Compared {α β : Type} (R : α → β → Prop) :
    Except MapError α × Factory → Except MapError β × Factory → Prop
  | error (e : MapError) (f : Factory) : Compared R (.error e, f) (.error e, f)
  | ok {a : α} {b : β} (f : Factory) : R a b → Compared R (.ok a, f) (.ok b, f)
  | stop {e : MapError} (f : Factory) (r : Except MapError β × Factory) :
      e.FillStop → Compared R (.error e, f) r

section Runs

variable {α β γ δ : Type}

/-- Runs of `x` and `y` from one factory that `I` holds of compare, and `I` holds after `x`. -/
def RunsCompared (I : Factory → Prop) (R : α → β → Prop) (x : FactoryM α) (y : FactoryM β) :
    Prop :=
  ∀ f, I f → Compared R (Factory.run x f) (Factory.run y f) ∧ I (Factory.run x f).2

namespace RunsCompared

variable {I : Factory → Prop} {R : α → β → Prop} {Q : γ → δ → Prop}

theorem pure {a : α} {b : β} (h : R a b) :
    RunsCompared I R (Pure.pure a : FactoryM α) (Pure.pure b) :=
  fun f hf => ⟨.ok f h, hf⟩

theorem throw (e : MapError) :
    RunsCompared I R (MonadExcept.throw e : FactoryM α) (MonadExcept.throw e) :=
  fun f hf => ⟨.error e f, hf⟩

theorem bind {x : FactoryM α} {y : FactoryM β} {k : α → FactoryM γ} {k' : β → FactoryM δ}
    (hx : RunsCompared I R x y) (hk : ∀ a b, R a b → RunsCompared I Q (k a) (k' b)) :
    RunsCompared I Q (x >>= k) (y >>= k') := by
  intro f hf
  obtain ⟨hc, hI⟩ := hx f hf
  rw [Factory.run_bind, Factory.run_bind]
  generalize Factory.run x f = p₁ at hc hI ⊢
  generalize Factory.run y f = p₂ at hc ⊢
  cases hc with
  | error e f' => exact ⟨.error e f', hI⟩
  | ok f' hab => exact hk _ _ hab f' hI
  | stop f' r hstop => exact ⟨.stop f' _ hstop, hI⟩

theorem map {x : FactoryM α} {y : FactoryM β} {g : α → γ} {g' : β → δ}
    (hx : RunsCompared I R x y) (hg : ∀ a b, R a b → Q (g a) (g' b)) :
    RunsCompared I Q (g <$> x) (g' <$> y) := by
  rw [map_eq_pure_bind, map_eq_pure_bind]
  exact hx.bind fun a b hab => pure (hg a b hab)

theorem mono {x : FactoryM α} {y : FactoryM β} {R' : α → β → Prop} (hx : RunsCompared I R x y)
    (hR : ∀ a b, R a b → R' a b) : RunsCompared I R' x y := by
  intro f hf
  obtain ⟨hc, hI⟩ := hx f hf
  refine ⟨?_, hI⟩
  generalize Factory.run x f = p₁ at hc
  generalize Factory.run y f = p₂ at hc
  cases hc with
  | error e f' => exact .error e f'
  | ok f' hab => exact .ok f' (hR _ _ hab)
  | stop f' r hstop => exact .stop f' _ hstop

theorem throw_bind (e : MapError) {k : α → FactoryM γ} {k' : β → FactoryM δ} :
    RunsCompared I Q (MonadExcept.throw e >>= k) (MonadExcept.throw e >>= k') :=
  fun f hf => ⟨.error e f, hf⟩

/-- A check lifted into both runs. -/
theorem lift (r : Except MapError α) : RunsCompared I Eq (Mapper.lift r) (Mapper.lift r) := by
  intro f hf
  rw [Factory.run_lift]
  cases r with
  | error e => exact ⟨.error e f, hf⟩
  | ok a => exact ⟨.ok f rfl, hf⟩

/-- A handler that attributes an error to a property and throws it again, on both runs: a stop
stays a stop. -/
theorem tryCatch_within {x : FactoryM α} {y : FactoryM α} {R : α → α → Prop}
    (hx : RunsCompared I R x y) (owner property : String) :
    RunsCompared I R (tryCatch x fun e => MonadExcept.throw (e.within owner property))
      (tryCatch y fun e => MonadExcept.throw (e.within owner property)) := by
  intro f hf
  obtain ⟨hc, hI⟩ := hx f hf
  rcases h₁ : Factory.run x f with ⟨r₁, f₁⟩
  rcases h₂ : Factory.run y f with ⟨r₂, f₂⟩
  rw [h₁, h₂] at hc
  rw [h₁] at hI
  cases hc with
  | error e f' =>
    rw [Factory.run_tryCatch_error h₁, Factory.run_tryCatch_error h₂]
    exact ⟨.error _ _, hI⟩
  | ok f' hab =>
    rw [Factory.run_tryCatch_ok h₁, Factory.run_tryCatch_ok h₂]
    exact ⟨.ok _ hab, hI⟩
  | stop f' r hstop =>
    rw [Factory.run_tryCatch_error h₁]
    exact ⟨.stop _ _ (hstop.within owner property), hI⟩

/-- A traversal of one list by two operations that compare at each member. -/
theorem mapM {cs : List γ} {g : γ → FactoryM α} {g' : γ → FactoryM β} {R : γ → α → β → Prop}
    (hg : ∀ c ∈ cs, RunsCompared I (R c) (g c) (g' c)) :
    RunsCompared I (Along R cs) (cs.mapM g) (cs.mapM g') := by
  induction cs with
  | nil => exact pure .nil
  | cons c cs ih =>
    rw [List.mapM_cons, List.mapM_cons]
    exact (hg c List.mem_cons_self).bind fun a b hab =>
      (ih fun c' hc' => hg c' (List.mem_cons_of_mem c hc')).bind fun as bs habs =>
        pure (.cons hab habs)

end RunsCompared

end Runs

/-! ## A fresh record under the two strategies -/

namespace Mapper

/-- What `putBy` reads for a property before it writes it; with no fuel left it reads nothing. -/
def propertyBy (s : Strategy) (fuel depth : Nat) (p : MappedProperty) (v : Value) :
    FactoryM Datum :=
  match fuel with
  | 0 => do throw (.depthExceeded (← get).config.maxDepth)
  | fuel + 1 => decodeProperty (decodeBy s fuel depth) p v

theorem putBy_eq (s : Strategy) (fuel depth : Nat) :
    putBy s fuel depth = fun p target v => (target.put p ·) <$> propertyBy s fuel depth p v := by
  funext p target v
  cases fuel with
  | zero =>
    rw [putBy, propertyBy]
    exact Factory.ext fun f => rfl
  | succ fuel =>
    rw [putBy, propertyBy]

/-- What a property takes from a map when `dp` reads its value: nothing when the map leaves it
absent, and otherwise what `dp` reads, an error being attributed to the property of `owner`. -/
def presentWith (dp : MappedProperty → Value → FactoryM Datum) (owner : String) (vm : ValueMap)
    (p : MappedProperty) : FactoryM (Option Datum) :=
  match take vm p with
  | none => pure none
  | some v => tryCatch (some <$> dp p v) fun e => throw (e.within owner p.info.name)

/-- One property set by writing in place what `dp` reads is that property read and then written. -/
theorem putStep_eq (dp : MappedProperty → Value → FactoryM Datum) (owner : String)
    (target : Target) (p : MappedProperty) (v : Value) :
    tryCatch ((target.put p ·) <$> dp p v) (fun e => throw (e.within owner p.info.name)) =
      (fun w => target.putAll [(p, w)]) <$>
        tryCatch (some <$> dp p v) (fun e => throw (e.within owner p.info.name)) := by
  rw [Factory.tryCatch_map_rethrow, Factory.tryCatch_map_rethrow, Functor.map_map]
  rfl

/-- Setting the properties a map holds, each by a step that reads it as `presentWith` does and then
writes it, is reading them all and then writing them: the first error ends the reading. -/
theorem foldlM_presentWith {step : Target → MappedProperty → FactoryM Target}
    (dp : MappedProperty → Value → FactoryM Datum) (owner : String) (vm : ValueMap)
    (hstep : ∀ target p, step target p =
      (fun w => target.putAll [(p, w)]) <$> presentWith dp owner vm p) :
    ∀ (ps : List MappedProperty) (target : Target),
      ps.foldlM step target =
        (fun ws => target.putAll (ps.zip ws)) <$> ps.mapM (presentWith dp owner vm)
  | [], target => rfl
  | p :: ps, target => by
    rw [List.foldlM_cons, hstep, List.mapM_cons, bind_map_left, map_bind]
    refine bind_congr fun w => ?_
    rw [foldlM_presentWith dp owner vm hstep ps, map_bind]
    simp only [map_pure, bind_pure_comp]
    rfl

end Mapper

/-- Checked access allocates a record with a constructor and a default instance as that
instance. -/
theorem Strategy.allocate_checked {S : Schema} {d : Descriptor} (hc : d.constructible = true)
    {v : Datum} (hv : S.default? d.ty = some v) (place : Identity) :
    Strategy.allocate S .checked d place = .ok (.constructed ⟨d.ty, v, place⟩) := by
  simp only [Strategy.allocate, hc, hv]
  rfl

/-- The fields of a record after what was read for its properties is written, in order. -/
def Mapper.writeFields (reads : List (MappedProperty × Option Datum)) (fields : List Datum) :
    List Datum :=
  reads.foldl (fun l r => match r.2 with
    | some a => l.set r.1.info.position a
    | none => l) fields

/-- Writing what was read to a constructed record sets the read fields of its data in order. -/
theorem Target.putAll_existing_record (x : Instance) (fs : List Datum)
    (reads : List (MappedProperty × Option Datum)) :
    (Target.existing { x with datum := .record fs }).putAll reads =
      .existing { x with datum := .record (Mapper.writeFields reads fs) } := by
  rw [Target.putAll_existing]
  exact congrArg (fun dat => Target.existing { x with datum := dat })
    (Mapper.foldl_setField_record reads fs)

theorem Except.eq_ok_of_toOption {ε α : Type} {r : Except ε α} {a : α}
    (h : r.toOption = some a) : r = .ok a := by
  cases r with
  | error e => cases h
  | ok b =>
    cases h
    rfl

/-- What a property takes from a map under the two strategies: nothing on both sides, or data
that agree up to fills at its type. -/
def MappedProperty.ReadApart (S : Schema) (p : MappedProperty) : Option Datum → Option Datum → Prop
  | none, none => True
  | some x, some y => UpToFills S p.info.ops.ty x y
  | _, _ => False

namespace Mapper

variable {S : Schema} {reg : Registry} {m : Mapper} {d : Descriptor}

/-- The fields of a record of `d` after the properties read for it are written in order: each
property holds what was read for it, or what was there, and every other field is as it was. -/
theorem Built.writeFields_reads (hb : m.Built d) (hwf : d.WellFormed) {ws : List (Option Datum)}
    (hlen : ws.length = m.properties.length) {l : List Datum}
    (hl : l.length = Uninit.fieldCount d) :
    (writeFields (m.properties.zip ws) l).length = l.length ∧
    (∀ q ∈ d.properties,
      (writeFields (m.properties.zip ws) l)[q.position]? = (ws[q.index]?).join.or l[q.position]?) ∧
    ∀ i, i ∉ d.properties.map (·.position) → (writeFields (m.properties.zip ws) l)[i]? = l[i]? := by
  unfold writeFields
  have hsets : SetsAt (fun r : MappedProperty × Option Datum => r.1.info.position) (·.2)
      (fun l r => match r.2 with
        | some a => l.set r.1.info.position a
        | none => l) := by
    rintro l ⟨p, _ | a⟩ <;> rfl
  obtain ⟨hzip, hnd⟩ := hb.zip_positions hwf (List.Sublist.refl _) hlen
  have hpositions : (m.properties.zip ws).map (fun r => r.1.info.position) =
      d.properties.map (·.position) := by
    rw [hzip, ← hb.info, List.map_map]
    rfl
  rw [← hzip] at hnd
  refine ⟨length_foldl_setsAt hsets _ _, fun q hq => ?_, fun i hi => ?_⟩
  · obtain ⟨hi, hinfo⟩ := hb.getElem_index hwf hq
    have hmem : (m.properties[q.index], ws[q.index]) ∈ m.properties.zip ws :=
      List.mem_iff_getElem.mpr ⟨q.index, by simp [hlen, hi], by simp⟩
    have hin : ∀ r ∈ m.properties.zip ws, r.1.info.position < l.length := by
      intro r hr
      rw [hl]
      exact hwf.position_lt (List.mem_append_left _ (hpositions ▸ List.mem_map_of_mem hr))
    have h := getElem?_foldl_setsAt hsets _ _ hnd hin _ hmem
    have hw : ws[q.index]? = some ws[q.index] := List.getElem?_eq_getElem (by omega)
    simp only [hinfo] at h
    rw [h, hw, Option.join_some]
  · exact getElem?_foldl_setsAt_of_notMem hsets _ _ (hpositions ▸ hi)

/-- Reading a fresh record of `d` under the two strategies, once what the map holds was read for
each property alike, ends alike up to fills: raw access fills the rest with their own defaults and
stops at the first it has none for, checked access keeps the fields of the record's default
instance. -/
theorem Sound.finish_fills (hm : m.Sound S reg d) (hfill : d.Refillable S) {defs : List Datum}
    (hdefs : S.default? d.ty = some (.record defs)) (hdlen : defs.length = Uninit.fieldCount d)
    {ws₁ ws₂ : List (Option Datum)} (hws : Along (MappedProperty.ReadApart S) m.properties ws₁ ws₂)
    (place : Identity) :
    (∃ e, Strategy.finish S (.ofTarget ((Target.uninit ⟨d, List.replicate (Uninit.fieldCount d)
        none, [], place⟩).putAll (m.properties.zip ws₁))) = .error e ∧ e.FillStop) ∨
    ∃ x, Strategy.finish S (.ofTarget ((Target.uninit ⟨d, List.replicate (Uninit.fieldCount d)
        none, [], place⟩).putAll (m.properties.zip ws₁))) = .ok x ∧
      Instance.UpToFills S x ⟨d.ty, .record (writeFields (m.properties.zip ws₂) defs), place⟩ := by
  have hb := hm.built
  have hwf := hm.wellFormed
  have hdesc := hwf.described hfill.exhaustive
  obtain ⟨hyslen, hysP, hysRest⟩ := hb.writeFields_reads hwf hws.length_right hdlen
  obtain ⟨u, hput, rfl, hid, hslen, hslot, hwritten⟩ := hb.putAll_fresh hwf hws.length_left place
  rw [hput]
  change (∃ e, u.finish S = .error e ∧ e.FillStop) ∨ ∃ x, u.finish S = .ok x ∧ _
  obtain ⟨hstopP, hstopE, hok⟩ := Uninit.finish_cases (S := S) hwf hdesc hslen
    (fun q => (ws₁[q.index]?).join) hslot hwritten
  -- a stop of the finish is a fill's error, for an absent property or for a skipped field
  have hfillStop : ∀ (s : AllocStop) reason, (reason = "an absent property has no default value" ∨
      reason = "an excluded field has no default value") →
      (s.toError u.descriptor.typeName reason).FillStop := by
    rintro (_ | _) reason hr
    · exact .inl ⟨_, hr.imp (congrArg _) (congrArg _)⟩
    · exact .inr rfl
  cases hP : u.descriptor.properties.findSome? fun q =>
      if (ws₁[q.index]?).join.isSome then none else q.ops.defaultStop? S with
  | some s => exact .inl ⟨_, hstopP s hP, hfillStop s _ (.inl rfl)⟩
  | none =>
  cases hE : u.descriptor.excluded.findSome? (·.ops.defaultStop? S) with
  | some s => exact .inl ⟨_, hstopE hP s hE, hfillStop s _ (.inr rfl)⟩
  | none =>
  obtain ⟨fields, hfin, hflen, hfP, hfE⟩ := hok hP hE
  refine .inr ⟨_, hfin, rfl, hid, ?_⟩
  set d := u.descriptor
  -- what the two sides read for each property: nothing on both, or data apart only by fills
  have hpair : ∀ q ∈ d.properties, ∃ a b, ws₁[q.index]? = some a ∧ ws₂[q.index]? = some b ∧
      ((a = none ∧ b = none) ∨ ∃ x y, a = some x ∧ b = some y ∧ UpToFills S q.ops.ty x y) := by
    intro q hq
    obtain ⟨hi, hinfo⟩ := hb.getElem_index hwf hq
    obtain ⟨a, b, ha, hb', hab⟩ := hws.getElem? (List.getElem?_eq_getElem hi)
    refine ⟨a, b, ha, hb', ?_⟩
    rcases a with _ | x <;> rcases b with _ | y
    · exact .inl ⟨rfl, rfl⟩
    · exact absurd hab id
    · exact absurd hab id
    · exact .inr ⟨x, y, rfl, rfl, hinfo ▸ hab⟩
  obtain ⟨-, -, hdisj⟩ := List.nodup_append.mp hwf.positions_nodup
  -- the fresh fields: the properties the map left absent and the skipped fields
  refine UpToFills.record ((d.properties.filter fun q => (ws₁[q.index]?).join.isNone).map
      (·.position) ++ d.excluded.map (·.position)) hm.declared
    (by rw [hflen, hyslen, hdlen]) (fun i hi x y hx hy => ?_) (fun q hq hnot x y hx hy => ?_)
    (fun i hnot hnotP => ?_)
  · rcases List.mem_append.mp hi with hi | hi
    · obtain ⟨q, hqf, rfl⟩ := List.mem_map.mp hi
      obtain ⟨hq, hnone⟩ := List.mem_filter.mp hqf
      obtain ⟨a, b, ha, hb', hab⟩ := hpair q hq
      rcases hab with ⟨rfl, rfl⟩ | ⟨x', y', rfl, rfl, -⟩
      · rw [hfP q hq, ha, Option.join_some, Option.none_or] at hx
        rw [hysP q hq, hb', Option.join_some, Option.none_or] at hy
        exact ⟨.inl ⟨q, hq, rfl, Except.eq_ok_of_toOption hx⟩, defs, hdefs, hy⟩
      · rw [ha] at hnone
        cases hnone
    · obtain ⟨e, he, rfl⟩ := List.mem_map.mp hi
      rw [hfE e he] at hx
      rw [hysRest _ fun h => hdisj _ h _ (List.mem_map_of_mem he) rfl] at hy
      exact ⟨.inr ⟨e, he, rfl, Except.eq_ok_of_toOption hx⟩, defs, hdefs, hy⟩
  · obtain ⟨a, b, ha, hb', hab⟩ := hpair q hq
    rcases hab with ⟨rfl, rfl⟩ | ⟨x', y', rfl, rfl, hxy⟩
    · exact absurd (List.mem_append_left _ (List.mem_map.mpr
        ⟨q, List.mem_filter.mpr ⟨hq, by rw [ha]; rfl⟩, rfl⟩)) hnot
    · rw [hfP q hq, ha, Option.join_some, Option.some_or] at hx
      rw [hysP q hq, hb', Option.join_some, Option.some_or] at hy
      cases hx
      cases hy
      exact hxy
  · -- every other position lies past the record's fields, on both sides
    have hge : Uninit.fieldCount d ≤ i := by
      refine Nat.le_of_not_lt fun hlt => ?_
      rcases List.mem_append.mp (hwf.positions.mem_iff.mpr (List.mem_range.mpr hlt)) with h | h
      · exact hnotP h
      · exact hnot (List.mem_append_right _ h)
    rw [List.getElem?_eq_none (by rw [hflen]; exact hge),
      List.getElem?_eq_none (by rw [hyslen, hdlen]; exact hge)]


end Mapper

/-! ## Runs from one factory -/

/-- A factory of the schema `S` and the registry `reg` under the strategy `s`, keeping only sound
mappers built under it: the factories the two readers are compared from. -/
def Factory.Sound (S : Schema) (reg : Registry) (s : Strategy) (f : Factory) : Prop :=
  Factory.Twins S reg s s f f

namespace RunsCompared

variable {S : Schema} {reg : Registry} {s : Strategy} {α β γ : Type} {R : α → β → Prop}

/-- One operation run on both sides, which twins run alike. -/
theorem same {x : FactoryM α} {Q : α → α → Prop} (hx : RunsAgree (Factory.Twins S reg s s) Q x x) :
    RunsCompared (Factory.Sound S reg s) (fun a b => a = b ∧ Q a a) x x := by
  intro f hf
  obtain ⟨hout, hrel⟩ := hx f f hf
  refine ⟨?_, hrel⟩
  simp only [HoldsFactory.run_factoryM] at hout
  rcases h : Factory.run x f with ⟨_ | a, f'⟩
  · exact .error _ f'
  · rw [h] at hout
    cases hout with
    | ok hq => exact .ok f' ⟨rfl, hq⟩

/-- An operation that reads only the shape, on both sides, then runs that compare. -/
theorem oblivious_bind {x : FactoryM γ} {k : γ → FactoryM α} {k' : γ → FactoryM β}
    (hx : Factory.Oblivious x) (hk : ∀ a, RunsCompared (Factory.Sound S reg s) R (k a) (k' a)) :
    RunsCompared (Factory.Sound S reg s) R (x >>= k) (x >>= k') :=
  (same hx.agrees).bind fun a _ hab => hab.1 ▸ hk a

/-- Both sides read the schema, which every factory compared from holds. -/
theorem schemaM_bind {k : Schema → FactoryM α} {k' : Schema → FactoryM β}
    (hk : RunsCompared (Factory.Sound S reg s) R (k S) (k' S)) :
    RunsCompared (Factory.Sound S reg s) R (Factory.schemaM >>= k) (Factory.schemaM >>= k') := by
  intro f hf
  have hschema : Factory.run Factory.schemaM f = (.ok f.schema, f) := rfl
  rw [Factory.run_bind_ok hschema, Factory.run_bind_ok hschema, hf.schema]
  exact hk f hf

/-- A reader out of fuel fails alike on both sides. -/
theorem depthExceeded {I : Factory → Prop} :
    RunsCompared I R
      (get >>= fun f => (MonadExcept.throw (.depthExceeded f.config.maxDepth) : FactoryM α))
      (get >>= fun f => (MonadExcept.throw (.depthExceeded f.config.maxDepth) : FactoryM β)) :=
  fun f hf => ⟨.error _ f, hf⟩

/-- Checks lifted on both sides whose outcomes agree. -/
theorem lift_outcome {I : Factory → Prop} {r₁ : Except MapError α} {r₂ : Except MapError β}
    (h : Outcome R r₁ r₂) : RunsCompared I R (Mapper.lift r₁) (Mapper.lift r₂) := by
  intro f hf
  rw [Factory.run_lift, Factory.run_lift]
  cases h with
  | error e => exact ⟨.error e f, hf⟩
  | ok hab => exact ⟨.ok f hab, hf⟩

end RunsCompared

namespace Mapper

open Factory

variable {S : Schema} {reg : Registry} {s : Strategy}

/-- Reading a fresh record by writing in place what `dp₁` and `dp₂` read, under raw and under
checked access, from one factory: both take the same identity, read the same properties from the
map, and end as `Sound.finish_fills` says. -/
theorem readMapWith_compare {dp₁ dp₂ : MappedProperty → Value → FactoryM Datum} {m : Mapper}
    (hm : Mapper.Twins S reg s s m m) (hfill : ∀ d, m.descriptor = some d → d.Refillable S)
    (hdp : ∀ d, m.descriptor = some d → ∀ p ∈ m.properties, ∀ v,
      RunsCompared (Factory.Sound S reg s) (UpToFills S p.info.ops.ty) (dp₁ p v) (dp₂ p v))
    (vm : ValueMap) :
    RunsCompared (Factory.Sound S reg s) (Instance.UpToFills S)
      (readMapWith (fun p target v => (target.put p ·) <$> dp₁ p v) { m with strategy := .raw } vm)
      (readMapWith (fun p target v => (target.put p ·) <$> dp₂ p v)
        { m with strategy := .checked } vm) := by
  unfold readMapWith
  refine RunsCompared.schemaM_bind ?_
  dsimp only
  cases hd : m.descriptor with
  | none => exact RunsCompared.throw _
  | some d =>
    dsimp only
    have hsound := hm.soundLeft d hd
    obtain ⟨defs, hdefs, hdlen⟩ := (hfill d hd).default
    refine RunsCompared.oblivious_bind freshIdentity_oblivious fun place => ?_
    rw [Strategy.allocate_raw (hsound.wellFormed.described (hfill d hd).exhaustive),
      Strategy.allocate_checked (hfill d hd).constructible hdefs, Factory.lift_ok, Factory.lift_ok,
      pure_bind, pure_bind, foldlM_presentWith dp₁ d.ident vm ?raw,
      foldlM_presentWith dp₂ d.ident vm ?checked, bind_map_left, bind_map_left]
    case raw | checked =>
      -- each property is read as `presentWith` reads it and then written in place
      intro target p
      unfold presentWith
      rcases take vm p with _ | v
      · rfl
      · exact putStep_eq _ d.ident target p v
    refine (RunsCompared.mapM (R := MappedProperty.ReadApart S) fun p hp => ?_).bind
      fun ws₁ ws₂ hws => ?_
    · unfold presentWith
      split
      · exact RunsCompared.pure trivial
      · rename_i v _
        have hsome : RunsCompared (Factory.Sound S reg s) (MappedProperty.ReadApart S p)
            (some <$> dp₁ p v) (some <$> dp₂ p v) := (hdp d hd p hp v).map fun a b h => h
        exact hsome.tryCatch_within _ _
    · have hchecked : (Target.existing ⟨d.ty, .record defs, place⟩).putAll (m.properties.zip ws₂) =
          .existing ⟨d.ty, .record (writeFields (m.properties.zip ws₂) defs), place⟩ :=
        Target.putAll_existing_record ⟨d.ty, .record defs, place⟩ defs _
      intro f hf
      simp only [Allocation.target]
      rw [hchecked, Factory.run_lift, Factory.run_lift]
      rcases hsound.finish_fills (hfill d hd) hdefs hdlen hws place with
        ⟨e, he, hstop⟩ | ⟨x, hx, hxy⟩
      · rw [he]
        exact ⟨.stop f _ hstop, hf⟩
      · rw [hx]
        exact ⟨.ok f hxy, hf⟩

end Mapper

/-! ## Comparing the readers -/

section Compare

variable {S : Schema} {reg : Registry} {s : Strategy} {γ : Type}

/-- Elements read alike up to fills make lists that agree up to fills. -/
theorem Along.upToFills_list {cs : List γ} {t u : Ty} {xs ys : List Datum}
    (h : Along (fun _ => UpToFills S t) cs xs ys) (hu : u = .vec t ∨ ∃ n, u = .array t n) :
    UpToFills S u (.list xs) (.list ys) := by
  refine .list hu (h.length_left.trans h.length_right.symm) fun i x y hx hy => ?_
  obtain ⟨_, -, hxy⟩ := h.getElem?_rel hx hy
  exact hxy

/-- Entries read under the same keys, with values that agree up to fills, still do once sorted
by key: the two lists are sorted as one list of pairs. -/
theorem Along.sortEntries {cs : List γ} {e : Ty} {kvs₁ kvs₂ : List (String × Datum)}
    (h : Along (fun _ a b => a.1 = b.1 ∧ UpToFills S e a.2 b.2) cs kvs₁ kvs₂) :
    (Mapper.sortEntries kvs₁).map Prod.fst = (Mapper.sortEntries kvs₂).map Prod.fst ∧
      ∀ (i : Nat) a b, (Mapper.sortEntries kvs₁)[i]? = some a →
        (Mapper.sortEntries kvs₂)[i]? = some b → UpToFills S e a.2 b.2 := by
  have hlen : kvs₁.length = kvs₂.length := h.length_left.trans h.length_right.symm
  have hzip : ∀ z ∈ kvs₁.zip kvs₂, z.1.1 = z.2.1 ∧ UpToFills S e z.1.2 z.2.2 := by
    intro z hz
    obtain ⟨_, hrel⟩ := h.rel_of_mem_zip hz
    exact hrel
  have hfst : ((kvs₁.zip kvs₂).mergeSort fun z w => decide (z.1.1 ≤ w.1.1)).map Prod.fst =
      Mapper.sortEntries kvs₁ := by
    rw [List.map_mergeSort (s := fun a b : String × Datum => decide (a.1 ≤ b.1)) fun _ _ _ _ => rfl,
      List.map_fst_zip hlen.le]
    rfl
  have hsnd : ((kvs₁.zip kvs₂).mergeSort fun z w => decide (z.1.1 ≤ w.1.1)).map Prod.snd =
      Mapper.sortEntries kvs₂ := by
    rw [List.map_mergeSort (s := fun a b : String × Datum => decide (a.1 ≤ b.1)) fun z hz w hw => by
      rw [(hzip z hz).1, (hzip w hw).1], List.map_snd_zip hlen.ge]
    rfl
  rw [← hfst, ← hsnd]
  constructor
  · rw [List.map_map, List.map_map]
    exact List.map_congr_left fun z hz => (hzip z (List.mem_mergeSort.mp hz)).1
  · intro i a b ha hb
    rw [List.getElem?_map] at ha hb
    obtain ⟨z, hz, rfl⟩ := Option.map_eq_some_iff.mp ha
    rw [hz] at hb
    cases hb
    exact (hzip z (List.mem_mergeSort.mp (List.mem_of_getElem? hz))).2

namespace Mapper

open Factory

variable {I : Factory → Prop} {P : Descriptor → Prop}

/-- A property reads alike up to fills under the two strategies when its type and the terminal
type of its adapters do, through a registry whose chains keep apart only what was apart. -/
theorem decodeProperty_compare {dec₁ dec₂ : Ty → Value → FactoryM Datum} {p : MappedProperty}
    {v : Value} (hreg : reg.RestoresUpToFills S) (hchain : reg.resolve S p.info.ops = .ok p.chain)
    (hdec : ∀ t, S.RecordsOf reg P t → RunsCompared I (UpToFills S t) (dec₁ t v) (dec₂ t v))
    (hinfo : S.RecordsOf reg P p.info.ops.ty) (hterm : S.RecordsOf reg P p.chain.terminal.ty) :
    RunsCompared I (UpToFills S p.info.ops.ty) (decodeProperty dec₁ p v)
      (decodeProperty dec₂ p v) := by
  unfold decodeProperty incoming
  refine RunsCompared.bind (R := fun a b => a.ty = b.ty ∧ UpToFills S a.ty a.datum b.datum) ?_
    fun x y hxy => ?_
  · split
    · simp only [Strategy.intoBoxed]
      split
      · exact (hdec _ hinfo).bind fun a b hab => RunsCompared.pure ⟨rfl, hab⟩
      · exact RunsCompared.throw _
    · exact (hdec _ hterm).bind fun a b hab => RunsCompared.lift_outcome (hreg _ _ hchain a b hab)
  · obtain ⟨hty, hdata⟩ := hxy
    rw [← hty]
    split
    · exact RunsCompared.throw _
    · rename_i hsame
      have hx : x.ty = p.info.ops.ty := by simpa using hsame
      exact RunsCompared.pure (hx ▸ hdata)

/-- One level of reading compares under the two strategies when the readings it calls do. The
induction is on the type, as `decodeWith` recurses through options and boxes. -/
theorem decodeWith_compare {inner₁ inner₂ nested₁ nested₂ : Ty → Value → FactoryM Datum}
    (hinner : ∀ t x, S.RecordsOf reg P t → RunsCompared I (UpToFills S t) (inner₁ t x) (inner₂ t x))
    (hnested : ∀ t x, S.RecordsOf reg P t →
      RunsCompared I (UpToFills S t) (nested₁ t x) (nested₂ t x)) :
    ∀ t v, S.RecordsOf reg P t → RunsCompared I (UpToFills S t)
      (decodeWith S inner₁ nested₁ t v) (decodeWith S inner₂ nested₂ t v) := by
  intro t
  induction t with
  | option t ih =>
    intro v hrec
    simp only [decodeWith]
    split
    · exact RunsCompared.pure (.refl _ _)
    · exact (ih v hrec.option).map fun a b hab => .some hab
  | boxed t ih =>
    intro v hrec
    exact (ih v hrec.boxed).mono fun a b hab => .boxed hab
  | vec t =>
    intro v hrec
    simp only [decodeWith]
    split
    · exact (RunsCompared.mapM (R := fun _ => UpToFills S t) fun x _ => hinner t x hrec.vec).map
        fun xs ys h => h.upToFills_list (.inl rfl)
    · exact RunsCompared.throw _
  | array t n =>
    intro v hrec
    simp only [decodeWith]
    split
    · refine (RunsCompared.mapM (R := fun _ => UpToFills S t) fun x _ =>
        hinner t x hrec.array).bind fun ds ds' h => ?_
      rw [show ds'.length = ds.length from h.length_right.trans h.length_left.symm]
      split
      · exact RunsCompared.pure (h.upToFills_list (.inr ⟨n, rfl⟩))
      · exact RunsCompared.throw _
    · exact RunsCompared.throw _
  | sortedMap e | hashMap e | fixedMap e =>
    intro v hrec
    have he : S.RecordsOf reg P e := hrec.map (by simp)
    simp only [decodeWith]
    split
    · refine (RunsCompared.mapM (R := fun _ a b => a.1 = b.1 ∧ UpToFills S e a.2 b.2)
        fun kx _ => ?_).bind fun kvs kvs' h => ?_
      · exact (hinner e kx.2 he).bind fun a b hab => RunsCompared.pure ⟨rfl, hab⟩
      · obtain ⟨hkeys, hvals⟩ := h.sortEntries
        exact RunsCompared.pure (.entries (by simp) hkeys hvals)
    · exact RunsCompared.throw _
  | named p | apply g a =>
    intro v hrec
    simp only [decodeWith]
    split
    · refine (RunsCompared.lift _).bind fun n n' hn => ?_
      subst hn
      split
      · exact RunsCompared.throw _
      · exact RunsCompared.pure (.refl _ _)
    · exact hnested _ v hrec
  | _ =>
    intro v _
    simp only [decodeWith]
    repeat' split
    all_goals first
      | exact RunsCompared.pure (.refl _ _)
      | exact RunsCompared.throw _
      | exact (RunsCompared.lift _).map fun a b hab => hab ▸ .refl _ _
      | exact (RunsCompared.lift _).bind fun n n' hn => hn ▸ by
          split
          · exact RunsCompared.throw _
          · exact RunsCompared.pure (.refl _ _)

/-- Reading an object compares under the two strategies when reading a record with a mapper of
the factory does, for a type whose records in reach both strategies can make fresh. Both sides
enter the same level and take the same mapper; its record is the one the type carries. -/
theorem nestedWith_compare {read₁ read₂ : Nat → Mapper → ValueMap → FactoryM Instance}
    (hread : ∀ n m vm, Mapper.Twins S reg s s m m →
      (∀ d, m.descriptor = some d → S.RecordsUnder reg (·.Refillable S) d) →
      RunsCompared (Factory.Sound S reg s) (Instance.UpToFills S) (read₁ n m vm) (read₂ n m vm))
    {depth : Nat} {t : Ty} (hrec : S.RecordsOf reg (·.Refillable S) t) (v : Value) :
    RunsCompared (Factory.Sound S reg s) (UpToFills S t) (nestedWith read₁ depth t v)
      (nestedWith read₂ depth t v) := by
  unfold nestedWith
  refine RunsCompared.schemaM_bind ?_
  split
  · split
    · exact RunsCompared.throw _
    · rename_i d hd
      have hsafe : S.SafeType reg t :=
        Schema.safeType_iff_recordsOf.mpr (hrec.mono fun _ h => h.exhaustive)
      refine RunsCompared.oblivious_bind (enter_oblivious depth) fun n => ?_
      refine (RunsCompared.same (mapperFor_twins (descriptorOf_wellFormed hd) (hsafe.carried hd)
        (descriptorOf_declared hd))).bind fun m _ hm => ?_
      obtain ⟨rfl, hm, hty⟩ := hm
      refine (hread n m _ hm fun d' hd' => ?_).bind fun x y hxy => ?_
      · have hsound := hm.soundLeft d' hd'
        have hdecl := hsound.declared
        rw [← hsound.ty, hty, descriptorOf_declared hd, Option.some.injEq] at hdecl
        exact hdecl ▸ hrec.carried hd
      · obtain ⟨hty', -, hdata⟩ := hxy
        rw [← hty']
        split
        · rename_i hsame
          have hx : x.ty = t := by simpa using hsame
          exact RunsCompared.pure (hx ▸ hdata)
        · exact RunsCompared.throw _
  · split
    · exact RunsCompared.pure (.refl _ _)
    · exact RunsCompared.throw _
  · exact RunsCompared.throw _

/-- The readers under raw and under checked access, with any fuel, from one factory: reading a
type whose records in reach both strategies can make fresh, reading an object of such a type,
reading a record with a mapper of the factory, and reading a property of a sound mapper. The
induction is on the fuel; each part is its one-level lemma with the parts below as the readings
it calls. -/
theorem reader_compare (hreg : reg.RestoresUpToFills S) : ∀ fuel : Nat,
    (∀ depth t v, S.RecordsOf reg (·.Refillable S) t →
      RunsCompared (Factory.Sound S reg s) (UpToFills S t)
        (decodeBy .raw fuel depth t v) (decodeBy .checked fuel depth t v)) ∧
    (∀ depth t v, S.RecordsOf reg (·.Refillable S) t →
      RunsCompared (Factory.Sound S reg s) (UpToFills S t)
        (nestedBy .raw fuel depth t v) (nestedBy .checked fuel depth t v)) ∧
    (∀ depth (m : Mapper) vm, Mapper.Twins S reg s s m m →
      (∀ d, m.descriptor = some d → S.RecordsUnder reg (·.Refillable S) d) →
      RunsCompared (Factory.Sound S reg s) (Instance.UpToFills S)
        (readMapBy .raw fuel depth m vm) (readMapBy .checked fuel depth m vm)) ∧
    (∀ depth (m : Mapper) d p v, m.Sound S reg d → S.RecordsUnder reg (·.Refillable S) d →
      p ∈ m.properties → RunsCompared (Factory.Sound S reg s) (UpToFills S p.info.ops.ty)
        (propertyBy .raw fuel depth p v) (propertyBy .checked fuel depth p v))
  | 0 => by
    refine ⟨fun _ _ _ _ => ?_, fun _ _ _ _ => ?_, fun _ _ _ _ _ => ?_,
      fun _ _ _ _ _ _ _ _ => ?_⟩ <;>
      simp only [decodeBy, nestedBy, readMapBy, propertyBy] <;>
      exact RunsCompared.depthExceeded
  | fuel + 1 => by
    obtain ⟨hdec, hnest, hmap, hprop⟩ := reader_compare hreg fuel
    refine ⟨fun depth t v hrec => ?_, fun depth t v hrec => ?_, fun depth m vm hm hrec => ?_,
      fun depth m d p v hm hrec hp => ?_⟩
    · rw [decodeBy, decodeBy]
      exact RunsCompared.schemaM_bind (decodeWith_compare (fun t x h => hdec depth t x h)
        (fun t x h => hnest depth t x h) t v hrec)
    · rw [nestedBy, nestedBy]
      exact nestedWith_compare (fun n m vm hm h => hmap n m vm hm h) hrec v
    · rw [readMapBy, readMapBy, putBy_eq, putBy_eq]
      exact readMapWith_compare hm (fun d hd => (hrec d hd).self) (fun d hd p hp v =>
        hprop depth m d p v (hm.soundLeft d hd) (hrec d hd) hp) vm
    · have hinfo : p.info ∈ d.properties := by
        rw [← hm.built.info]
        exact List.mem_map_of_mem hp
      rw [propertyBy, propertyBy]
      exact decodeProperty_compare hreg (hm.chains p hp) (fun t h => hdec depth t v h)
        (hrec.field hinfo) (hrec.adapted hinfo (hm.chains p hp))

/-- The record of a sound mapper is in reach of the mapper's type. -/
theorem Sound.recordsUnder {m : Mapper} {d : Descriptor} (hm : m.Sound S reg d)
    (hrec : S.RecordsOf reg P m.ops.ty) : S.RecordsUnder reg P d := by
  rw [hm.ty] at hrec
  exact hrec.record hm.declared

/-- Reading a value into a fresh instance with a mapper of the factory, under raw and under
checked access from one factory. -/
theorem readValueBy_compare (hreg : reg.RestoresUpToFills S) {m : Mapper}
    (hm : Mapper.Twins S reg s s m m) (hrec : S.RecordsOf reg (·.Refillable S) m.ops.ty)
    (v : Value) :
    RunsCompared (Factory.Sound S reg s) (Instance.UpToFills S) (readValueBy .raw m v)
      (readValueBy .checked m v) := by
  unfold readValueBy
  cases hd : m.descriptor with
  | some d =>
    cases v with
    | map vm =>
      exact (reader_compare hreg _).2.2.1 0 m vm hm fun d' hd' =>
        (hm.soundLeft d' hd').recordsUnder hrec
    | _ => exact RunsCompared.throw _
  | none =>
    cases m.ops.value with
    | none => exact RunsCompared.throw _
    | some o =>
      exact ((reader_compare hreg _).1 0 _ v hrec).bind fun a b hab =>
        RunsCompared.oblivious_bind freshIdentity_oblivious fun i => RunsCompared.pure ⟨rfl, rfl, hab⟩

end Mapper

end Compare

/-! ## Reading into an instance -/

section Into

variable {S : Schema} {reg : Registry} {s : Strategy} {σ : Type} {I : Factory → Prop}
  {R : σ → σ → Prop} {stopped : σ → Prop}

/-- Runs from one factory of a reading that reports its errors in its result, under raw and under
checked access: in step, with results related by `R` and one final factory that `I` holds of; or
raw access stopped, its result as `stopped` says. -/
def StepsApart (I : Factory → Prop) (R : σ → σ → Prop) (stopped : σ → Prop)
    (p₁ p₂ : Except MapError σ × Factory) : Prop :=
  (∃ a b, p₁.1 = .ok a ∧ p₂.1 = .ok b ∧ p₁.2 = p₂.2 ∧ I p₁.2 ∧ R a b) ∨
    ∃ a, p₁.1 = .ok a ∧ stopped a

theorem StepsApart.pure {a b : σ} {f : Factory} (hf : I f) (hab : R a b) :
    StepsApart I R stopped (Factory.run (Pure.pure a) f) (Factory.run (Pure.pure b) f) :=
  .inl ⟨a, b, rfl, rfl, rfl, hf, hab⟩

/-- A comparison whose errors are caught and reported in the result: an error both give is
reported on both, and a stop as `stopped` says. -/
theorem RunsCompared.tryCatch_report {y₁ y₂ : FactoryM σ} {h₁ h₂ : MapError → σ}
    (hy : RunsCompared I R y₁ y₂) (herr : ∀ e, R (h₁ e) (h₂ e))
    (hstop : ∀ e, e.FillStop → stopped (h₁ e)) {f : Factory} (hf : I f) :
    StepsApart I R stopped (Factory.run (tryCatch y₁ fun e => Pure.pure (h₁ e)) f)
      (Factory.run (tryCatch y₂ fun e => Pure.pure (h₂ e)) f) := by
  obtain ⟨hc, hI⟩ := hy f hf
  rcases e₁ : Factory.run y₁ f with ⟨r₁, g₁⟩
  rcases e₂ : Factory.run y₂ f with ⟨r₂, g₂⟩
  rw [e₁, e₂] at hc
  rw [e₁] at hI
  cases hc with
  | error e g =>
    rw [Factory.run_tryCatch_error e₁, Factory.run_tryCatch_error e₂]
    exact .inl ⟨_, _, rfl, rfl, rfl, hI, herr e⟩
  | ok g hab =>
    rw [Factory.run_tryCatch_ok e₁, Factory.run_tryCatch_ok e₂]
    exact .inl ⟨_, _, rfl, rfl, rfl, hI, hab⟩
  | stop g r hs =>
    rw [Factory.run_tryCatch_error e₁]
    exact .inr ⟨_, rfl, hstop _ hs⟩

/-- A fold whose accumulator, once stopped, stays as it is. -/
theorem run_foldlM_stopped {step : σ → MappedProperty → FactoryM σ}
    (hstopped : ∀ a p, stopped a → step a p = Pure.pure a) {a : σ} (ha : stopped a) :
    ∀ (ps : List MappedProperty) (f : Factory), Factory.run (ps.foldlM step a) f = (.ok a, f)
  | [], _ => rfl
  | p :: ps, f => by
    rw [List.foldlM_cons, hstopped a p ha, pure_bind]
    exact run_foldlM_stopped hstopped ha ps f

/-- Folds under the two strategies that stay in step property by property, or stop on the raw
side for good. -/
theorem StepsApart.foldlM {step₁ step₂ : σ → MappedProperty → FactoryM σ}
    (hstopped : ∀ a p, stopped a → step₁ a p = Pure.pure a) :
    ∀ ps : List MappedProperty, (∀ p ∈ ps, ∀ a b f, I f → R a b →
      StepsApart I R stopped (Factory.run (step₁ a p) f) (Factory.run (step₂ b p) f)) →
    ∀ a b f, I f → R a b →
      StepsApart I R stopped (Factory.run (ps.foldlM step₁ a) f) (Factory.run (ps.foldlM step₂ b) f)
  | [], _, a, b, f, hf, hab => .inl ⟨a, b, rfl, rfl, rfl, hf, hab⟩
  | p :: ps, hstep, a, b, f, hf, hab => by
    rw [List.foldlM_cons, List.foldlM_cons]
    have hrest := StepsApart.foldlM hstopped ps fun q hq => hstep q (List.mem_cons_of_mem p hq)
    rcases e₁ : Factory.run (step₁ a p) f with ⟨r₁, g₁⟩
    rcases e₂ : Factory.run (step₂ b p) f with ⟨r₂, g₂⟩
    have h := hstep p List.mem_cons_self a b f hf hab
    rw [e₁, e₂] at h
    rcases h with ⟨a', b', rfl, rfl, hg, hg', hab'⟩ | ⟨a', rfl, hs⟩
    · dsimp only at hg hg'
      subst hg
      rw [Factory.run_bind_ok e₁, Factory.run_bind_ok e₂]
      exact hrest a' b' g₁ hg' hab'
    · rw [Factory.run_bind_ok e₁, run_foldlM_stopped hstopped hs]
      exact .inr ⟨a', rfl, hs⟩

/-- What the data read into an instance's data `x` with a mapper of the record `d?` may differ by
under the two strategies: the record's properties written apart, or, with no record, the whole
datum apart up to fills. -/
def Mapper.DataApart (S : Schema) (t : Ty) (x : Datum) : Option Descriptor → Datum → Datum → Prop
  | some d => d.WrittenApart S x
  | none => UpToFills S t

theorem Mapper.DataApart.refl (t : Ty) (x : Datum) :
    ∀ d? : Option Descriptor, Mapper.DataApart S t x d? x x
  | some _ => Descriptor.WrittenApart.target
  | none => UpToFills.refl t x

/-- Instances read into `x` with the mapper `m` under raw and under checked access: the same error
reported, both of `x`'s type and identity, with data apart as `Mapper.DataApart` says. -/
def Mapper.IntoApart (S : Schema) (m : Mapper) (x : Instance) (a b : Instance × Option MapError) :
    Prop :=
  a.2 = b.2 ∧ a.1.ty = x.ty ∧ b.1.ty = x.ty ∧ a.1.identity = x.identity ∧
    b.1.identity = x.identity ∧ Mapper.DataApart S x.ty x.datum m.descriptor a.1.datum b.1.datum

/-- The instance itself, reported alike on both sides. -/
theorem Mapper.IntoApart.report (m : Mapper) (x : Instance) (o : Option MapError) :
    m.IntoApart S x (x, o) (x, o) :=
  ⟨rfl, rfl, rfl, rfl, rfl, Mapper.DataApart.refl _ _ _⟩

/-- A reading into an instance that reports a stop at a fill. -/
def Mapper.ReportsStop (a : Instance × Option MapError) : Prop :=
  ∃ e, a.2 = some e ∧ e.FillStop

namespace Mapper

/-- Reading a map into an instance by writing in place what `dp₁` and `dp₂` read, under raw and
under checked access, from one factory. The fold over the properties stays in step, each written
property apart up to fills, until raw access reports a stop; from there on its accumulator does
not change. -/
theorem readMapIntoWith_compare {dp₁ dp₂ : MappedProperty → Value → FactoryM Datum} {m : Mapper}
    (hm : Mapper.Twins S reg s s m m)
    (hdp : ∀ d, m.descriptor = some d → ∀ p ∈ m.properties, ∀ v,
      RunsCompared (Factory.Sound S reg s) (UpToFills S p.info.ops.ty) (dp₁ p v) (dp₂ p v))
    (vm : ValueMap) (x : Instance) {f : Factory} (hf : Factory.Sound S reg s f) :
    StepsApart (Factory.Sound S reg s) (m.IntoApart S x) ReportsStop
      (Factory.run (readMapIntoWith (fun p target v => (target.put p ·) <$> dp₁ p v) m vm x) f)
      (Factory.run (readMapIntoWith (fun p target v => (target.put p ·) <$> dp₂ p v) m vm x) f) := by
  unfold readMapIntoWith
  cases hd : m.descriptor with
  | none => exact StepsApart.pure hf (IntoApart.report m x _)
  | some d =>
    dsimp only
    split
    · exact StepsApart.pure hf (IntoApart.report m x _)
    · have hsound := hm.soundLeft d hd
      refine StepsApart.foldlM ?stopped m.properties (fun p hp a b g hg hab => ?_) _ _ f hf
        (IntoApart.report m x none)
      case stopped =>
        rintro ⟨cur, _ | e⟩ p ⟨e', he, -⟩
        · cases he
        · rfl
      obtain ⟨cur₁, o⟩ := a
      obtain ⟨cur₂, o₂⟩ := b
      obtain ⟨ho, hty₁, hty₂, hid₁, hid₂, hdata⟩ := hab
      dsimp only at ho hty₁ hty₂ hid₁ hid₂ hdata
      subst ho
      rw [hd] at hdata
      cases o with
      | some e => exact StepsApart.pure hg ⟨rfl, hty₁, hty₂, hid₁, hid₂, hd ▸ hdata⟩
      | none =>
        dsimp only
        split
        · exact StepsApart.pure hg ⟨rfl, hty₁, hty₂, hid₁, hid₂, hd ▸ hdata⟩
        · rename_i v _
          have hinfo : p.info ∈ d.properties := by
            rw [← hsound.built.info]
            exact List.mem_map_of_mem hp
          simp only [bind_map_left, Target.put]
          -- each side writes what it read at the property's place, or reports the error
          refine RunsCompared.tryCatch_report ((hdp d hd p hp v).bind fun a b hab =>
            RunsCompared.pure ?_) (fun e => ⟨rfl, hty₁, hty₂, hid₁, hid₂, hd ▸ hdata⟩)
            (fun e he => ⟨_, rfl, he.within _ _⟩) hg
          exact ⟨rfl, hty₁, hty₂, hid₁, hid₂, hd ▸ hdata.write hinfo hab⟩

/-- Reading a value into an existing instance with a mapper of the factory, under raw and under
checked access from one factory. -/
theorem readValueIntoBy_compare (hreg : reg.RestoresUpToFills S) {m : Mapper}
    (hm : Mapper.Twins S reg s s m m) (hrec : S.RecordsOf reg (·.Refillable S) m.ops.ty)
    (v : Value) (x : Instance) {f : Factory} (hf : Factory.Sound S reg s f) :
    StepsApart (Factory.Sound S reg s) (m.IntoApart S x) ReportsStop
      (Factory.run (readValueIntoBy .raw m v x) f) (Factory.run (readValueIntoBy .checked m v x) f) := by
  unfold readValueIntoBy
  cases hd : m.descriptor with
  | some d =>
    cases v with
    | map vm =>
      rw [putBy_eq, putBy_eq]
      exact readMapIntoWith_compare hm (fun d' hd' p hp w => (reader_compare hreg _).2.2.2 0 m d'
        p w (hm.soundLeft d' hd') ((hm.soundLeft d' hd').recordsUnder hrec) hp) vm x hf
    | _ => exact StepsApart.pure hf (IntoApart.report m x _)
  | none =>
    cases m.ops.value with
    | none => exact StepsApart.pure hf (IntoApart.report m x _)
    | some o =>
      refine RunsCompared.tryCatch_report (((reader_compare hreg _).1 0 _ v hrec).bind
        fun a b hab => ?_) (fun e => IntoApart.report m x _) (fun e he => ⟨e, rfl, he⟩) hf
      split
      · exact RunsCompared.pure (IntoApart.report m x _)
      · rename_i hty
        have hx : x.ty = m.ops.ty := by simpa using hty
        refine RunsCompared.pure ⟨rfl, rfl, rfl, rfl, rfl, ?_⟩
        rw [hd]
        exact hx ▸ hab

end Mapper

end Into

/-! ## Twin factories -/

section Twins

variable {S : Schema} {reg : Registry} {s₁ s₂ : Strategy} {α σ : Type}

/-- The second of two twin factories is a twin of itself. -/
theorem Factory.Twins.right_self {f₁ f₂ : Factory} (ht : Factory.Twins S reg s₁ s₂ f₁ f₂) :
    Factory.Twins S reg s₂ s₂ f₂ f₂ :=
  ⟨ht.schema_right, ((Factory.shape_eq_iff.mp ht.shape).2.2.1).symm.trans ht.adapters, ht.right,
    ht.right, rfl, ht.keptRight, ht.keptRight⟩

/-- Two factories twins of one factory are twins. -/
theorem Factory.Twins.through {g₁ g₂ g : Factory} (h₁ : Factory.Twins S reg s₁ s₂ g₁ g)
    (h₂ : Factory.Twins S reg s₂ s₂ g₂ g) : Factory.Twins S reg s₁ s₂ g₁ g₂ :=
  ⟨h₁.schema, h₁.adapters, h₁.left, h₂.left, h₁.shape.trans h₂.shape.symm, h₁.keptLeft,
    h₂.keptLeft⟩

/-- The second of two twin mappers is a twin of itself. -/
theorem Mapper.Twins.right_self {m₁ m₂ : Mapper} (hm : Mapper.Twins S reg s₁ s₂ m₁ m₂) :
    Mapper.Twins S reg s₂ s₂ m₂ m₂ := by
  obtain ⟨-, hdesc, hprops, -⟩ := Mapper.shape_eq_iff.mp hm.shape
  refine ⟨rfl, hm.right, hm.right, hm.soundRight, hm.soundRight, fun hd => ?_⟩
  rw [hm.bare (hdesc.trans hd), List.map_nil] at hprops
  exact List.map_eq_nil_iff.mp hprops.symm

/-- The runs of one reading under raw access from a factory and under checked access from its
twin: the same error, or results related by `R` with the factories after still twins; or the raw
run stopped, as `stopped` says of its result. -/
def Factory.Apart (S : Schema) (reg : Registry) {β : Type} (R : α → β → Prop)
    (stopped : Except MapError α → Prop) (p₁ : Except MapError α × Factory)
    (p₂ : Except MapError β × Factory) : Prop :=
  (Outcome R p₁.1 p₂.1 ∧ Factory.Twins S reg .raw .checked p₁.2 p₂.2) ∨ stopped p₁.1

variable {f₁ f₂ : Factory} {R : α → α → Prop}

/-- A reading compared from one factory, carried to twin factories: the raw reading from `f₁`
runs as `y₁` from its twin `f₂`, and the checked reading from `f₂` as `y₂`. -/
theorem Factory.apart_of_compared {x₁ x₂ y₁ y₂ : FactoryM α}
    (ht : Factory.Twins S reg .raw .checked f₁ f₂)
    (h₁ : RunsAgree (Factory.Twins S reg .raw .checked) Eq x₁ y₁)
    (h₂ : RunsAgree (Factory.Twins S reg .checked .checked) Eq x₂ y₂)
    (hc : Compared R (Factory.run y₁ f₂) (Factory.run y₂ f₂)) :
    Factory.Apart S reg R (fun r => ∃ e, r = .error e ∧ e.FillStop) (Factory.run x₁ f₁)
      (Factory.run x₂ f₂) := by
  obtain ⟨ho₁, ht₁⟩ := h₁ f₁ f₂ ht
  obtain ⟨ho₂, ht₂⟩ := h₂ f₂ f₂ ht.right_self
  simp only [HoldsFactory.run_factoryM, Outcome.eq_iff] at ho₁ ho₂ ht₁ ht₂
  unfold Factory.Apart
  rw [ho₁, ho₂]
  rcases e₁ : Factory.run y₁ f₂ with ⟨r₁, g₁⟩
  rcases e₂ : Factory.run y₂ f₂ with ⟨r₂, g₂⟩
  rw [e₁, e₂] at hc
  rw [e₁] at ht₁
  rw [e₂] at ht₂
  cases hc with
  | error e g => exact .inl ⟨.error e, ht₁.through ht₂⟩
  | ok g hab => exact .inl ⟨.ok hab, ht₁.through ht₂⟩
  | stop g r hs => exact .inr ⟨_, rfl, hs⟩

/-- A reading that reports its errors, compared from one factory, carried to twin factories. -/
theorem Factory.apart_of_stepsApart {x₁ x₂ y₁ y₂ : FactoryM σ} {I : Factory → Prop}
    {R : σ → σ → Prop} {stopped : σ → Prop} (ht : Factory.Twins S reg .raw .checked f₁ f₂)
    (h₁ : RunsAgree (Factory.Twins S reg .raw .checked) Eq x₁ y₁)
    (h₂ : RunsAgree (Factory.Twins S reg .checked .checked) Eq x₂ y₂)
    (hc : StepsApart I R stopped (Factory.run y₁ f₂) (Factory.run y₂ f₂)) :
    Factory.Apart S reg R (fun r => ∃ a, r = .ok a ∧ stopped a) (Factory.run x₁ f₁)
      (Factory.run x₂ f₂) := by
  obtain ⟨ho₁, ht₁⟩ := h₁ f₁ f₂ ht
  obtain ⟨ho₂, ht₂⟩ := h₂ f₂ f₂ ht.right_self
  simp only [HoldsFactory.run_factoryM, Outcome.eq_iff] at ho₁ ho₂ ht₁ ht₂
  unfold Factory.Apart
  rw [ho₁, ho₂]
  rcases hc with ⟨a, b, ha, hb, hg, -, hab⟩ | ⟨a, ha, hs⟩
  · rw [ha, hb]
    rw [hg] at ht₁
    exact .inl ⟨.ok hab, ht₁.through ht₂⟩
  · exact .inr ⟨a, ha, hs⟩

end Twins

/-- Raw and checked access differ only in how fresh records are filled. Take twin factories, the
first under raw and the second under checked access, a registry whose chains keep apart only what
was apart, and the twin mappers the factories give for a type every record of whose reach is laid
out field by field, with a constructor and a default instance. Writing any instance gives the
same result and the same output under both. Reading a value, into a fresh instance or into an
existing one, ends in one of three ways: the same error; results that agree except at the fields
of fresh records, which raw access fills with their own defaults and checked access takes from
the record's default instance, the factories after still twins; or raw access stopped at a field
it has no default for. Read into an existing instance, only the properties written differ, and
only inside the fresh records they hold. -/
theorem raw_and_checked_compare {σ : Type} {F : Format σ} (hF : F.HandsBackObjects) {S : Schema}
    {reg : Registry} (hreg : reg.RestoresUpToFills S) {f₁ f₂ : Factory}
    (ht : Factory.Twins S reg .raw .checked f₁ f₂) {m₁ m₂ : Mapper}
    (hm : Mapper.Twins S reg .raw .checked m₁ m₂)
    (hrec : S.RecordsOf reg (·.Refillable S) m₁.ops.ty) :
    (∀ (x : Instance) (out : σ),
      (WriteM.run (Mapper.write F m₁ x) f₁ out).1 = (WriteM.run (Mapper.write F m₂ x) f₂ out).1 ∧
      (WriteM.run (Mapper.write F m₁ x) f₁ out).2.2 =
        (WriteM.run (Mapper.write F m₂ x) f₂ out).2.2) ∧
    (∀ v : Value, Factory.Apart S reg (Instance.UpToFills S)
      (fun r => ∃ e, r = .error e ∧ e.FillStop)
      (Factory.run (m₁.readValue v) f₁) (Factory.run (m₂.readValue v) f₂)) ∧
    (∀ (v : Value) (x : Instance), Factory.Apart S reg (m₁.IntoApart S x)
      (fun r => ∃ a, r = .ok a ∧ Mapper.ReportsStop a)
      (Factory.run (m₁.readValueInto v x) f₁) (Factory.run (m₂.readValueInto v x) f₂)) := by
  obtain ⟨hops, hdesc, -, -⟩ := Mapper.shape_eq_iff.mp hm.shape
  have hsafe : S.SafeType reg m₁.ops.ty :=
    Schema.safeType_iff_recordsOf.mpr (hrec.mono fun _ h => h.exhaustive)
  have hm₂ := hm.right_self
  have hrec₂ : S.RecordsOf reg (·.Refillable S) m₂.ops.ty := hops ▸ hrec
  have hsafe₂ : S.SafeType reg m₂.ops.ty := hops ▸ hsafe
  refine ⟨fun x out => ?_, fun v => ?_, fun v x => ?_⟩
  · obtain ⟨hout, hw⟩ := Mapper.write_twins hF hm hsafe x (f₁, out) (f₂, out) ⟨ht, rfl⟩
    exact ⟨Outcome.eq_iff.mp hout, hw.2⟩
  · exact Factory.apart_of_compared ht (Mapper.readValue_twins hm hsafe v)
      (Mapper.readValue_twins hm₂ hsafe₂ v)
      ((Mapper.readValueBy_compare hreg hm₂ hrec₂ v f₂ ht.right_self).1)
  · have hinto : m₁.IntoApart S x = m₂.IntoApart S x := by
      unfold Mapper.IntoApart
      rw [hdesc]
    rw [hinto]
    exact Factory.apart_of_stepsApart ht (Mapper.readValueInto_twins hm hsafe v x)
      (Mapper.readValueInto_twins hm₂ hsafe₂ v x)
      (Mapper.readValueIntoBy_compare hreg hm₂ hrec₂ v x ht.right_self)

/-- The settings record of the catalogue, on fresh factories under the empty registry: laid out
field by field, with a constructor and a default instance whose fields are not the properties'
own defaults. -/
theorem settings_raw_and_checked_compare :
    ∃ m₁ m₂ g₁ g₂,
      Factory.run (Factory.createOrGet (Catalogue.declared "Settings"))
          { schema := Catalogue.schema, strategy := .raw } = (.ok m₁, g₁) ∧
      Factory.run (Factory.createOrGet (Catalogue.declared "Settings"))
          { schema := Catalogue.schema, strategy := .checked } = (.ok m₂, g₂) ∧
      JsonFormat.format.HandsBackObjects ∧ ({} : Registry).RestoresUpToFills Catalogue.schema ∧
      Factory.Twins Catalogue.schema {} .raw .checked g₁ g₂ ∧
      Mapper.Twins Catalogue.schema {} .raw .checked m₁ m₂ ∧
      Catalogue.schema.RecordsOf {} (·.Refillable Catalogue.schema) m₁.ops.ty ∧
      ((∀ (x : Instance) (out : String),
        (WriteM.run (Mapper.write JsonFormat.format m₁ x) g₁ out).1 =
          (WriteM.run (Mapper.write JsonFormat.format m₂ x) g₂ out).1 ∧
        (WriteM.run (Mapper.write JsonFormat.format m₁ x) g₁ out).2.2 =
          (WriteM.run (Mapper.write JsonFormat.format m₂ x) g₂ out).2.2) ∧
      (∀ v : Value, Factory.Apart Catalogue.schema {} (Instance.UpToFills Catalogue.schema)
        (fun r => ∃ e, r = .error e ∧ e.FillStop)
        (Factory.run (m₁.readValue v) g₁) (Factory.run (m₂.readValue v) g₂)) ∧
      (∀ (v : Value) (x : Instance), Factory.Apart Catalogue.schema {}
        (m₁.IntoApart Catalogue.schema x) (fun r => ∃ a, r = .ok a ∧ Mapper.ReportsStop a)
        (Factory.run (m₁.readValueInto v x) g₁) (Factory.run (m₂.readValueInto v x) g₂))) := by
  -- the settings record, wherever it is looked up: refillable, of its type, with flat properties
  have hcheck : ∀ o : Option Descriptor, (o.all fun d => d.exhaustive && d.constructible &&
      d.ty == Catalogue.declared "Settings" && Uninit.fieldCount d == 5 &&
      d.properties.all fun p => p.ops.ty == Catalogue.u8 || p.ops.ty == .string ||
        p.ops.ty == Catalogue.percent || p.ops.ty == .f32) = true →
      ∀ d, o = some d → d.ty = Catalogue.declared "Settings" ∧
        Catalogue.schema.RecordsUnder {} (·.Refillable Catalogue.schema) d := by
    rintro o ho d rfl
    simp only [Option.all_some, Bool.and_eq_true, beq_iff_eq, Bool.or_eq_true,
      List.all_eq_true] at ho
    obtain ⟨⟨⟨⟨hex, hcon⟩, hty⟩, hcount⟩, htys⟩ := ho
    have hdef : Catalogue.schema.default? d.ty = some (.record [.int 50, .string "untitled",
        .int 75, .f32 ⟨0x3F000000⟩, .int 7]) := by
      rw [hty]
      rfl
    have hleaf : ([Ty.string, Catalogue.percent, .f32].all fun t =>
        (Catalogue.schema.descriptor? t).isNone &&
          (Factory.descriptorOf Catalogue.schema t).isNone) = true := by
      decide +kernel
    simp only [List.all_cons, List.all_nil, Bool.and_true, Bool.and_eq_true,
      Option.isNone_iff_eq_none] at hleaf
    obtain ⟨⟨hs₁, hs₂⟩, ⟨hp₁, hp₂⟩, ⟨hf₁, hf₂⟩⟩ := hleaf
    refine ⟨hty, Schema.recordsUnder_flat ⟨hex, hcon, _, hdef, by rw [hcount]; rfl⟩
      fun p hp d₁ hl => ?_⟩
    rcases htys p hp with ((h | h) | h) | h <;> rw [h] at hl
    · exact Schema.not_leads_int hl
    · cases hl with
      | record h' => simp [hs₁] at h'
      | carried h' => simp [hs₂] at h'
    · cases hl with
      | record h' => simp [hp₁] at h'
      | carried h' => simp [hp₂] at h'
    · cases hl with
      | record h' => simp [hf₁] at h'
      | carried h' => simp [hf₂] at h'
  have hcarried := hcheck (Factory.descriptorOf Catalogue.schema (Catalogue.declared "Settings"))
    (by decide +kernel)
  have hrecord := hcheck (Catalogue.schema.descriptor? (Catalogue.declared "Settings"))
    (by decide +kernel)
  have hrec : Catalogue.schema.RecordsOf {} (·.Refillable Catalogue.schema)
      (Catalogue.declared "Settings") := by
    intro d₀ hl
    cases hl with
    | record h => exact (hrecord d₀ h).2
    | carried h => exact (hcarried d₀ h).2
  obtain ⟨d, hd⟩ : ∃ d, Factory.descriptorOf Catalogue.schema (Catalogue.declared "Settings") =
      some d := Option.isSome_iff_exists.mp (by decide +kernel)
  -- the two fresh factories make twin mappers of the settings type
  obtain ⟨m₁, g₁, h₁⟩ := Factory.run_ok_of_isOk (x := Factory.createOrGet (Catalogue.declared "Settings"))
    (f := { ({ schema := Catalogue.schema } : Factory) with strategy := .raw }) (by decide +kernel)
  obtain ⟨m₂, g₂, h₂⟩ := Factory.run_ok_of_isOk (x := Factory.createOrGet (Catalogue.declared "Settings"))
    (f := { ({ schema := Catalogue.schema } : Factory) with strategy := .checked }) (by decide +kernel)
  have htwins := Factory.createOrGet_twins
    (Schema.safeType_iff_recordsOf.mpr (hrec.mono fun _ h => h.exhaustive))
    (fun d' hd' => (hcarried d' hd').1) _ _
    (Factory.fresh_twins (f := { schema := Catalogue.schema }) rfl .raw .checked)
  simp only [HoldsFactory.run_factoryM, h₁, h₂] at htwins
  obtain ⟨hout, ht⟩ := htwins
  cases hout with
  | ok hm =>
    have hty₁ : m₁.ops.ty = Catalogue.declared "Settings" :=
      Factory.createOrGet_fresh_ty (f := { ({ schema := Catalogue.schema } : Factory) with
        strategy := .raw }) rfl hd (by rw [h₁])
    exact ⟨m₁, m₂, g₁, g₂, h₁, h₂, JsonFormat.handsBackObjects,
      Registry.restoresUpToFills_empty _, ht, hm, hty₁ ▸ hrec,
      raw_and_checked_compare JsonFormat.handsBackObjects (Registry.restoresUpToFills_empty _) ht
        hm (hty₁ ▸ hrec)⟩

end ObjectMapping
