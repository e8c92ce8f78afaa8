import ObjectMapping.Proofs.ChainResolution
import ObjectMapping.Proofs.PropertyRead
import ObjectMapping.Proofs.JsonScan
import ObjectMapping.Proofs.WrapperMapper
import ObjectMapping.Catalogue.Adapters
import ObjectMapping.Mapper.Write

/-!
# Applying adapter chains

A chain that resolution gives lines up: its first adapter consumes the declared type, each
next one the type the one before produces, and the last produces the terminal type
(`Chain.Linked`, from `Registry.Walk.linked`). The type checks of `Adapter.adaptInstance` and
`Adapter.restoreInstance` then always pass, and what is left is the composition of the adapters'
own functions.

* `Chain.Composes`: adapting an instance of the declared type applies the adapters first to
  last, stopping at the first failure; restoring an instance of the terminal type applies their
  inverses last to first, stopping at the first failure; an empty chain cannot adapt and
  restores to its input; and adapters that undo their own adaptation make a chain that does.
* `MappedProperty.WritesBack`: the compiled setter of a property, given the value its compiled
  getter read from an instance, writes that instance's field into any instance of the owner,
  once the terminal type reads the value back as the data it was written from.
* `adapter_chains_compose`: every resolved chain composes, and every property whose location
  is its own and whose chain is resolved for its type writes back what it read.
-/

namespace ObjectMapping

/-- An instance as a value: its type and its data, whichever instance it is. -/
def Instance.value (x : Instance) : Ty × Datum := (x.ty, x.datum)

namespace Chain

/-- The adapters line up from `t`: each consumes the type the one before it produces. -/
def Linked : Ty → List Adapter → Prop
  | _, [] => True
  | t, a :: as => a.input = t ∧ Linked a.output as

/-- The type the adapters lead to from `t`. -/
def reach : Ty → List Adapter → Ty
  | t, [] => t
  | _, a :: as => reach a.output as

/-- Every adapter of the chain restores what it adapted. -/
def Inverts (c : Chain) : Prop :=
  ∀ a ∈ c.adapters, ∀ v w, a.adapt v = .ok w → a.restore w = .ok v

/-- What a chain resolved from `declared` does to instances. -/
structure Composes (declared : Ty) (c : Chain) : Prop where
  /-- Without adapters, adapting fails. -/
  adapt_nil : c.adapters = [] →
    ∀ x, c.adapt x = .error (.custom "adapt called on an empty adapter chain")
  /-- Without adapters, restoring gives the instance back. -/
  restore_nil : c.adapters = [] → ∀ y, c.restore y = .ok y
  /-- Adapting an instance of the declared type applies the adapters first to last and fails
  with the first that fails. -/
  adapt_eq : c.adapters ≠ [] → ∀ x, x.ty = declared →
    (c.adapt x).map Instance.value =
      (c.adapters.foldlM (fun d (a : Adapter) => a.adapt d) x.datum).map (c.terminal.ty, ·)
  /-- Restoring an instance of the terminal type applies the inverses last to first and fails
  with the first that fails. -/
  restore_eq : ∀ y, y.ty = c.terminal.ty →
    (c.restore y).map Instance.value =
      (c.adapters.foldrM (fun (a : Adapter) d => a.restore d) y.datum).map (declared, ·)
  /-- When every adapter restores what it adapted, restoring what the chain adapted gives the
  instance back, and a failure is the failure of adapting. -/
  restore_adapt : c.Inverts → ∀ x, x.ty = declared →
    (c.adapt x >>= c.restore).map Instance.value = (c.adapt x).map fun _ => x.value

end Chain

/-- The property's setter, given the value its getter read from `x`, writes `x`'s field into
any instance of the owner, provided the terminal type reads that value back as the data the
adapters gave for the field; the factory is left as that read left it. -/
def MappedProperty.WritesBack (S : Schema) (m : Mapper) (p : MappedProperty) : Prop :=
  ∀ (x : Instance) (v : Value) (d : Datum), m.readProperty S p x = .ok v →
    p.chain.adapters.foldlM (fun d (a : Adapter) => a.adapt d) (x.datum.field p.info.position) =
      .ok d →
    ∀ (dec : Ty → Value → FactoryM Datum) (f f' : Factory),
      Factory.run (dec p.chain.terminal.ty v) f = (.ok d, f') →
    ∀ z : Instance, z.ty = x.ty →
      Factory.run (Mapper.setPropertyWith dec m p (.existing z) v) f =
        (.ok (.existing
          { z with datum := z.datum.setField p.info.position (x.datum.field p.info.position) }), f')

namespace Adapter

theorem adaptInstance_of_input {a : Adapter} {x : Instance} (hx : x.ty = a.input) :
    a.adaptInstance x = (fun d => ⟨a.output, d, .moved x.identity⟩) <$> a.adapt x.datum := by
  simp [adaptInstance, hx]

theorem restoreInstance_of_output {a : Adapter} {y : Instance} (hy : y.ty = a.output) :
    a.restoreInstance y = (fun d => ⟨a.input, d, .moved y.identity⟩) <$> a.restore y.datum := by
  simp [restoreInstance, hy]

end Adapter

namespace Chain

/-- Adapting along lined-up adapters is the composition of their functions on the data. -/
theorem foldlM_adaptInstance {as : List Adapter} {t : Ty} (hl : Linked t as) {x : Instance}
    (hx : x.ty = t) :
    (as.foldlM (fun v (a : Adapter) => a.adaptInstance v) x).map Instance.value =
      (as.foldlM (fun d (a : Adapter) => a.adapt d) x.datum).map (reach t as, ·) := by
  induction as generalizing t x with
  | nil =>
    obtain ⟨ty, d, i⟩ := x
    subst hx
    rfl
  | cons a as ih =>
    obtain ⟨hin, hrest⟩ := hl
    rw [List.foldlM_cons, List.foldlM_cons, Adapter.adaptInstance_of_input (hx.trans hin.symm)]
    cases a.adapt x.datum with
    | error e => rfl
    | ok d => exact ih hrest rfl

/-- Restoring along lined-up adapters is the composition of their inverses, last first. -/
theorem foldrM_restoreInstance {as : List Adapter} {t : Ty} (hl : Linked t as) {y : Instance}
    (hy : y.ty = reach t as) :
    (as.foldrM (fun (a : Adapter) v => a.restoreInstance v) y).map Instance.value =
      (as.foldrM (fun (a : Adapter) d => a.restore d) y.datum).map (t, ·) := by
  induction as generalizing t with
  | nil =>
    obtain ⟨ty, d, i⟩ := y
    subst hy
    rfl
  | cons a as ih =>
    obtain ⟨hin, hrest⟩ := hl
    have ih' := ih hrest hy
    rw [List.foldrM_cons, List.foldrM_cons]
    -- the rest of the chain restores to an instance of `a`'s output, or fails for both
    cases hz : as.foldrM (fun (a : Adapter) v => a.restoreInstance v) y with
    | error e =>
      rw [hz] at ih'
      cases hd : as.foldrM (fun (a : Adapter) d => a.restore d) y.datum with
      | error e' => rw [hd] at ih'; cases ih'; rfl
      | ok d => rw [hd] at ih'; cases ih'
    | ok z =>
      rw [hz] at ih'
      cases hd : as.foldrM (fun (a : Adapter) d => a.restore d) y.datum with
      | error e' => rw [hd] at ih'; cases ih'
      | ok d =>
        rw [hd] at ih'
        obtain ⟨hzty, hzd⟩ : z.ty = a.output ∧ z.datum = d := by
          simpa [Except.map, Instance.value] using ih'
        simp only [bind, Except.bind, Adapter.restoreInstance_of_output hzty, hzd, ← hin]
        cases a.restore d <;> rfl

/-- Restoring undoes adapting along lined-up adapters that each undo their own adaptation. -/
theorem foldrM_restore_foldlM_adapt {as : List Adapter} (hinv : ∀ a ∈ as, ∀ v w,
    a.adapt v = .ok w → a.restore w = .ok v) {d w : Datum}
    (h : as.foldlM (fun d (a : Adapter) => a.adapt d) d = .ok w) :
    as.foldrM (fun (a : Adapter) d => a.restore d) w = .ok d := by
  induction as generalizing d with
  | nil =>
    simp only [List.foldlM_nil, List.foldrM_nil, Json.pure_eq_ok, Except.ok.injEq] at h ⊢
    exact h.symm
  | cons a as ih =>
    rw [List.foldlM_cons] at h
    obtain ⟨d₁, h₁, hrest⟩ := Json.bind_eq_ok.mp h
    have hback := ih (fun b hb => hinv b (List.mem_cons_of_mem _ hb)) hrest
    rw [List.foldrM_cons, hback]
    exact hinv a List.mem_cons_self d d₁ h₁

theorem restore_eq_foldrM (c : Chain) (y : Instance) :
    c.restore y = c.adapters.foldrM (fun (a : Adapter) v => a.restoreInstance v) y := by
  simp [restore, List.foldlM_reverse]

theorem adapt_eq_foldlM {c : Chain} (hne : c.adapters ≠ []) (x : Instance) :
    c.adapt x = c.adapters.foldlM (fun v (a : Adapter) => a.adaptInstance v) x := by
  unfold adapt
  cases hc : c.adapters with
  | nil => exact absurd hc hne
  | cons a as => simp [List.foldlM_cons]

end Chain

namespace Registry.Walk

/-- The adapters of a walk line up from where it starts to where it ends. -/
theorem linked {r : Registry} {t u : Ty} {as : List Adapter} (hw : r.Walk t as u) :
    Chain.Linked t as ∧ Chain.reach t as = u := by
  induction as generalizing t with
  | nil => exact ⟨trivial, (walk_nil.mp hw).symm⟩
  | cons a as ih =>
    obtain ⟨ha, hrest⟩ := walk_cons.mp hw
    exact ⟨⟨(find?_some ha).1, (ih hrest).1⟩, (ih hrest).2⟩

end Registry.Walk

namespace Registry

/-- A resolved chain lines up from the declared type to its terminal type. -/
theorem resolve_linked {S : Schema} {r : Registry} {declared : TypeOps} {c : Chain}
    (hc : r.resolve S declared = .ok c) :
    Chain.Linked declared.ty c.adapters ∧ Chain.reach declared.ty c.adapters = c.terminal.ty ∧
      (c.adapters = [] → c.terminal = declared) := by
  obtain ⟨u, hw, -, -, hterm⟩ := resolve_eq_ok S r declared hc
  obtain ⟨hl, hreach⟩ := hw.linked
  refine ⟨hl, ?_, fun hnil => by simpa [hnil] using hterm⟩
  cases hnil : c.adapters with
  | nil => simp only [hnil, List.isEmpty_nil, if_true] at hterm; rw [hterm]; rfl
  | cons a as =>
    simp only [hnil, List.isEmpty_cons, Bool.false_eq_true, if_false] at hterm
    rw [hterm, ← hnil, hreach]
    rfl

end Registry

/-- Every chain resolution gives composes its adapters forward and their inverses backward. -/
theorem Registry.resolve_composes {S : Schema} {r : Registry} {declared : TypeOps} {c : Chain}
    (hc : r.resolve S declared = .ok c) : c.Composes declared.ty := by
  obtain ⟨hl, hreach, hnil⟩ := resolve_linked hc
  have restore_eq : ∀ y : Instance, y.ty = c.terminal.ty →
      (c.restore y).map Instance.value =
        (c.adapters.foldrM (fun (a : Adapter) d => a.restore d) y.datum).map (declared.ty, ·) := by
    intro y hy
    rw [Chain.restore_eq_foldrM]
    exact Chain.foldrM_restoreInstance hl (hy.trans hreach.symm)
  have adapt_eq : c.adapters ≠ [] → ∀ x : Instance, x.ty = declared.ty →
      (c.adapt x).map Instance.value =
        (c.adapters.foldlM (fun d (a : Adapter) => a.adapt d) x.datum).map (c.terminal.ty, ·) := by
    intro hne x hx
    rw [Chain.adapt_eq_foldlM hne, ← hreach]
    exact Chain.foldlM_adaptInstance hl hx
  refine ⟨fun hc x => by simp [Chain.adapt, hc], fun hc y => by simp [Chain.restore, hc],
    adapt_eq, restore_eq, ?_⟩
  intro hinv x hx
  cases hy : c.adapt x with
  | error e => rfl
  | ok y =>
    by_cases hne : c.adapters = []
    · simp [Chain.adapt, hne] at hy
    · -- the adapted instance is of the terminal type, with the composed data
      have hval := adapt_eq hne x hx
      rw [hy] at hval
      obtain ⟨w, hw, hyv⟩ := Json.map_eq_ok.mp hval.symm
      have hyty : y.ty = c.terminal.ty := congrArg Prod.fst hyv.symm
      have hyd : y.datum = w := congrArg Prod.snd hyv.symm
      have hback := restore_eq y hyty
      rw [hyd, Chain.foldrM_restore_foldlM_adapt hinv hw] at hback
      obtain ⟨z, hz, hzv⟩ := Json.map_eq_ok.mp hback
      have hzx : z.value = x.value := by rw [hzv, Instance.value, hx]
      simp [hz, Except.map, hzx]

namespace Strategy

/-- What a passed owner check establishes: under raw access a valid location and an instance
of the location's record, under checked access an instance of the property's owner. -/
theorem checkOwner_ok {s : Strategy} {loc : Location} {x : Instance}
    (h : s.checkOwner loc x = .ok ()) :
    (s = .raw → validRaw loc = true ∧ x.ty = loc.owner.ty) ∧
      (s = .checked → x.ty = loc.property.owner) := by
  cases s with
  | raw =>
    refine ⟨fun _ => ?_, fun h' => (by cases h')⟩
    by_cases hvalid : validRaw loc = true
    · by_cases hty : (x.ty == loc.owner.ty) = true
      · exact ⟨hvalid, beq_iff_eq.mp hty⟩
      · simp [checkOwner, checkRaw, hvalid, hty] at h
    · simp [checkOwner, checkRaw, hvalid] at h
  | checked =>
    refine ⟨fun h' => (by cases h'), fun _ => ?_⟩
    by_cases hty : (x.ty == loc.property.owner) = true
    · exact beq_iff_eq.mp hty
    · simp [checkOwner, hty] at h

end Strategy

namespace Mapper

/-- A getter that reads an instance has passed the owner check on it, and a property without
adapters that it reads has a type with a value representation. -/
theorem readProperty_ok {S : Schema} {m : Mapper} {p : MappedProperty} {x : Instance} {v : Value}
    (h : m.readProperty S p x = .ok v) :
    m.strategy.checkOwner p.location x = .ok () ∧
      (p.chain.isEmpty → p.location.property.ops.value.isSome) := by
  constructor
  · cases hc : m.strategy.checkOwner p.location x with
    | error e => rw [readProperty_of_checkOwner hc] at h; cases h
    | ok u => rfl
  · intro hempty
    unfold readProperty Strategy.getter at h
    simp only [hempty, if_true] at h
    cases hv : p.location.property.ops.value with
    | some o => rfl
    | none =>
      -- without a value representation the getter fails after the reference
      cases hr : m.strategy.reference p.location x with
      | error e => simp [hr, bind, Except.bind] at h
      | ok y => simp [hr, hv, bind, Except.bind] at h

/-- A property whose chain is resolved for its type and restores what it adapts reads back the
data its adapters were given, once the terminal type reads the value as the adapters' result. -/
theorem run_decodeProperty {S : Schema} {r : Registry} {p : MappedProperty}
    (hres : r.resolve S p.info.ops = .ok p.chain) (hinv : p.chain.Inverts)
    (hval : p.chain.isEmpty → p.info.ops.value.isSome) {d₀ d : Datum}
    (hfold : p.chain.adapters.foldlM (fun d (a : Adapter) => a.adapt d) d₀ = .ok d)
    {dec : Ty → Value → FactoryM Datum} {f f' : Factory} {v : Value}
    (hdec : Factory.run (dec p.chain.terminal.ty v) f = (.ok d, f')) :
    Factory.run (decodeProperty dec p v) f = (.ok d₀, f') := by
  obtain ⟨-, -, hnil⟩ := Registry.resolve_linked hres
  unfold decodeProperty incoming
  by_cases hempty : p.chain.isEmpty = true
  · -- no adapters: the terminal is the declared type, read by its value representation
    have hadapters : p.chain.adapters = [] := List.isEmpty_iff.mp hempty
    have hterm := hnil hadapters
    obtain ⟨o, ho⟩ := Option.isSome_iff_exists.mp (hval hempty)
    rw [hadapters, List.foldlM_nil, Json.pure_eq_ok, Except.ok.injEq] at hfold
    subst hfold
    rw [hterm] at hdec
    simp only [hempty, if_true, Strategy.intoBoxed, ho]
    rw [Factory.run_bind_ok (Factory.run_bind_ok hdec _) _]
    simp
  · -- adapters: the terminal type's data is restored through them to the field's data
    have hcomp := Registry.resolve_composes hres
    have hback := Chain.foldrM_restore_foldlM_adapt hinv hfold
    have hrestore := hcomp.restore_eq ⟨p.chain.terminal.ty, d, .sizeless⟩ rfl
    rw [hback] at hrestore
    obtain ⟨y, hy, hyv⟩ := Json.map_eq_ok.mp hrestore
    have hyty : y.ty = p.info.ops.ty := congrArg Prod.fst hyv
    have hyd : y.datum = d₀ := congrArg Prod.snd hyv
    simp only [hempty, Bool.false_eq_true, if_false, bind_assoc]
    rw [Factory.run_bind_ok hdec, Factory.run_bind_ok (by rw [Factory.run_lift, hy])]
    simp [hyty, hyd]

/-- The setter of a property whose location is its own, and whose chain is resolved for its
type and restores what it adapts, writes back what its getter read. -/
theorem writesBack {S : Schema} {r : Registry} {m : Mapper} {p : MappedProperty}
    (hprop : p.location.property = p.info) (hres : r.resolve S p.info.ops = .ok p.chain)
    (hinv : p.chain.Inverts) : p.WritesBack S m := by
  intro x v d hget hfold dec f f' hdec z hz
  obtain ⟨hown, hval⟩ := readProperty_ok hget
  have hread := run_decodeProperty hres hinv (by rwa [hprop] at hval) hfold hdec
  -- both strategies store the data the property decodes at its position
  have hset : Mapper.setPropertyWith dec m p (.existing z) v =
      ((Target.existing z).put p ·) <$> decodeProperty dec p v := by
    cases hs : m.strategy with
    | raw =>
      obtain ⟨hvalid, hty⟩ := (Strategy.checkOwner_ok (hs ▸ hown)).1 rfl
      exact setPropertyWith_raw_put hs hvalid hprop
        (show (Target.existing z).ty = p.location.owner.ty from hz.trans hty) v
    | checked =>
      have hty := (Strategy.checkOwner_ok (hs ▸ hown)).2 rfl
      exact setPropertyWith_checked_put hs hprop (by rw [hz, hty, hprop]) v
  rw [hset, Factory.run_map, hread]
  rfl

end Mapper

/-- Adapter chains compose forward and invert backward. Every chain that resolution gives applies
its adapters first to last when it adapts and their inverses last to first when it restores,
each failing with the first step that fails; without adapters it cannot adapt and restores to
its input; and when every adapter restores what it adapted, the chain does too. A property whose
location is its own and whose chain is resolved for its type writes back, through its setter,
what its getter read, once the terminal type reads that value back as the adapters' result. -/
theorem adapter_chains_compose (S : Schema) (r : Registry) :
    (∀ declared c, r.resolve S declared = .ok c → c.Composes declared.ty) ∧
      ∀ (m : Mapper) (p : MappedProperty), p.location.property = p.info →
        r.resolve S p.info.ops = .ok p.chain → p.chain.Inverts → p.WritesBack S m :=
  ⟨fun _ _ hc => Registry.resolve_composes hc,
    fun _ _ hprop hres hinv => Mapper.writesBack hprop hres hinv⟩

/-- A `Point` property adapted to a pair of integers by `PointToPair`. -/
def pointPairProperty : MappedProperty :=
  let info : PropertyInfo :=
    { owner := Catalogue.declared "Pointy", name := "at", rename := none, index := 0, position := 0
      offset := none, ops := Catalogue.schema.typeOps Catalogue.point, volatile := false
      nullable := false, adapted := false }
  { info, name := "at", kind := .array, nullable := false
    chain := ⟨[Catalogue.pointToPair], Catalogue.schema.typeOps (.array Catalogue.i32 2)⟩
    location := ⟨default, info, 0, 0⟩ }

/-- `PointToPair` restores every point it adapted, so the `Point` property it adapts writes back
what it reads, under any mapper. -/
theorem point_pair_writes_back :
    pointPairProperty.location.property = pointPairProperty.info ∧
      (⟨[Catalogue.pointToPair]⟩ : Registry).resolve Catalogue.schema pointPairProperty.info.ops =
        .ok pointPairProperty.chain ∧
      pointPairProperty.chain.Inverts ∧
      pointPairProperty.WritesBack Catalogue.schema
        ⟨Catalogue.schema.typeOps (Catalogue.declared "Pointy"), none, [pointPairProperty], .checked, 0⟩ := by
  have hinv : pointPairProperty.chain.Inverts := by
    intro a ha v w h
    obtain rfl : a = Catalogue.pointToPair := List.mem_singleton.mp ha
    dsimp only [Catalogue.pointToPair] at h ⊢
    split at h
    · cases h
      rfl
    · cases h
  have hres : (⟨[Catalogue.pointToPair]⟩ : Registry).resolve Catalogue.schema
      pointPairProperty.info.ops = .ok pointPairProperty.chain := rfl
  exact ⟨rfl, hres, hinv, (adapter_chains_compose _ _).2 _ _ rfl hres hinv⟩

end ObjectMapping
