import ObjectMapping.Proofs.WrittenBits
import ObjectMapping.Proofs.FactoryRun

/-!
# Raw writes to an unfinished instance

Raw access allocates a record as storage of its own, with no field written, and then writes it
field by field through setters, any number of times and in any order, before finishing it or
dropping it. Each write that succeeds fills the field of one property and sets the property's
bit; a write that fails changes nothing.

* `Strategy.rawSetter_writes`: what one raw write does to an unfinished instance, at a location
  of a property of a record of the schema (its number and offset may have been changed on the
  way: the check on the location refuses all but the property's own).
* `Uninit.rawWrites`: a sequence of writes as a factory runs them, with what each write stored
  and what it replaced. `Uninit.rawWrites_accounts` is the run's invariant: the bits track the
  slots, and every value stored is, once, either replaced by a later write or still owned.
* `raw_allocation_releases_once`: from allocation to finishing or dropping, every value stored
  in the storage is released exactly once, and finishing succeeds only with every field written
  (`Uninit.WriteLog.ReleasesOnce`).
-/

namespace ObjectMapping

open Json

namespace Strategy

variable {loc : Location} {u : Uninit} {t : Target}

/-- A store into an unfinished instance that succeeds found the owner of the location's record
and wrote the property's field, setting the location's bit. -/
theorem store_uninit {x : Instance} (h : store loc (.uninit u) x = .ok t) :
    u.descriptor.ty = loc.owner.ty ∧
      t = .uninit (u.put loc.index loc.property.position x.datum) := by
  unfold store at h
  simp only at h
  by_cases howner : u.descriptor.ty = loc.owner.ty
  · by_cases hty : x.ty = loc.property.ops.ty
    · simp [howner, hty] at h
      subst h
      exact ⟨howner, by simp [Uninit.put]⟩
    · simp [howner, hty] at h
  · simp [howner] at h

theorem storePrimitive_uninit {d : Datum} (h : storePrimitive loc (.uninit u) d = .ok t) :
    u.descriptor.ty = loc.owner.ty ∧ t = .uninit (u.put loc.index loc.property.position d) := by
  rw [← store_primitive loc _ d u.identity] at h
  exact store_uninit h

theorem run_ofExcept {α : Type} {e : Except MapError α} {f f' : Factory} {a : α}
    (h : Factory.run (MonadExcept.ofExcept e : FactoryM α) f = (.ok a, f')) : e = .ok a := by
  cases e with
  | error e => cases h
  | ok b =>
    cases h
    rfl

theorem checkRaw_eq_ok : checkRaw loc = .ok () ↔ validRaw loc = true := by
  unfold checkRaw
  by_cases hv : validRaw loc = true <;> simp [hv]

/-- A raw write to an unfinished instance that succeeds passed the check on its location, found
the owner of the location's record, and wrote one datum to the property's field, setting the
location's bit. The fast path and the generic one agree in this. -/
theorem rawSetter_uninit {decode : Ty → Value → FactoryM Datum} {inc : Incoming} {f f' : Factory}
    (h : Factory.run (rawSetter decode loc (.uninit u) inc) f = (.ok t, f')) :
    validRaw loc = true ∧ u.descriptor.ty = loc.owner.ty ∧
      ∃ x, t = .uninit (u.put loc.index loc.property.position x) := by
  unfold rawSetter at h
  cases hraw : checkRaw loc with
  | error e =>
    rw [hraw] at h
    cases h
  | ok w =>
    obtain ⟨⟩ := w
    rw [hraw] at h
    refine ⟨checkRaw_eq_ok.mp hraw, ?_⟩
    cases hprim : primitiveAccess? loc.property.ops with
    | none =>
      rw [hprim] at h
      simp only at h
      rw [setter_raw decode hraw] at h
      obtain ⟨x, f₁, -, hstore⟩ := Factory.run_bind_eq_ok h
      obtain ⟨howner, rfl⟩ := store_uninit (run_ofExcept hstore)
      exact ⟨howner, _, rfl⟩
    | some prim =>
      rw [hprim] at h
      simp only at h
      cases inc with
      | wire v =>
        rw [primitiveSetter_wire] at h
        obtain ⟨d, f₁, -, hstore⟩ := Factory.run_bind_eq_ok h
        obtain ⟨howner, rfl⟩ := storePrimitive_uninit (run_ofExcept hstore)
        exact ⟨howner, _, rfl⟩
      | boxed x =>
        rw [primitiveSetter_boxed] at h
        obtain ⟨howner, rfl⟩ := store_uninit (run_ofExcept h)
        exact ⟨howner, _, rfl⟩

end Strategy

namespace Location

/-- A location of a property of a record of the schema. Its number and its offset are free:
they are what the check on a raw location looks at. -/
def Declared (S : Schema) (loc : Location) : Prop :=
  (∃ t, S.descriptor? t = some loc.owner) ∧ loc.property ∈ loc.owner.properties

/-- A raw location that passes its check, of a property of its record, is that property's own:
its number is the property's, and its offset the property's field's. -/
theorem fieldOfBit?_of_validRaw {loc : Location} (hwf : loc.owner.WellFormed)
    (hp : loc.property ∈ loc.owner.properties) (hv : Strategy.validRaw loc = true) :
    loc.index < loc.owner.properties.length ∧
      Uninit.fieldOfBit? loc.owner loc.index = some (loc.property.position, some loc.token) := by
  simp only [Strategy.validRaw, Bool.and_eq_true, beq_iff_eq] at hv
  obtain ⟨⟨hpos, hoff⟩, -⟩ := hv
  rw [hwf.position?_eq hp, Option.some.injEq] at hpos
  rw [← hpos]
  refine ⟨?_, ?_⟩
  · have hmem : loc.property.index ∈ loc.owner.properties.map (·.index) :=
      List.mem_map_of_mem hp
    rw [hwf.indices] at hmem
    exact List.mem_range.mp hmem
  · rw [Uninit.fieldOfBit?_property hwf hp, hoff]

end Location

namespace Uninit

variable {S : Schema} {ty : Ty} {d : Descriptor} {u : Uninit}

/-- An unfinished instance of a record as raw writes leave it: its bits track its slots, and only
properties' bits are set. -/
structure Writable (d : Descriptor) (u : Uninit) : Prop where
  descriptor : u.descriptor = d
  tracks : u.Tracks
  props : ∀ i ∈ u.written, i < d.properties.length

/-- A fresh allocation for raw access is writable, and owns nothing. -/
theorem writable_allocate {place : Identity} {u : Uninit}
    (h : Strategy.allocate S .raw d place = .ok (.uninit u)) :
    Strategy.described d = true ∧ u = ⟨d, List.replicate (fieldCount d) none, [], place⟩ ∧
      u.Writable d ∧ u.dropped = [] := by
  unfold Strategy.allocate at h
  by_cases hdesc : Strategy.described d = true
  · simp only [hdesc, if_true] at h
    cases h
    refine ⟨hdesc, rfl, ⟨rfl, ⟨by simp, by simp, fun i pos off _ => ?_⟩, by simp⟩, ?_⟩
    · -- no bit is set, and every slot is empty
      simp
    · simp [dropped]
  · simp only [hdesc] at h
    cases h

/-- Writing the field of a property's bit keeps an instance writable. -/
theorem Writable.put (hu : u.Writable d) (hwf : d.WellFormed) {i pos : Nat} {off : Option Nat}
    (hbit : fieldOfBit? d i = some (pos, off)) (hi : i < d.properties.length) (x : Datum) :
    (u.put i pos x).Writable d := by
  refine ⟨hu.descriptor, ?_, fun j hj => ?_⟩
  · rw [← hu.descriptor] at hwf hbit
    exact hu.tracks.put hwf hbit x
  · rcases mem_written_put.mp hj with rfl | hj
    · exact hi
    · exact hu.props j hj

end Uninit

namespace Strategy

variable {S : Schema} {ty : Ty} {d : Descriptor} {u : Uninit} {loc : Location} {t : Target}

/-- A raw write that succeeds on an instance of a record of the schema, at a location of a
property of a record of the schema, writes the field of the location's bit, a property's. -/
theorem rawSetter_writes {decode : Ty → Value → FactoryM Datum} {inc : Incoming} {f f' : Factory}
    (hd : S.descriptor? ty = some d) (hu : u.descriptor = d) (hloc : loc.Declared S)
    (h : Factory.run (rawSetter decode loc (.uninit u) inc) f = (.ok t, f')) :
    loc.index < d.properties.length ∧
      Uninit.fieldOfBit? d loc.index = some (loc.property.position, some loc.token) ∧
      ∃ x, t = .uninit (u.put loc.index loc.property.position x) := by
  obtain ⟨hv, hty, hput⟩ := rawSetter_uninit h
  obtain ⟨⟨ty', howner⟩, hp⟩ := hloc
  -- the owner is the record of the instance's type, so it is the instance's descriptor
  have hsame : ty' = ty := by
    rw [← Schema.descriptor?_ty howner, ← Schema.descriptor?_ty hd, ← hty, hu]
  have hownerd : loc.owner = d := by
    rw [hsame, hd] at howner
    exact (Option.some.inj howner).symm
  have hbit := Location.fieldOfBit?_of_validRaw (Schema.descriptor?_wellFormed howner) hp hv
  rw [hownerd] at hbit
  exact ⟨hbit.1, hbit.2, hput⟩

end Strategy

namespace Uninit

variable {S : Schema} {ty : Ty} {d : Descriptor} {u : Uninit}

/-- What raw writes to an unfinished instance leave: the instance, the value each write that
succeeded left in its field, in order, and the values those writes replaced. -/
structure WriteLog where
  state : Uninit
  stored : List (Option Datum)
  replaced : List (Option Datum)

/-- Raw writes to an unfinished instance, one call after another as a factory runs them: a call
that fails leaves the instance as it was, and the factory goes on from where each call left it. -/
def rawWrites (decode : Ty → Value → FactoryM Datum) :
    Factory → Uninit → List (Location × Incoming) → WriteLog
  | _, u, [] => ⟨u, [], []⟩
  | f, u, c :: calls =>
    match Factory.run (Strategy.rawSetter decode c.1 (.uninit u) c.2) f with
    | (.ok (.uninit u'), f') =>
      let r := rawWrites decode f' u' calls
      ⟨r.state, u'.slots.getD c.1.property.position none :: r.stored,
        u.replaced c.1.index c.1.property.position ++ r.replaced⟩
    | (_, f') => rawWrites decode f' u calls

/-- A run of writes from `u` accounts for every value: the instance it leaves is writable, every
value a write stored or replaced was one, and what `u` owned and the writes stored is, each
once, what the writes replaced and what the instance left owns. -/
structure WriteLog.Accounts (d : Descriptor) (u : Uninit) (r : WriteLog) : Prop where
  writable : r.state.Writable d
  identity : r.state.identity = u.identity
  stored : ∀ v ∈ r.stored, v.isSome
  replaced : ∀ v ∈ r.replaced, v.isSome
  ledger : (u.dropped ++ r.stored).Perm (r.replaced ++ r.state.dropped)

/-- One write ahead of a run that accounts for its values: the write stores a value, drops what
it replaces, and hands the rest of what it owned on. -/
theorem WriteLog.Accounts.cons {r : WriteLog} {i pos o : Nat} {x : Datum} (hu : u.Writable d)
    (hwf : d.WellFormed) (hbit : fieldOfBit? d i = some (pos, some o))
    (hr : r.Accounts d (u.put i pos x)) :
    WriteLog.Accounts d u ⟨r.state, (u.put i pos x).slots.getD pos none :: r.stored,
      u.replaced i pos ++ r.replaced⟩ := by
  rw [← hu.descriptor] at hwf hbit
  have hpos : pos < u.slots.length := hu.tracks.length ▸ fieldOfBit?_position_lt hwf hbit
  have hslot : (u.put i pos x).slots.getD pos none = some x := by
    rw [getD_slots_put hpos, if_pos rfl]
  have hledger := replaced_append_dropped_put hu.tracks hwf hbit x
  refine ⟨hr.writable, hr.identity, ?_, ?_, ?_⟩
  · intro v hv
    rw [hslot] at hv
    rcases List.mem_cons.mp hv with rfl | hv
    · rfl
    · exact hr.stored v hv
  · intro v hv
    rcases List.mem_append.mp hv with hv | hv
    · exact hu.tracks.replaced_isSome hbit v hv
    · exact hr.replaced v hv
  · -- what `u` owned and `x` is what the write replaced and what `u.put i pos x` owns
    rw [hslot]
    calc (u.dropped ++ some x :: r.stored).Perm ((u.dropped ++ [some x]) ++ r.stored) := by simp
      List.Perm _ ((u.replaced i pos ++ (u.put i pos x).dropped) ++ r.stored) :=
          hledger.symm.append_right _
      _ = u.replaced i pos ++ ((u.put i pos x).dropped ++ r.stored) := List.append_assoc _ _ _
      List.Perm _ (u.replaced i pos ++ (r.replaced ++ r.state.dropped)) :=
          hr.ledger.append_left _
      _ = (u.replaced i pos ++ r.replaced) ++ r.state.dropped := (List.append_assoc _ _ _).symm

/-- Every run of raw writes on a writable instance of a record of the schema accounts for its
values. The induction is on the calls; a call that fails leaves the instance to the next. -/
theorem rawWrites_accounts (decode : Ty → Value → FactoryM Datum) (hd : S.descriptor? ty = some d) :
    ∀ (calls : List (Location × Incoming)) (f : Factory) (u : Uninit),
      (∀ c ∈ calls, c.1.Declared S) → u.Writable d → (rawWrites decode f u calls).Accounts d u
  | [], _, u, _, hu => ⟨hu, rfl, by simp [rawWrites], by simp [rawWrites], by simp [rawWrites]⟩
  | c :: calls, f, u, hcalls, hu => by
    have hrest := fun f' u' => rawWrites_accounts decode hd calls f' u'
      fun c' hc' => hcalls c' (List.mem_cons_of_mem c hc')
    rcases hrun : Factory.run (Strategy.rawSetter decode c.1 (.uninit u) c.2) f with ⟨_ | t, f'⟩
    · simp only [rawWrites, hrun]
      exact hrest f' u hu
    · obtain ⟨hi, hbit, x, rfl⟩ :=
        Strategy.rawSetter_writes hd hu.descriptor (hcalls c List.mem_cons_self) hrun
      have hwf := Schema.descriptor?_wellFormed hd
      simp only [rawWrites, hrun]
      exact (hrest f' _ (hu.put hwf hbit hi x)).cons hu hwf hbit

/-- What raw access promises of a record allocated at `place` and written by a run `r`, up to
finishing or dropping it. The bits track the slots, and only properties' bits are set. Every
value a write stored is, exactly once, replaced by a later write or still owned, and nothing
that is not a value is released. Dropping the instance drops each slot that holds a value, once.
Finishing succeeds only with every field written, and then the record's fields are values: with
the defaults finishing wrote, what the writes stored and did not replace. When finishing fails,
the storage it stops on still tracks its slots and is dropped with all it holds, the defaults
finishing wrote included. -/
structure WriteLog.ReleasesOnce (S : Schema) (ty : Ty) (d : Descriptor) (place : Identity)
    (r : WriteLog) : Prop where
  tracks : r.state.Tracks
  props : ∀ i ∈ r.state.written, i < d.properties.length
  stored : ∀ v ∈ r.stored, v.isSome
  released : ∀ v ∈ r.replaced ++ r.state.dropped, v.isSome
  ledger : r.stored.Perm (r.replaced ++ r.state.dropped)
  dropped : r.state.dropped.Perm (r.state.slots.filter (·.isSome))
  finished : ∀ x, Strategy.finish S (.uninit r.state) = .ok x → ∃ w, r.state.fill S = .ok w ∧
    (∀ i < fieldCount d, i ∈ w.written) ∧ (∀ s ∈ w.slots, s.isSome) ∧
    x = ⟨ty, .record (w.slots.map (·.getD .none)), place⟩ ∧
    ∃ defaults : List Datum, (r.stored ++ defaults.map some).Perm (r.replaced ++ w.slots)
  abandoned : ∀ e, Strategy.finish S (.uninit r.state) = .error e →
    ∃ w, r.state.fill S = .error (e, w) ∧ w.Tracks ∧ w.dropped.Perm (w.slots.filter (·.isSome)) ∧
      ∃ defaults : List Datum, (r.stored ++ defaults.map some).Perm (r.replaced ++ w.dropped)

/-- Finishing keeps the ledger of a run: what the run stored and the defaults finishing writes
are what the writes replaced and what the storage finishing leaves owns. -/
theorem WriteLog.ledger_keeps {r : WriteLog} {w : Uninit}
    (hledger : r.stored.Perm (r.replaced ++ r.state.dropped)) (hkeeps : r.state.Keeps w) :
    ∃ defaults : List Datum, (r.stored ++ defaults.map some).Perm (r.replaced ++ w.dropped) := by
  obtain ⟨ds, hds⟩ := hkeeps.owns
  refine ⟨ds, ?_⟩
  calc (r.stored ++ ds.map some).Perm ((r.replaced ++ r.state.dropped) ++ ds.map some) :=
        hledger.append_right _
    _ = r.replaced ++ (r.state.dropped ++ ds.map some) := List.append_assoc _ _ _
    List.Perm _ (r.replaced ++ w.dropped) := hds.append_left _

end Uninit

/-- From allocation to finishing or dropping, raw access releases every value it stores exactly
once, whatever the writes: of any properties of any records of the schema, repeated, from the
wire or boxed, with their locations changed, succeeding or failing. -/
theorem raw_allocation_releases_once {S : Schema} {ty : Ty} {d : Descriptor} {place : Identity}
    {u₀ : Uninit} (hd : S.descriptor? ty = some d)
    (halloc : Strategy.allocate S .raw d place = .ok (.uninit u₀))
    (decode : Ty → Value → FactoryM Datum) (f : Factory) (calls : List (Location × Incoming))
    (hcalls : ∀ c ∈ calls, c.1.Declared S) :
    (Uninit.rawWrites decode f u₀ calls).ReleasesOnce S ty d place := by
  set r := Uninit.rawWrites decode f u₀ calls
  obtain ⟨hdesc, hu₀, hw₀, hdropped₀⟩ := Uninit.writable_allocate halloc
  have hwf := Schema.descriptor?_wellFormed hd
  obtain ⟨hw, hid, hstored, hreplaced, hledger⟩ :=
    Uninit.rawWrites_accounts decode hd calls f u₀ hcalls hw₀
  rw [hdropped₀, List.nil_append] at hledger
  -- the instance the writes leave is of the record allocated
  have hwf' : r.state.descriptor.WellFormed := hw.descriptor ▸ hwf
  have hdesc' : Strategy.described r.state.descriptor = true := hw.descriptor ▸ hdesc
  have hprops : ∀ i ∈ r.state.written, i < r.state.descriptor.properties.length :=
    hw.descriptor ▸ hw.props
  obtain ⟨hfinished, habandoned⟩ := Uninit.Keeps.finish (S := S) hw.tracks hwf' hdesc' hprops
  refine ⟨hw.tracks, hw.props, hstored, fun v hv => ?_, hledger,
    hw.tracks.dropped_perm_live hwf' hdesc', fun x hx => ?_, fun e he => ?_⟩
  · rcases List.mem_append.mp hv with hv | hv
    · exact hreplaced v hv
    · exact hw.tracks.dropped_isSome v hv
  · obtain ⟨w, hfill, hkeeps, hall, rfl⟩ := hfinished x hx
    have hwfw : w.descriptor.WellFormed := hkeeps.descriptor ▸ hwf'
    have hdescw : Strategy.described w.descriptor = true := hkeeps.descriptor ▸ hdesc'
    have hallw : ∀ i < Uninit.fieldCount w.descriptor, i ∈ w.written := hkeeps.descriptor ▸ hall
    -- with every bit set, what the storage owns is all of it
    have hslots := hkeeps.tracks.slots_isSome hwfw hallw
    have hperm := hkeeps.tracks.dropped_perm_slots hwfw hdescw hallw
    obtain ⟨ds, hds⟩ := Uninit.WriteLog.ledger_keeps hledger hkeeps
    refine ⟨w, hfill, hw.descriptor ▸ hall, hslots, ?_, ds, hds.trans (hperm.append_left _)⟩
    rw [hw.descriptor, Schema.descriptor?_ty hd, hid, hu₀]
  · obtain ⟨w, hfill, hkeeps⟩ := habandoned e he
    have hwfw : w.descriptor.WellFormed := hkeeps.descriptor ▸ hwf'
    have hdescw : Strategy.described w.descriptor = true := hkeeps.descriptor ▸ hdesc'
    exact ⟨w, hfill, hkeeps.tracks, hkeeps.tracks.dropped_perm_live hwfw hdescw,
      Uninit.WriteLog.ledger_keeps hledger hkeeps⟩

/-- Writes to the `Point` record of the catalogue: each property at its own location, and then at
a location with another number, which the check refuses. -/
theorem point_writes_release_once :
    ∃ d, Catalogue.schema.descriptor? Catalogue.point = some d ∧
      (Uninit.rawWrites (fun t v => Mapper.decode v.fuel 0 t v) { schema := Catalogue.schema }
        ⟨d, List.replicate (Uninit.fieldCount d) none, [], .created 0⟩
        (d.properties.flatMap fun p => [(⟨d, p, p.index, p.offset.getD 0⟩, .wire (.int 7)),
          (⟨d, p, p.index + 1, 0⟩, .wire .null)])).ReleasesOnce
        Catalogue.schema Catalogue.point d (.created 0) := by
  have hpoint : (Catalogue.schema.descriptor? Catalogue.point).map Strategy.described =
      some true := by
    decide +kernel
  obtain ⟨d, hd, hdesc⟩ := Option.map_eq_some_iff.mp hpoint
  have halloc : Strategy.allocate Catalogue.schema .raw d (.created 0) =
      .ok (.uninit ⟨d, List.replicate (Uninit.fieldCount d) none, [], .created 0⟩) := by
    simp only [Strategy.allocate, hdesc, if_true]
    rfl
  refine ⟨d, hd, raw_allocation_releases_once hd halloc _ _ _ fun c hc => ?_⟩
  obtain ⟨p, hp, hc⟩ := List.mem_flatMap.mp hc
  simp only [List.mem_cons, List.not_mem_nil, or_false] at hc
  rcases hc with rfl | rfl
  · exact ⟨⟨_, hd⟩, hp⟩
  · exact ⟨⟨_, hd⟩, hp⟩

end ObjectMapping
