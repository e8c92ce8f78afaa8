import ObjectMapping.Proofs.FreshRecord

/-!
# Reading into an existing instance

Reading a map into an instance writes each property the map holds in place, in declaration
order, and stops at the first that fails, returning the instance written so far with that error
(`Mapper.foldlM_intoStep`). The positions not read keep their data and the instance keeps its
type and identity (`readValueInto_record`), under either strategy.
-/

namespace ObjectMapping

/-- An instance with what was read for each property written in place. -/
def Instance.writeAll (x : Instance) (reads : List (MappedProperty × Option Datum)) : Instance :=
  { x with datum := reads.foldl (fun dat r => match r.2 with
      | some v => dat.setField r.1.info.position v
      | none => dat) x.datum }

theorem Target.putAll_existing (x : Instance) :
    ∀ reads : List (MappedProperty × Option Datum),
      (Target.existing x).putAll reads = .existing (x.writeAll reads)
  | [] => rfl
  | (p, w) :: reads => by
    cases w with
    | none => exact Target.putAll_existing x reads
    | some v => exact Target.putAll_existing _ reads

theorem Instance.writeAll_cons (x : Instance) (r : MappedProperty × Option Datum)
    (reads : List (MappedProperty × Option Datum)) :
    x.writeAll (r :: reads) = (x.writeAll [r]).writeAll reads := by
  obtain ⟨p, _ | v⟩ := r <;> rfl

@[simp] theorem Instance.ty_writeAll (x : Instance) (reads : List (MappedProperty × Option Datum)) :
    (x.writeAll reads).ty = x.ty :=
  rfl

@[simp] theorem Instance.identity_writeAll (x : Instance)
    (reads : List (MappedProperty × Option Datum)) : (x.writeAll reads).identity = x.identity :=
  rfl


namespace Mapper

variable {m : Mapper}

/-- The step of reading into an instance: once a property failed nothing more is read; a
property present in the map is set in place, and an error is kept with the instance as it was. -/
def intoStep (depth : Nat) (m : Mapper) (owner : String) (vm : ValueMap)
    (acc : Instance × Option MapError) (p : MappedProperty) : FactoryM (Instance × Option MapError) :=
  match acc with
  | (_, some _) => pure acc
  | (cur, none) =>
    match take vm p with
    | none => pure acc
    | some v =>
      tryCatch (do
          match ← setAt depth m p (.existing cur) v with
          | .existing y => pure (y, none)
          | .uninit _ => pure (cur, none))
        (fun e => pure (cur, some (e.within owner p.info.name)))

variable {depth : Nat} {vm : ValueMap} {owner : String}

theorem intoStep_eq (owner : String) (vm : ValueMap) {cur : Instance} {p : MappedProperty}
    (hset : ∀ v, setAt depth m p (.existing cur) v =
      ((Target.existing cur).put p ·) <$> decodeProperty (decode v.fuel depth) p v) :
    intoStep depth m owner vm (cur, none) p =
      tryCatch ((fun w => (cur.writeAll [(p, w)], none)) <$> readPresent depth owner vm p)
        fun e => pure (cur, some e) := by
  unfold intoStep readPresent
  cases take vm p with
  | none =>
    simp only [map_pure, Factory.tryCatch_pure]
    rfl
  | some v =>
    dsimp only
    rw [Factory.tryCatch_map_tryCatch_rethrow, hset, Functor.map_map, bind_map_left]
    rfl

theorem foldlM_intoStep_failed (cur : Instance) (e : MapError) :
    ∀ ps : List MappedProperty, ps.foldlM (intoStep depth m owner vm) (cur, some e) = pure (cur, some e)
  | [] => rfl
  | p :: ps => by
    rw [List.foldlM_cons]
    exact (pure_bind _ _).trans (foldlM_intoStep_failed cur e ps)

/-- Reading into an instance property by property: the properties before the first failing one
are read and written in place, as a reading of those properties alone gives them; the failing
one ends the reading with its error and the instance as it was then. The induction is on the
properties, with the instance written so far. -/
theorem foldlM_intoStep {T : Ty} {ps : List MappedProperty} (owner : String) (vm : ValueMap)
    (hset : ∀ p ∈ ps, ∀ cur : Instance, cur.ty = T → ∀ v, setAt depth m p (.existing cur) v =
      ((Target.existing cur).put p ·) <$> decodeProperty (decode v.fuel depth) p v) :
    ∀ (cur : Instance), cur.ty = T → ∀ g : Factory, ∃ k ws g₁ r g', k ≤ ps.length ∧
      Factory.run ((ps.take k).mapM (readPresent depth owner vm)) g = (.ok ws, g₁) ∧
      Factory.run (ps.foldlM (intoStep depth m owner vm) (cur, none)) g =
        (.ok (cur.writeAll ((ps.take k).zip ws), r), g') ∧
      ((k = ps.length ∧ r = none ∧ g' = g₁) ∨
        ∃ p e, ps[k]? = some p ∧ Factory.run (readPresent depth owner vm p) g₁ = (.error e, g') ∧
          r = some e) := by
  induction ps with
  | nil => exact fun cur _ g => ⟨0, [], g, none, g, Nat.le_refl _, rfl, rfl, .inl ⟨rfl, rfl, rfl⟩⟩
  | cons p ps ih =>
    intro cur hty g
    have hstep := intoStep_eq owner vm (hset p List.mem_cons_self cur hty)
    rcases hp : Factory.run (readPresent depth owner vm p) g with ⟨_ | w, g₀⟩
    · -- the first property fails: nothing was written
      rename_i e
      refine ⟨0, [], g, some e, g₀, Nat.zero_le _, rfl, ?_, .inr ⟨p, e, rfl, hp, rfl⟩⟩
      have hfirst : Factory.run (intoStep depth m owner vm (cur, none) p) g =
          (.ok (cur, some e), g₀) := by
        rw [hstep, Factory.run_tryCatch_error (by rw [Factory.run_map, hp])]
        rfl
      rw [List.foldlM_cons, Factory.run_bind_ok hfirst, foldlM_intoStep_failed]
      rfl
    · -- the first property is read and written; the rest continue from there
      have hfirst : Factory.run (intoStep depth m owner vm (cur, none) p) g =
          (.ok (cur.writeAll [(p, w)], none), g₀) := by
        rw [hstep, Factory.run_tryCatch_ok (by rw [Factory.run_map, hp])]
      obtain ⟨k, ws, g₁, r, g', hk, hmap, hfold, hcase⟩ := ih (fun q hq =>
        hset q (List.mem_cons_of_mem p hq)) (cur.writeAll [(p, w)]) (by simp [hty]) g₀
      refine ⟨k + 1, w :: ws, g₁, r, g', by simp [hk], ?_, ?_, ?_⟩
      · rw [List.take_succ_cons, List.mapM_cons, Factory.run_bind_ok hp,
          Factory.run_bind_ok hmap]
        rfl
      · rw [List.foldlM_cons, Factory.run_bind_ok hfirst, hfold, List.take_succ_cons,
          List.zip_cons_cons, Instance.writeAll_cons cur (p, w) ((ps.take k).zip ws)]
      · rcases hcase with ⟨rfl, hr, hg⟩ | ⟨q, e, hq, herr, hr⟩
        · exact .inl ⟨rfl, hr, hg⟩
        · exact .inr ⟨q, e, hq, herr, hr⟩

/-- Writing in place to a record sets its fields. -/
theorem foldl_setField_record :
    ∀ (reads : List (MappedProperty × Option Datum)) (fields : List Datum),
      reads.foldl (fun (dat : Datum) (r : MappedProperty × Option Datum) => match r.2 with
        | some v => dat.setField r.1.info.position v
        | none => dat) (Datum.record fields) =
      Datum.record (reads.foldl (fun (l : List Datum) (r : MappedProperty × Option Datum) =>
        match r.2 with
        | some v => l.set r.1.info.position v
        | none => l) fields)
  | [], _ => rfl
  | (p, w) :: reads, fields => by
    cases w with
    | none => exact foldl_setField_record reads fields
    | some v => exact foldl_setField_record reads (fields.set p.info.position v)

end Mapper

open Mapper in
/-- Reading a map into an instance of a record, under either strategy. The properties the map
holds are read in declaration order and written in place, each as it would be read for a fresh
record, so that a nested record is replaced whole. Up to the first property that fails, all are
written; that property, every later one and every skipped field keep what they held, and the
error is the one of that property. -/
theorem readValueInto_record {f₀ f₁ g : Factory} {t : Ty} {m : Mapper} {d : Descriptor}
    (hbuild : Factory.run (Factory.create t) f₀ = (.ok m, f₁))
    (hd : Factory.descriptorOf f₀.schema t = some d) (ht : d.ty = t) (vm : ValueMap)
    {x : Instance} {fields : List Datum} (hx : x.ty = t) (hrec : x.datum = .record fields)
    (hlen : fields.length = d.properties.length + d.excluded.length) :
    ∃ k ws g₁ fields' r g', k ≤ m.properties.length ∧
      Factory.run ((m.properties.take k).mapM (readPresent 0 d.ident vm)) g = (.ok ws, g₁) ∧
      Factory.run (readValueInto m (.map vm) x) g =
        (.ok (⟨x.ty, .record fields', x.identity⟩, r), g') ∧
      fields'.length = fields.length ∧
      (∀ q ∈ (m.properties.take k).zip ws,
        fields'[q.1.info.position]? = q.2.or fields[q.1.info.position]?) ∧
      (∀ j, j ∉ (m.properties.take k).map (·.info.position) → fields'[j]? = fields[j]?) ∧
      ((k = m.properties.length ∧ r = none ∧ g' = g₁) ∨
        ∃ p e, m.properties[k]? = some p ∧
          Factory.run (readPresent 0 d.ident vm p) g₁ = (.error e, g') ∧ r = some e) := by
  obtain ⟨hb, hops, -⟩ := Factory.create_built hbuild hd
  have hwf := Factory.descriptorOf_wellFormed hd
  -- either strategy sets a property of an instance of the record in place
  have hset : ∀ p ∈ m.properties, ∀ cur : Instance, cur.ty = d.ty → ∀ v,
      setAt 0 m p (.existing cur) v =
        ((Target.existing cur).put p ·) <$> decodeProperty (decode v.fuel 0) p v := by
    intro p hp cur hcur v
    obtain ⟨howner, hprop, -, hvalid⟩ := hb.location hp
    cases hs : m.strategy with
    | raw => exact setPropertyWith_raw_put hs (hvalid hs) hprop (by rw [howner]; exact hcur) v
    | checked =>
      have hpowner := hwf.owners p.info (hb.info ▸ List.mem_map_of_mem hp)
      exact setPropertyWith_checked_put hs hprop (hcur.trans hpowner.symm) v
  have hfuel : 4 * Value.sizeEntries vm.entries + 1 ≤ (Value.map vm).fuel := by
    obtain ⟨es⟩ := vm
    simp only [Value.fuel, Value.size, ValueMap.entries]
    omega
  have hinto : readValueInto m (.map vm) x = m.properties.foldlM (intoStep 0 m d.ident vm) (x, none) := by
    have hsame : (x.ty != m.ops.ty) = false := by simp [hops, hx, Schema.typeOps]
    unfold readValueInto
    simp only [hb.descriptor]
    rw [readMapInto_eq hfuel]
    unfold readMapIntoWith
    simp only [hb.descriptor, hsame, Bool.false_eq_true, if_false]
    rfl
  obtain ⟨k, ws, g₁, r, g', hk, hmap, hfold, hcase⟩ :=
    foldlM_intoStep d.ident vm hset x (hx.trans ht.symm) g
  have hwslen : ws.length = (m.properties.take k).length :=
    Factory.Yields.mapM_length _ _ _ _ hmap
  have hsets : SetsAt (fun r : MappedProperty × Option Datum => r.1.info.position)
      (fun r => r.2) (fun l r => match r.2 with
        | some v => l.set r.1.info.position v
        | none => l) := by
    rintro l ⟨p, _ | v⟩ <;> rfl
  -- the positions written are those of the properties read, distinct and inside the record
  obtain ⟨hpositions, hnd⟩ := hb.zip_positions hwf (List.take_sublist k _) hwslen
  rw [← hpositions] at hnd
  have hin : ∀ r ∈ (m.properties.take k).zip ws, r.1.info.position < fields.length := by
    intro r hr
    rw [hlen]
    refine hwf.position_lt (List.mem_append_left _ ?_)
    rw [← hb.info, List.map_map]
    exact List.mem_map_of_mem (List.mem_of_mem_take (List.of_mem_zip hr).1)
  refine ⟨k, ws, g₁, ((m.properties.take k).zip ws).foldl (fun l r => match r.2 with
      | some v => l.set r.1.info.position v
      | none => l) fields, r, g', hk, hmap, ?_, length_foldl_setsAt hsets _ _, fun q hq => ?_,
    fun j hj => ?_, hcase⟩
  · rw [hinto, hfold]
    simp only [Instance.writeAll, hrec, foldl_setField_record]
  · exact getElem?_foldl_setsAt hsets _ _ hnd hin q hq
  · exact getElem?_foldl_setsAt_of_notMem hsets _ _ (hpositions ▸ hj)

open Mapper in
/-- The map `{"x": 5, "y": "five"}` read into the point (1, 2): `x` is written, `y` fails, as a
string is no `i32`, and keeps its 2, and the error comes back beside the instance. -/
theorem point_read_into_stops_at_failing_property :
    ∃ m f₁ e g', Factory.run (Factory.create Catalogue.point) { schema := Catalogue.schema } =
        (.ok m, f₁) ∧
      Factory.run (readValueInto m (.map (.ofEntries [("x", .int 5), ("y", .string "five")]))
          ⟨Catalogue.point, .record [.int 1, .int 2], .created 0⟩) f₁ =
        (.ok (⟨Catalogue.point, .record [.int 5, .int 2], .created 0⟩, some e), g') := by
  have hdesc : (Factory.descriptorOf Catalogue.schema Catalogue.point).map (fun d =>
      d.ty == Catalogue.point && d.excluded.isEmpty && d.properties.length == 2 &&
        d.ident == "Point") = some true := by
    decide +kernel
  obtain ⟨d, hd, hfacts⟩ := Option.map_eq_some_iff.mp hdesc
  simp only [Bool.and_eq_true, List.isEmpty_iff, beq_iff_eq] at hfacts
  obtain ⟨⟨⟨hty, hexcl⟩, hlen⟩, hident⟩ := hfacts
  have hbuilt : (let r := Factory.run (Factory.create Catalogue.point) { schema := Catalogue.schema }
      r.1.toOption.map fun m =>
        (m.properties.map (·.info.position) == [0, 1]) &&
        (m.properties.head?.map fun p => (Factory.run (readPresent 0 "Point"
          (.ofEntries [("x", .int 5), ("y", .string "five")]) p) r.2).1.isOk) == some true &&
        ((Factory.run ((m.properties.take 1).mapM (readPresent 0 "Point"
            (.ofEntries [("x", .int 5), ("y", .string "five")]))) r.2).1.toOption.map
          fun ws => ws.map (·.map Datum.int?)) == some [some (some 5)] &&
        !(Factory.run (m.properties.mapM (readPresent 0 "Point"
          (.ofEntries [("x", .int 5), ("y", .string "five")]))) r.2).1.isOk) = some true := by
    decide +kernel
  rcases hrun : Factory.run (Factory.create Catalogue.point) { schema := Catalogue.schema }
    with ⟨_ | m, f₁⟩
  · simp [hrun] at hbuilt
  simp only [hrun, Except.toOption_ok, Option.map_some, Option.some.injEq, Bool.and_eq_true,
    beq_iff_eq, Bool.not_eq_true'] at hbuilt
  obtain ⟨⟨⟨hpos, hfirst⟩, hone⟩, hboth⟩ := hbuilt
  rcases hps : m.properties with _ | ⟨p, _ | ⟨q, _ | ⟨_, _⟩⟩⟩ <;>
    simp only [hps, List.map_nil, List.map_cons, reduceCtorEq, List.cons.injEq, and_false] at hpos
  obtain ⟨hp, hq, -⟩ := hpos
  simp only [hps, List.head?_cons, Option.map_some, Option.some.injEq, List.take_succ_cons,
    List.take_zero] at hfirst hone hboth
  obtain ⟨k, ws, g₁, fields', r, g', hk, hmap, hres, hflen, hset, hkeep, hend⟩ :=
    readValueInto_record (g := f₁) (x := ⟨Catalogue.point, .record [.int 1, .int 2], .created 0⟩)
      hrun hd hty (.ofEntries [("x", .int 5), ("y", .string "five")]) rfl rfl
      (by simp [hlen, hexcl])
  rw [hps, hident] at hmap hend
  rw [hps] at hk hset hkeep
  rcases k with _ | _ | _ | k
  · -- nothing read: the first property would have failed, but it reads
    simp only [List.take_zero, List.mapM_nil, Factory.run_pure, Prod.mk.injEq] at hmap
    obtain ⟨-, rfl⟩ := hmap
    obtain ⟨hall, -⟩ | ⟨p', e, hp', hfail, -⟩ := hend
    · simp at hall
    · simp only [List.getElem?_cons_zero, Option.some.injEq] at hp'
      subst hp'
      rw [hfail] at hfirst
      cases hfirst
  · -- `x` read, `y` failed
    simp only [Nat.zero_add, List.take_succ_cons, List.take_zero] at hmap hset hkeep
    simp only [hmap, Except.toOption_ok, Option.map_some, Option.some.injEq] at hone
    have hws : ws = [some (.int 5)] :=
      Datum.eq_of_map_int? (show ws.map (·.map Datum.int?) = [some 5].map (·.map some) from hone)
    subst hws
    obtain ⟨hall, -⟩ | ⟨-, e, -, -, rfl⟩ := hend
    · simp at hall
    have h0 := hset (p, some (.int 5)) (by simp)
    have h1 := hkeep 1 (by simp [hp])
    simp only [hp, Option.some_or] at h0
    rcases fields' with _ | ⟨a, _ | ⟨b, _ | ⟨_, _⟩⟩⟩ <;> simp only [List.length_cons,
      List.length_nil, Nat.reduceAdd, Nat.reduceEqDiff] at hflen
    simp only [List.getElem?_cons_zero, List.getElem?_cons_succ, Option.some.injEq] at h0 h1
    subst h0 h1
    exact ⟨m, f₁, e, g', rfl, hres⟩
  · -- both read: the second would have succeeded, but it fails
    simp only [Nat.reduceAdd, List.take_succ_cons, List.take_zero] at hmap
    rw [hmap] at hboth
    cases hboth
  · simp only [List.length_cons, List.length_nil] at hk
    omega

end ObjectMapping
