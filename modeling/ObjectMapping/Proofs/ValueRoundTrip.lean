import ObjectMapping.Proofs.ScalarRead
import ObjectMapping.Proofs.ReadFuel
import ObjectMapping.Proofs.ValueMap
import ObjectMapping.Format.Trace
import ObjectMapping.Catalogue.Types

/-!
# Reading back the values of instances

An instance of a type is written as an owned value (`Schema.valueOf true`, which gives the
instance away) or as a borrowed one (`Schema.valueOf false`), and read by `Mapper.decode`.
Over the types built from the scalars (every integer type but `u64`, with its atomic and its
non-zero type, the floats, characters and strings), value maps and the schema's records by
options, boxes, lists, arrays and string-keyed maps, reading the owned value of an instance
gives the instance back and leaves the factory as it was, except that an optional whose
payload is written as `null` reads as absent (`Schema.readBack`). A value with no object in
it is the same written owned or borrowed.

* `Schema.Typed`: the instances of a type, as its values hold them.
* `Mapper.readsBack`: reading the owned value back, by induction on the instance, with one
  lemma for each way of building a type.
* `Schema.valueOf_borrowed`: borrowed and owned values agree where there is no object.
-/

namespace ObjectMapping

open ObjectMapping.Float

namespace Schema

/-- The instances of a type as its values hold them: integers in the range of an integer type
that has a kind (all but `u64`), and not zero for a non-zero type; arrays of their declared
length; the entries of a map with strictly increasing keys; and the records of the schema's
record types, whole. -/
inductive Typed (S : Schema) : Ty → Datum → Prop
  | bool {t : Ty} (ht : t = .bool ∨ t = .atomicBool) (b : Bool) : Typed S t (.bool b)
  | int {t : Ty} {w : IntType} {n : Int} (ht : t = .int w ∨ t = .atomicInt w ∨ t = .nonZero w)
      (hw : w ≠ .u64) (hn : w.min ≤ n ∧ n ≤ w.max) (hz : t = .nonZero w → n ≠ 0) :
      Typed S t (.int n)
  | f32 (x : Binary32) : Typed S .f32 (.f32 x)
  | f64 (x : Binary64) : Typed S .f64 (.f64 x)
  | char (c : Char) : Typed S .char (.char c)
  | string (s : String) : Typed S .string (.string s)
  | valueMap (m : ValueMap) : Typed S .valueMap (.values m)
  | none (t : Ty) : Typed S (.option t) .none
  | some {t : Ty} {d : Datum} : Typed S t d → Typed S (.option t) (.some d)
  | boxed {t : Ty} {d : Datum} : Typed S t d → Typed S (.boxed t) d
  | vec {t : Ty} {items : List Datum} : (∀ d ∈ items, Typed S t d) →
      Typed S (.vec t) (.list items)
  | array {t : Ty} {n : Nat} {items : List Datum} (hn : items.length = n) :
      (∀ d ∈ items, Typed S t d) → Typed S (.array t n) (.list items)
  | map {t v : Ty} {kvs : List (String × Datum)}
      (ht : t = .sortedMap v ∨ t = .hashMap v ∨ t = .fixedMap v)
      (hkeys : (kvs.map (·.1)).Pairwise (· < ·)) :
      (∀ e ∈ kvs, Typed S v e.2) → Typed S t (.entries kvs)
  | record {t : Ty} {fields : List Datum} (hs : S.scalar? t = none) (hr : (S.record? t).isSome) :
      Typed S t (.record fields)

/-- What reading the owned value of an instance gives: the instance, except that an optional
whose payload is written as `null` reads as absent, at every depth. -/
def readBack (S : Schema) : Ty → Datum → Datum
  | .option t, .some d =>
    if (S.valueOf true t d .sizeless).isNull then .none else .some (S.readBack t d)
  | .boxed t, d => S.readBack t d
  | .vec t, .list items | .array t _, .list items => .list (items.map (S.readBack t))
  | .sortedMap v, .entries kvs | .hashMap v, .entries kvs | .fixedMap v, .entries kvs =>
    .entries (kvs.map fun e => (e.1, S.readBack v e.2))
  | _, d => d

/-- The types with a record are the declared types and their applications. -/
theorem record?_isSome {S : Schema} {t : Ty} (hr : (S.record? t).isSome) :
    (∃ p, t = .named p) ∨ ∃ g a, t = .apply g a := by
  have hhead : t.head?.isSome := by
    unfold record? at hr
    cases h : t.head? <;> simp_all
  cases t <;> simp_all [Ty.head?]

/-- An integer in the range of a type with a kind is written exactly. -/
theorem asI64?_intValue {w : IntType} (hw : w ≠ .u64) {n : Int} (hn : w.min ≤ n ∧ n ≤ w.max) :
    (intValue w n).asI64? = some n := by
  -- each type is written in a width that holds its range, where the wrap is the identity
  cases w <;> simp_all [intValue, IntType.kind?, IntType.min, IntType.max, IntType.signed,
    IntType.bits, Value.asI64?]
  all_goals apply Int.bmod_eq_of_le <;> simp [Int8.size, Int16.size, Int32.size, Int64.size] <;> omega

section Written

variable (S : Schema) (owned : Bool) (place : Identity)

@[simp] theorem valueOf_boxed (t : Ty) (d : Datum) :
    S.valueOf owned (.boxed t) d place = S.valueOf owned t d place := by
  rw [valueOf.eq_def, valueOf.eq_def, unbox]

@[simp] theorem valueOf_some (t : Ty) (d : Datum) :
    S.valueOf owned (.option t) (.some d) place = S.valueOf owned t d place := by
  rw [valueOf.eq_def]
  rfl

@[simp] theorem valuesOf_nil (t : Ty) (i : Nat) : S.valuesOf owned t [] place i = [] := by
  rw [valuesOf]

@[simp] theorem valuesOf_cons (t : Ty) (d : Datum) (ds : List Datum) (i : Nat) :
    S.valuesOf owned t (d :: ds) place i =
      S.valueOf owned t d (.part place i) :: S.valuesOf owned t ds place (i + 1) := by
  rw [valuesOf]

@[simp] theorem entriesOf_nil (t : Ty) (i : Nat) : S.entriesOf owned t [] place i = [] := by
  rw [entriesOf]

@[simp] theorem entriesOf_cons (t : Ty) (k : String) (d : Datum) (rest : List (String × Datum))
    (i : Nat) :
    S.entriesOf owned t ((k, d) :: rest) place i =
      (k, S.valueOf owned t d (.part place i)) :: S.entriesOf owned t rest place (i + 1) := by
  rw [entriesOf]

theorem keysOf_entriesOf (t : Ty) :
    ∀ (kvs : List (String × Datum)) (i : Nat),
      ValueMap.keysOf (S.entriesOf owned t kvs place i) = kvs.map (·.1)
  | [], _ => by simp
  | (k, d) :: rest, i => by simp [keysOf_entriesOf t rest (i + 1)]

theorem valueOf_bool {t : Ty} (ht : t = .bool ∨ t = .atomicBool) (b : Bool) :
    S.valueOf owned t (.bool b) place = .bool b := by
  rcases ht with rfl | rfl <;> rfl

theorem valueOf_intLike {t : Ty} {w : IntType} (ht : t = .int w ∨ t = .atomicInt w ∨ t = .nonZero w)
    (n : Int) : S.valueOf owned t (.int n) place = intValue w n := by
  rcases ht with rfl | rfl | rfl <;> rfl

theorem valueOf_list {t u : Ty} (ht : t = .vec u ∨ ∃ n, t = .array u n) (items : List Datum) :
    S.valueOf owned t (.list items) place = .array (S.valuesOf owned u items place 0) := by
  rcases ht with rfl | ⟨n, rfl⟩ <;> rfl

theorem valueOf_entries {t v : Ty} (ht : t = .sortedMap v ∨ t = .hashMap v ∨ t = .fixedMap v)
    (kvs : List (String × Datum)) :
    S.valueOf owned t (.entries kvs) place = .map (ValueMap.ofList (S.entriesOf owned v kvs place 0)) := by
  rcases ht with rfl | rfl | rfl <;> rfl

/-- A record's instance is written as an object of its own type, owned as the value is. -/
theorem valueOf_record {t : Ty} (hr : (S.record? t).isSome) (fields : List Datum) :
    ∃ here, S.valueOf owned t (.record fields) place = .object (.mk t (.record fields) here owned) := by
  rcases record?_isSome hr with ⟨p, rfl⟩ | ⟨g, a, rfl⟩ <;> exact ⟨_, rfl⟩

end Written

/-- Whether an instance is written as `null` does not depend on where it is written. -/
theorem Typed.isNull_valueOf {S : Schema} {t : Ty} {d : Datum} (h : S.Typed t d) (owned : Bool) :
    ∀ p q, (S.valueOf owned t d p).isNull = (S.valueOf owned t d q).isNull := by
  induction h with
  | bool ht b => simp [valueOf_bool _ _ _ ht]
  | int ht => simp [valueOf_intLike _ _ _ ht]
  | some _ ih | boxed _ ih => simpa using ih
  | vec _ _ => simp [valueOf_list _ _ _ (.inl rfl), Value.isNull]
  | array _ _ _ => simp [valueOf_list _ _ _ (.inr ⟨_, rfl⟩), Value.isNull]
  | map ht _ _ _ => simp [valueOf_entries _ _ _ ht, Value.isNull]
  | @record _ fields _ hr =>
    intro p q
    obtain ⟨_, hp⟩ := valueOf_record S owned p hr fields
    obtain ⟨_, hq⟩ := valueOf_record S owned q hr fields
    simp [hp, hq, Value.isNull]
  | _ => intro p q; rfl

/-- An instance's borrowed value is its owned value wherever the owned one holds no object. -/
def BorrowedAsOwned (S : Schema) (t : Ty) (d : Datum) : Prop :=
  ∀ place, (S.valueOf true t d place).objects = [] →
    S.valueOf false t d place = S.valueOf true t d place

mutual

/-- A value with no object in it has no reference to borrow. -/
theorem reborrow_of_objects : ∀ v : Value, v.objects = [] → v.reborrow = v
  | .array items, h => by
    simp only [Value.objects] at h
    simp only [Value.reborrow, reborrowList_of_objects items h]
  | .map (.ofEntries es), h => by
    simp only [Value.objects] at h
    simp only [Value.reborrow, reborrowEntries_of_objects es h]
  | .object _, h => by simp [Value.objects] at h
  | .null, _ | .bool _, _ | .byte _, _ | .short _, _ | .char _, _ | .int _, _ | .long _, _
  | .float _, _ | .double _, _ | .string _, _ => rfl

theorem reborrowList_of_objects :
    ∀ items : List Value, Value.objectsList items = [] → Value.reborrowList items = items
  | [], _ => rfl
  | v :: vs, h => by
    simp only [Value.objectsList, List.append_eq_nil_iff] at h
    simp only [Value.reborrowList, reborrow_of_objects v h.1, reborrowList_of_objects vs h.2]

theorem reborrowEntries_of_objects :
    ∀ es : List (String × Value), Value.objectsEntries es = [] → Value.reborrowEntries es = es
  | [], _ => rfl
  | (k, v) :: rest, h => by
    simp only [Value.objectsEntries, List.append_eq_nil_iff] at h
    simp only [Value.reborrowEntries, reborrow_of_objects v h.1, reborrowEntries_of_objects rest h.2]

end

section Borrowed

variable {S : Schema} {t : Ty}

theorem valuesOf_borrowed :
    ∀ {items : List Datum}, (∀ d ∈ items, S.BorrowedAsOwned t d) → ∀ place i,
      Value.objectsList (S.valuesOf true t items place i) = [] →
      S.valuesOf false t items place i = S.valuesOf true t items place i
  | [], _, _, _, _ => by simp
  | d :: ds, h, place, i, hobj => by
    simp only [valuesOf_cons, Value.objectsList, List.append_eq_nil_iff] at hobj ⊢
    rw [h d List.mem_cons_self _ hobj.1,
      valuesOf_borrowed (fun d' hd' => h d' (List.mem_cons_of_mem d hd')) place (i + 1) hobj.2]

theorem entriesOf_borrowed :
    ∀ {kvs : List (String × Datum)}, (∀ e ∈ kvs, S.BorrowedAsOwned t e.2) → ∀ place i,
      Value.objectsEntries (S.entriesOf true t kvs place i) = [] →
      S.entriesOf false t kvs place i = S.entriesOf true t kvs place i
  | [], _, _, _, _ => by simp
  | (k, d) :: rest, h, place, i, hobj => by
    simp only [entriesOf_cons, Value.objectsEntries, List.append_eq_nil_iff] at hobj ⊢
    rw [h (k, d) List.mem_cons_self _ hobj.1,
      entriesOf_borrowed (fun e he => h e (List.mem_cons_of_mem _ he)) place (i + 1) hobj.2]

end Borrowed

/-- Every instance's borrowed value is its owned value where there is no object in it. -/
theorem Typed.borrowedAsOwned {S : Schema} {t : Ty} {d : Datum} (h : S.Typed t d) :
    S.BorrowedAsOwned t d := by
  induction h with
  | bool ht b => intro place _; rw [valueOf_bool _ _ _ ht, valueOf_bool _ _ _ ht]
  | int ht => intro place _; rw [valueOf_intLike _ _ _ ht, valueOf_intLike _ _ _ ht]
  | valueMap m => exact fun _ hobj => reborrow_of_objects (.map m) hobj
  | some _ ih | boxed _ ih => simpa [BorrowedAsOwned] using ih
  | vec _ ih =>
    intro place hobj
    simp only [valueOf_list _ _ _ (.inl rfl), Value.objects] at hobj ⊢
    rw [valuesOf_borrowed ih place 0 hobj]
  | array _ _ ih =>
    intro place hobj
    simp only [valueOf_list _ _ _ (.inr ⟨_, rfl⟩), Value.objects] at hobj ⊢
    rw [valuesOf_borrowed ih place 0 hobj]
  | @map _ v kvs ht hkeys _ ih =>
    intro place hobj
    -- the keys are distinct either way, so both maps hold their entries as written
    have hnodup : ∀ owned, (ValueMap.keysOf (S.entriesOf owned v kvs place 0)).Nodup := by
      intro owned
      rw [keysOf_entriesOf]
      exact hkeys.imp ne_of_lt
    simp only [valueOf_entries _ _ _ ht, ValueMap.ofList_eq_ofEntries (hnodup _), Value.objects]
      at hobj ⊢
    rw [entriesOf_borrowed ih place 0 hobj]
  | @record _ fields _ hr =>
    intro place hobj
    obtain ⟨_, hv⟩ := valueOf_record S true place hr fields
    simp [hv, Value.objects] at hobj
  | _ => intro _ _; rfl

end Schema

namespace Mapper

/-- Reading back the owned value of an instance, wherever it is written and with fuel for two
steps a node of the value, gives `readBack` of the instance and leaves the factory as it was. -/
def ReadsBack (f : Factory) (depth : Nat) (t : Ty) (d : Datum) : Prop :=
  ∀ fuel place, 2 * (f.schema.valueOf true t d place).size ≤ fuel →
    Factory.run (decode fuel depth t (f.schema.valueOf true t d place)) f =
      (.ok (f.schema.readBack t d), f)

theorem exists_fuel_succ {v : Value} {fuel : Nat} (h : 2 * v.size ≤ fuel) : ∃ k, fuel = k + 1 :=
  ⟨fuel - 1, by have := v.size_pos; omega⟩

theorem decodeWith_option (S : Schema) (inner nested : Ty → Value → FactoryM Datum) (t : Ty)
    (v : Value) :
    decodeWith S inner nested (.option t) v =
      if v.isNull then pure .none else .some <$> decodeWith S inner nested t v := by
  cases v <;> rfl

section ReadBack

variable {f : Factory} {depth : Nat}

/-- A type that one level of reading gives back from its value, whole. -/
theorem readsBack_leaf {t : Ty} {d : Datum}
    (hread : ∀ place inner nested, decodeWith f.schema inner nested t
      (f.schema.valueOf true t d place) = pure d)
    (hback : f.schema.readBack t d = d) : ReadsBack f depth t d := by
  intro fuel place hfuel
  obtain ⟨k, rfl⟩ := exists_fuel_succ hfuel
  rw [run_decode_succ, hread, hback]
  rfl

/-- An integer in range is read back as itself, in whichever width its type is written. -/
theorem readsBack_int {t : Ty} {w : IntType} {n : Int}
    (ht : t = .int w ∨ t = .atomicInt w ∨ t = .nonZero w) (hw : w ≠ .u64)
    (hn : w.min ≤ n ∧ n ≤ w.max) (hz : t = .nonZero w → n ≠ 0) :
    ReadsBack f depth t (.int n) := by
  intro fuel place hfuel
  obtain ⟨k, rfl⟩ := exists_fuel_succ hfuel
  have hback : f.schema.readBack t (.int n) = .int n := by
    rcases ht with rfl | rfl | rfl <;> rfl
  have hnz : ¬(t = .nonZero w ∧ n = 0) := fun h => hz h.1 h.2
  rw [Schema.valueOf_intLike _ _ _ ht, run_decode_intLike ht,
    readInteger_of_mem (Schema.asI64?_intValue hw hn) hn, hback]
  simp [hnz]

theorem readsBack_some {t : Ty} {d : Datum}
    (hnull : ∀ p q, (f.schema.valueOf true t d p).isNull = (f.schema.valueOf true t d q).isNull)
    (h : ReadsBack f depth t d) : ReadsBack f depth (.option t) (.some d) := by
  intro fuel place hfuel
  rw [Schema.valueOf_some] at hfuel ⊢
  obtain ⟨k, rfl⟩ := exists_fuel_succ hfuel
  have hinner := h (k + 1) place hfuel
  rw [run_decode_succ] at hinner ⊢
  rw [decodeWith_option]
  by_cases hv : (f.schema.valueOf true t d place).isNull
  · -- a payload written as null reads as absent, wherever it is written
    have hv' : (f.schema.valueOf true t d .sizeless).isNull := hnull place _ ▸ hv
    simp [hv, hv', Schema.readBack]
  · have hv' : ¬(f.schema.valueOf true t d .sizeless).isNull := hnull place _ ▸ hv
    rw [if_neg hv, Factory.run_map, hinner]
    simp [hv', Schema.readBack]

theorem readsBack_boxed {t : Ty} {d : Datum} (h : ReadsBack f depth t d) :
    ReadsBack f depth (.boxed t) d := by
  intro fuel place hfuel
  rw [Schema.valueOf_boxed] at hfuel ⊢
  obtain ⟨k, rfl⟩ := exists_fuel_succ hfuel
  have hinner := h (k + 1) place hfuel
  rw [run_decode_succ] at hinner ⊢
  exact hinner

/-- The elements of a list, written one after another, are read back one after another. -/
theorem run_mapM_valuesOf {t : Ty} (fuel : Nat) :
    ∀ {items : List Datum}, (∀ d ∈ items, ReadsBack f depth t d) → ∀ place i,
      2 * Value.sizeList (f.schema.valuesOf true t items place i) ≤ fuel →
      Factory.run ((f.schema.valuesOf true t items place i).mapM (decode fuel depth t)) f =
        (.ok (items.map (f.schema.readBack t)), f)
  | [], _, _, _, _ => by simp
  | d :: ds, h, place, i, hfuel => by
    simp only [Schema.valuesOf_cons, Value.sizeList] at hfuel ⊢
    have hd := h d List.mem_cons_self fuel (.part place i) (by omega)
    have hds := run_mapM_valuesOf fuel (fun d' hd' => h d' (List.mem_cons_of_mem d hd'))
      place (i + 1) (by omega)
    rw [List.mapM_cons, Factory.run_bind_ok hd, Factory.run_bind_ok hds]
    rfl

theorem readsBack_vec {t : Ty} {items : List Datum} (h : ∀ d ∈ items, ReadsBack f depth t d) :
    ReadsBack f depth (.vec t) (.list items) := by
  intro fuel place hfuel
  rw [Schema.valueOf_list _ _ _ (.inl rfl)] at hfuel ⊢
  obtain ⟨k, rfl⟩ := exists_fuel_succ hfuel
  simp only [Value.size] at hfuel
  have hitems := run_mapM_valuesOf k h place 0 (by omega)
  rw [run_decode_succ]
  show Factory.run (Datum.list <$> _) f = _
  rw [Factory.run_map, hitems]
  rfl

theorem readsBack_array {t : Ty} {n : Nat} {items : List Datum} (hn : items.length = n)
    (h : ∀ d ∈ items, ReadsBack f depth t d) : ReadsBack f depth (.array t n) (.list items) := by
  intro fuel place hfuel
  rw [Schema.valueOf_list _ _ _ (.inr ⟨n, rfl⟩)] at hfuel ⊢
  obtain ⟨k, rfl⟩ := exists_fuel_succ hfuel
  simp only [Value.size] at hfuel
  have hitems := run_mapM_valuesOf k h place 0 (by omega)
  rw [run_decode_succ]
  show Factory.run (_ >>= _) f = _
  rw [Factory.run_bind_ok hitems]
  simp [hn, Schema.readBack]

/-- The values of a map, written one after another, are read back one after another under
their keys. -/
theorem run_mapM_entriesOf {v : Ty} (fuel : Nat) {g : String × Value → FactoryM (String × Datum)}
    (hg : ∀ k x, g (k, x) = (decode fuel depth v x >>= fun y => pure (k, y))) :
    ∀ {kvs : List (String × Datum)}, (∀ e ∈ kvs, ReadsBack f depth v e.2) → ∀ place i,
      2 * Value.sizeEntries (f.schema.entriesOf true v kvs place i) ≤ fuel →
      Factory.run ((f.schema.entriesOf true v kvs place i).mapM g) f =
        (.ok (kvs.map fun e => (e.1, f.schema.readBack v e.2)), f)
  | [], _, _, _, _ => by simp
  | (k, d) :: rest, h, place, i, hfuel => by
    simp only [Schema.entriesOf_cons, Value.sizeEntries] at hfuel ⊢
    have hd := h (k, d) List.mem_cons_self fuel (.part place i) (by dsimp only; omega)
    have hrest := run_mapM_entriesOf fuel hg (fun e he => h e (List.mem_cons_of_mem _ he))
      place (i + 1) (by omega)
    rw [List.mapM_cons, hg, Factory.run_bind_ok (Factory.run_bind_ok hd _),
      Factory.run_bind_ok hrest]
    rfl

/-- Entries with strictly increasing keys are already in order. -/
theorem sortEntries_of_sorted {kvs : List (String × Datum)}
    (h : (kvs.map (·.1)).Pairwise (· < ·)) : sortEntries kvs = kvs := by
  apply List.mergeSort_of_pairwise
  exact (List.pairwise_map.mp h).imp fun hlt => by simp [le_of_lt hlt]

theorem readsBack_map {t v : Ty} {kvs : List (String × Datum)}
    (ht : t = .sortedMap v ∨ t = .hashMap v ∨ t = .fixedMap v)
    (hkeys : (kvs.map (·.1)).Pairwise (· < ·)) (h : ∀ e ∈ kvs, ReadsBack f depth v e.2) :
    ReadsBack f depth t (.entries kvs) := by
  intro fuel place hfuel
  -- distinct keys: the map holds the entries as they are written
  have hnodup : (ValueMap.keysOf (f.schema.entriesOf true v kvs place 0)).Nodup := by
    rw [Schema.keysOf_entriesOf]
    exact hkeys.imp ne_of_lt
  rw [Schema.valueOf_entries _ _ _ ht, ValueMap.ofList_eq_ofEntries hnodup] at hfuel ⊢
  obtain ⟨k, rfl⟩ := exists_fuel_succ hfuel
  simp only [Value.size] at hfuel
  have hback : f.schema.readBack t (.entries kvs) =
      .entries (kvs.map fun e => (e.1, f.schema.readBack v e.2)) := by
    rcases ht with rfl | rfl | rfl <;> rfl
  have hsorted : (kvs.map fun e => (e.1, f.schema.readBack v e.2)).map (·.1) = kvs.map (·.1) := by
    simp [Function.comp_def]
  rw [run_decode_succ, hback]
  rcases ht with rfl | rfl | rfl <;>
  · show Factory.run (_ >>= _) f = _
    rw [ValueMap.entries_ofEntries, Factory.run_bind_ok (run_mapM_entriesOf k ?_ h place 0 (by omega)),
      sortEntries_of_sorted (hsorted ▸ hkeys)]
    · rfl
    · -- the reader's step on one entry decodes its value under the key
      exact fun _ _ => rfl

/-- A record's type, that no scalar declaration shadows, is read as a nested object. -/
theorem decodeWith_of_record {S : Schema} {inner nested : Ty → Value → FactoryM Datum} {t : Ty}
    (hs : S.scalar? t = none) (hr : (S.record? t).isSome) (v : Value) :
    decodeWith S inner nested t v = nested t v := by
  rcases Schema.record?_isSome hr with ⟨p, rfl⟩ | ⟨g, a, rfl⟩ <;> simp [decodeWith, hs]

/-- An owned object of its own type is read back whole. -/
theorem run_nestedWith_owned {read : Nat → Mapper → ValueMap → FactoryM Instance} {t : Ty}
    (d : Datum) (here : Identity) :
    Factory.run (nestedWith read depth t (.object (.mk t d here true))) f = (.ok d, f) := by
  unfold nestedWith
  rw [Factory.run_bind_ok (rfl : Factory.run Factory.schemaM f = (.ok f.schema, f))]
  simp [ObjectRef.isOwned, ObjectRef.ty, ObjectRef.datum]

theorem readsBack_record {t : Ty} {fields : List Datum} (hs : f.schema.scalar? t = none)
    (hr : (f.schema.record? t).isSome) : ReadsBack f depth t (.record fields) := by
  intro fuel place hfuel
  obtain ⟨here, hv⟩ := Schema.valueOf_record f.schema true place hr fields
  rw [hv] at hfuel ⊢
  simp only [Value.size] at hfuel
  -- one step to reach the record's reader, one to take the object
  obtain ⟨k, rfl⟩ : ∃ k, fuel = k + 2 := ⟨fuel - 2, by omega⟩
  have hback : f.schema.readBack t (.record fields) = .record fields := by
    rcases Schema.record?_isSome hr with ⟨p, rfl⟩ | ⟨g, a, rfl⟩ <;> rfl
  rw [run_decode_succ, decodeWith_of_record hs hr, hback, deserializeNested]
  exact run_nestedWith_owned _ here

end ReadBack

/-- Reading the owned value of an instance back, with fuel for two steps a node of the value,
gives the instance as `readBack` says and leaves the factory as it was. -/
theorem readsBack {f : Factory} {t : Ty} {d : Datum} (h : f.schema.Typed t d) (depth : Nat) :
    ReadsBack f depth t d := by
  induction h with
  | bool ht => rcases ht with rfl | rfl <;> exact readsBack_leaf (fun _ _ _ => rfl) rfl
  | int ht hw hn hz => exact readsBack_int ht hw hn hz
  | f32 | f64 | char | string | valueMap | none => exact readsBack_leaf (fun _ _ _ => rfl) rfl
  | some ht ih => exact readsBack_some (ht.isNull_valueOf true) ih
  | boxed _ ih => exact readsBack_boxed ih
  | vec _ ih => exact readsBack_vec ih
  | array hn _ ih => exact readsBack_array hn ih
  | map ht hkeys _ ih => exact readsBack_map ht hkeys ih
  | record hs hr => exact readsBack_record hs hr

end Mapper

/-- Reading gives back the instance an owned value was written from. For every instance of a
type built from the scalars, value maps and the schema's records by options, boxes, lists,
arrays and string-keyed maps, reading its owned value with the fuel the mapper gives a value
succeeds with the instance, floats bit for bit and maps by their entries in key order, except
that an optional whose payload is written as `null` reads as absent; the factory is left as it
was. Where the owned value holds no object, the borrowed value is the same value. -/
theorem owned_values_read_back (f : Factory) (t : Ty) (d : Datum) (place : Identity) (depth : Nat)
    (h : f.schema.Typed t d) :
    Factory.run (Mapper.decode (f.schema.valueOf true t d place).fuel depth t
        (f.schema.valueOf true t d place)) f = (.ok (f.schema.readBack t d), f) ∧
      ((f.schema.valueOf true t d place).objects = [] →
        f.schema.valueOf false t d place = f.schema.valueOf true t d place) :=
  ⟨Mapper.readsBack h depth _ place (by unfold Value.fuel; omega), h.borrowedAsOwned place⟩

/-- An optional optional integer that holds an absent one is written as `null` and reads back
absent. -/
theorem absent_payload_reads_absent :
    Schema.Typed Catalogue.schema (.option (.option (.int .i32))) (.some .none) ∧
      Factory.run (Mapper.decode Value.null.fuel 0 (.option (.option (.int .i32))) .null)
        { schema := Catalogue.schema } = (.ok .none, { schema := Catalogue.schema }) := by
  have h : Schema.Typed Catalogue.schema (.option (.option (.int .i32))) (.some .none) :=
    .some (.none _)
  exact ⟨h, (owned_values_read_back { schema := Catalogue.schema } _ _ .sizeless 0 h).1⟩

end ObjectMapping
