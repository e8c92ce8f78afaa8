import ObjectMapping.Value.Indexed
import ObjectMapping.Proofs.ValueEquality
import Mathlib.Data.List.Perm.Subperm

/-!
# The index of a stored value map

A stored value map (`IndexedMap`) answers every lookup through its index, a hash table of
positions. It is right exactly when its representation invariant holds (`IndexedMap.Indexed`):
the keys of its entries are pairwise distinct, and its index holds each position of the
entries once, placed under the hash of that entry's key. The table and the hash function are
parameters, the table bound only by what it promises (`PositionTable.Lawful`).

* `position_eq_findIdx?`: under the invariant the index finds the first, and only, position of a
  key; so `get` is the lookup of the entries (`get_eq_lookup`).
* `Indexed.insert`, `Indexed.update`, `Indexed.take`, `Indexed.extend`: every operation keeps the
  invariant, and a new map has it. Appending a key meets the table's own condition on the
  function that moves its elements (`Indexed.append`).
* `toValueMap_insert`, `toValueMap_take`, `toValueMap_extend`, `toValueMap_ofList`: seen through
  its entries, the stored map is the library's `ValueMap`, operation by operation.
* `IndexedMap.run`: a client's calls, one after another. `run_spec` states what any run from a
  new map gives: the invariant, each key's value as a finite map of keys to values says, and the
  keys in the order they were first inserted.
* `beq_iff`: two stored maps are equal exactly when they are equal as finite maps, which makes
  the equality blind to the order of entries, and symmetric (`beq_comm`) once the maps inside
  the values have distinct keys too.
* `PositionTable.list`, a table that is a list searched from the front, keeps the table's
  promises.
-/

namespace ObjectMapping

open ValueMap

namespace IndexedMap

variable {τ : Type} {T : PositionTable τ} {slots : τ → List (UInt64 × Nat)}
  {hash : String → UInt64}

/-! ## Positions and the hash of their keys -/

@[simp] theorem keys_eq (m : IndexedMap τ) : m.keys = keysOf m.entries := rfl

@[simp] theorem len_eq (m : IndexedMap τ) : m.len = m.entries.length := rfl

@[simp] theorem entries_toValueMap (m : IndexedMap τ) : m.toValueMap.entries = m.entries := rfl

@[simp] theorem keys_toValueMap (m : IndexedMap τ) : m.toValueMap.keys = keysOf m.entries := rfl

@[simp] theorem get?_toValueMap (m : IndexedMap τ) (key : String) :
    m.toValueMap.get? key = m.entries.lookup key :=
  rfl

theorem rehash_of_lt {es : List (String × Value)} {i : Nat} (h : i < es.length) :
    rehash hash es i = hash es[i].1 := by
  simp [rehash, List.getElem?_eq_getElem h]

theorem rehash_append_of_lt {es fs : List (String × Value)} {i : Nat} (h : i < es.length) :
    rehash hash (es ++ fs) i = rehash hash es i := by
  rw [rehash_of_lt h, rehash_of_lt (by simp; omega), List.getElem_append_left h]

/-- The hash at a position depends only on the keys. -/
theorem rehash_congr {es fs : List (String × Value)} (h : keysOf es = keysOf fs) :
    rehash hash es = rehash hash fs := by
  funext i
  have hlen : es.length = fs.length := by simpa [keysOf] using congrArg List.length h
  by_cases hi : i < es.length
  · rw [rehash_of_lt hi, rehash_of_lt (hlen ▸ hi)]
    have hk := congrArg (·[i]?) h
    simp only [keysOf, List.getElem?_map, List.getElem?_eq_getElem hi,
      List.getElem?_eq_getElem (hlen ▸ hi), Option.map_some, Option.some.injEq] at hk
    rw [hk]
  · simp [rehash, List.getElem?_eq_none (Nat.le_of_not_lt hi),
      List.getElem?_eq_none (hlen ▸ Nat.le_of_not_lt hi)]

/-- Replacing values in place keeps the keys. -/
@[simp] theorem keysOf_modify_value (es : List (String × Value)) (i : Nat)
    (g : String × Value → Value) :
    keysOf (es.modify i fun e => (e.1, g e)) = keysOf es := by
  apply List.ext_getElem (by simp [keysOf])
  intro j h₁ h₂
  simp only [keysOf, List.getElem_map, List.getElem_modify]
  split <;> rfl

/-- The value under a key is found at the key's first position. -/
theorem lookup_eq_findIdx? (key : String) (es : List (String × Value)) :
    es.lookup key = (es.findIdx? (·.1 == key)).bind fun i => es[i]?.map (·.2) := by
  induction es with
  | nil => rfl
  | cons e rest ih =>
    obtain ⟨k, v⟩ := e
    by_cases hk : k = key
    · subst hk
      simp [List.findIdx?_cons]
    · have hne : key ≠ k := Ne.symm hk
      simp [List.findIdx?_cons, hk, lookup_cons_of_ne hne, ih, Option.bind_map]

/-! ## The representation invariant -/

variable (slots hash) in
/-- The representation invariant of a stored map: its keys are pairwise distinct, and its index
holds each position of the entries exactly once, placed under the hash of that entry's key. -/
structure Indexed (m : IndexedMap τ) : Prop where
  keys_nodup : m.keys.Nodup
  positions : ((slots m.index).map (·.2)).Perm (List.range m.len)
  placed : ∀ s ∈ slots m.index, rehash hash m.entries s.2 = s.1

namespace Indexed

variable {m : IndexedMap τ}

theorem lt_len (hm : m.Indexed slots hash) {s : UInt64 × Nat} (hs : s ∈ slots m.index) :
    s.2 < m.len :=
  List.mem_range.mp (hm.positions.mem_iff.mp (List.mem_map_of_mem hs))

/-- Every position is in the index, placed under the hash of its key. -/
theorem slot_of_lt (hm : m.Indexed slots hash) {i : Nat} (hi : i < m.entries.length) :
    (hash m.entries[i].1, i) ∈ slots m.index := by
  obtain ⟨s, hs, hsi⟩ := List.mem_map.mp (hm.positions.mem_iff.mpr (List.mem_range.mpr hi))
  have hplaced := hm.placed s hs
  rw [hsi, rehash_of_lt hi] at hplaced
  rw [hplaced, ← hsi]
  exact hs

/-- A stored map whose index and keys are those of an indexed map is indexed. -/
theorem of_keys (hm : m.Indexed slots hash) {m' : IndexedMap τ} (hindex : m'.index = m.index)
    (hkeys : m'.keys = m.keys) : m'.Indexed slots hash where
  keys_nodup := hkeys ▸ hm.keys_nodup
  positions := by
    have hlen : m'.len = m.len := by simpa [keysOf] using congrArg List.length hkeys
    rw [hindex, hlen]
    exact hm.positions
  placed := by
    rw [hindex, rehash_congr (by simpa using hkeys)]
    exact hm.placed

end Indexed

variable (hT : T.Lawful slots)
include hT

theorem indexed_new : (new T : IndexedMap τ).Indexed slots hash where
  keys_nodup := List.nodup_nil
  positions := by simp [new, hT.slots_empty, len]
  placed := by simp [new, hT.slots_empty]

theorem indexed_withCapacity (n : Nat) : (withCapacity T n : IndexedMap τ).Indexed slots hash where
  keys_nodup := List.nodup_nil
  positions := by simp [withCapacity, hT.slots_withCapacity, len]
  placed := by simp [withCapacity, hT.slots_withCapacity]

/-! ## Finding a key -/

/-- Under the invariant the index finds the first position of a key, the only one. -/
theorem position_eq_findIdx? {m : IndexedMap τ} (hm : m.Indexed slots hash) (key : String) :
    m.position T hash key = m.entries.findIdx? (·.1 == key) := by
  unfold position
  cases hfind : T.find m.index (hash key) (fun i => m.entries[i]?.any (·.1 == key)) with
  | some x =>
    obtain ⟨hmem, htest⟩ := hT.find_some hfind
    have hx : x < m.entries.length := hm.lt_len hmem
    rw [List.getElem?_eq_getElem hx, Option.any_some] at htest
    -- an earlier position with the same key would repeat the key
    refine (List.findIdx?_eq_some_iff_getElem.mpr ⟨hx, htest, fun j hj hkey => ?_⟩).symm
    have hjk : j < m.keys.length := by simp [keys]; omega
    have hxk : x < m.keys.length := by simp [keys]; omega
    have hjx : m.keys[j] = m.keys[x] := by
      simp only [keys, List.getElem_map]
      rw [beq_iff_eq.mp hkey, beq_iff_eq.mp htest]
    exact absurd ((hm.keys_nodup.getElem_inj_iff).mp hjx) (by omega)
  | none =>
    refine (List.findIdx?_eq_none_iff.mpr fun e he => ?_).symm
    obtain ⟨i, hi, rfl⟩ := List.getElem_of_mem he
    by_contra hkey
    have hkey : m.entries[i].1 = key := by simpa using hkey
    have hslot := hm.slot_of_lt hi
    rw [hkey] at hslot
    have htest := hT.find_none hfind i hslot
    simp [List.getElem?_eq_getElem hi, hkey] at htest

theorem get_eq_lookup {m : IndexedMap τ} (hm : m.Indexed slots hash) (key : String) :
    m.get T hash key = m.entries.lookup key := by
  rw [get, position_eq_findIdx? hT hm, lookup_eq_findIdx?]

/-- A key is found exactly when it is a key of the entries. -/
theorem position_eq_none_iff {m : IndexedMap τ} (hm : m.Indexed slots hash) (key : String) :
    m.position T hash key = none ↔ key ∉ m.keys := by
  rw [position_eq_findIdx? hT hm, List.findIdx?_eq_none_iff]
  constructor
  · intro h hmem
    obtain ⟨e, he, rfl⟩ := List.mem_map.mp hmem
    simp at h
    exact h e.1 e.2 he rfl
  · intro h e he
    have hne : e.1 ≠ key := fun heq => h (heq ▸ List.mem_map_of_mem he)
    simpa using hne

/-! ## One operation -/

omit hT in
/-- Replacing the value at a key's first position replaces the value of the key's first entry. -/
theorem modify_eq_replaceIn {key : String} {v : Value} (g : Value → Value) :
    ∀ {es : List (String × Value)} {i : Nat}, es.findIdx? (·.1 == key) = some i →
      es.lookup key = some v → es.modify i (fun e => (e.1, g e.2)) = replaceIn key (g v) es
  | [], _, hi, _ => by simp at hi
  | (k, w) :: rest, i, hi, hv => by
    by_cases hk : k = key
    · subst hk
      -- the first entry has the key: it is the one replaced
      simp only [List.findIdx?_cons, beq_self_eq_true, if_true, Option.some.injEq] at hi
      simp only [List.lookup_cons_self, Option.some.injEq] at hv
      subst hi hv
      simp [replaceIn]
    · simp only [List.findIdx?_cons, beq_iff_eq, hk, if_false, Option.map_eq_some_iff] at hi
      obtain ⟨j, hj, rfl⟩ := hi
      rw [lookup_cons_of_ne (Ne.symm hk)] at hv
      simp [replaceIn, hk, List.modify_succ_cons, modify_eq_replaceIn g hj hv]

section Step

variable {m : IndexedMap τ} (hm : m.Indexed slots hash)
include hm

theorem position_of_lookup {key : String} {v : Value} (hv : m.entries.lookup key = some v) :
    ∃ i, m.position T hash key = some i ∧ m.entries.findIdx? (·.1 == key) = some i := by
  have hmem : key ∈ m.keys := by
    simpa using mt lookup_eq_none_iff_not_mem.mpr (by simp [hv])
  obtain ⟨i, hi⟩ := Option.ne_none_iff_exists'.mp (mt (position_eq_none_iff hT hm key).mp (not_not.mpr hmem))
  exact ⟨i, hi, (position_eq_findIdx? hT hm key) ▸ hi⟩

/-- Inserting a present key replaces its value where it stands and answers the old one. -/
theorem insert_of_lookup {key : String} {w : Value} (hw : m.entries.lookup key = some w) (v : Value) :
    m.insert T hash key v = ({ m with entries := replaceIn key v m.entries }, some w) := by
  obtain ⟨i, hpos, hi⟩ := position_of_lookup hT hm hw
  have hval : m.entries[i]?.map (·.2) = some w := by
    rw [← hw, lookup_eq_findIdx?, hi, Option.bind_some]
  simp only [insert, hpos, hval, modify_eq_replaceIn (fun _ => v) hi hw]

/-- Inserting a new key appends it and places its position under its hash. -/
theorem insert_of_not_mem {key : String} (hk : key ∉ m.keys) (v : Value) :
    m.insert T hash key v =
      (⟨m.entries ++ [(key, v)],
        T.insertUnique m.index (hash key) m.len (rehash hash (m.entries ++ [(key, v)]))⟩, none) := by
  simp only [insert, (position_eq_none_iff hT hm key).mpr hk]
  rfl

/-- A write through the reference to a present key's value replaces it where it stands. -/
theorem update_of_lookup {key : String} {w : Value} (hw : m.entries.lookup key = some w)
    (f : Value → Value) : m.update T hash key f = { m with entries := replaceIn key (f w) m.entries } := by
  obtain ⟨i, hpos, hi⟩ := position_of_lookup hT hm hw
  simp only [update, hpos, modify_eq_replaceIn f hi hw]

theorem update_of_not_mem {key : String} (hk : key ∉ m.keys) (f : Value → Value) :
    m.update T hash key f = m := by
  simp only [update, (position_eq_none_iff hT hm key).mpr hk]

/-- Appending an entry with a new key, its position placed under the key's hash, keeps the
invariant. The function the table is given to move its elements gives every position held the
hash it was placed under, as the table requires. -/
theorem Indexed.append {key : String} (hk : key ∉ m.keys) (v : Value) :
    (IndexedMap.mk (m.entries ++ [(key, v)]) (T.insertUnique m.index (hash key) m.len
      (rehash hash (m.entries ++ [(key, v)])))).Indexed slots hash := by
  have hplaced : ∀ s ∈ slots m.index, rehash hash (m.entries ++ [(key, v)]) s.2 = s.1 := by
    intro s hs
    rw [rehash_append_of_lt (hm.lt_len hs)]
    exact hm.placed s hs
  have hslots := hT.slots_insertUnique (h := hash key) (x := m.len) hplaced
  refine ⟨?_, ?_, ?_⟩
  · simp only [keys_eq, keysOf_append, keysOf_cons, keysOf_nil]
    refine List.nodup_append.mpr ⟨hm.keys_nodup, List.nodup_singleton key, ?_⟩
    intro a ha b hb hab
    rw [List.mem_singleton.mp hb] at hab
    exact hk (by simpa [hab] using ha)
  · simp only [len_eq, List.length_append, List.length_singleton]
    rw [List.range_succ]
    refine (hslots.map _).trans ?_
    simp only [List.map_append, List.map_cons, List.map_nil]
    exact hm.positions.append_right _
  · intro s hs
    rcases List.mem_append.mp (hslots.mem_iff.mp hs) with hs | hs
    · exact hplaced s hs
    · obtain rfl := List.mem_singleton.mp hs
      simp [rehash_of_lt]

theorem Indexed.insert (key : String) (v : Value) : (m.insert T hash key v).1.Indexed slots hash := by
  cases hw : m.entries.lookup key with
  | some w =>
    rw [insert_of_lookup hT hm hw]
    exact hm.of_keys rfl (by simp)
  | none =>
    have hk : key ∉ m.keys := by simpa using lookup_eq_none_iff_not_mem.mp hw
    rw [insert_of_not_mem hT hm hk]
    exact hm.append hT hk v

theorem Indexed.update (key : String) (f : Value → Value) : (m.update T hash key f).Indexed slots hash := by
  cases hw : m.entries.lookup key with
  | some w =>
    rw [update_of_lookup hT hm hw]
    exact hm.of_keys rfl (by simp)
  | none =>
    rw [update_of_not_mem hT hm (by simpa using lookup_eq_none_iff_not_mem.mp hw)]
    exact hm

theorem Indexed.take (key : String) : (m.take T hash key).1.Indexed slots hash :=
  hm.update hT key fun _ => .null

/-- Seen through its entries, inserting into the stored map is inserting into the library's map. -/
theorem toValueMap_insert (key : String) (v : Value) :
    ((m.insert T hash key v).1.toValueMap, (m.insert T hash key v).2) = m.toValueMap.insert key v := by
  cases hw : m.entries.lookup key with
  | some w =>
    rw [insert_of_lookup hT hm hw]
    simp [toValueMap, ValueMap.insert, hw]
  | none =>
    have hk : key ∉ m.keys := by simpa using lookup_eq_none_iff_not_mem.mp hw
    rw [insert_of_not_mem hT hm hk]
    simp [toValueMap, ValueMap.insert, hw]

theorem toValueMap_take (key : String) :
    ((m.take T hash key).1.toValueMap, (m.take T hash key).2) = m.toValueMap.take key := by
  cases hw : m.entries.lookup key with
  | some w =>
    simp [take, update_of_lookup hT hm hw, get_eq_lookup hT hm, hw, toValueMap, ValueMap.take]
  | none =>
    have hk : key ∉ m.keys := by simpa using lookup_eq_none_iff_not_mem.mp hw
    simp [take, update_of_not_mem hT hm hk, get_eq_lookup hT hm, hw, toValueMap, ValueMap.take]

theorem get_update (key : String) (f : Value → Value) (j : String) :
    (m.update T hash key f).get T hash j =
      if j = key then (m.get T hash key).map f else m.get T hash j := by
  rw [get_eq_lookup hT (hm.update hT key f), get_eq_lookup hT hm, get_eq_lookup hT hm]
  cases hw : m.entries.lookup key with
  | some w => simp [update_of_lookup hT hm hw, lookup_replaceIn, hw]
  | none =>
    rw [update_of_not_mem hT hm (by simpa using lookup_eq_none_iff_not_mem.mp hw)]
    split
    · rename_i hj
      simp [hj, hw]
    · rfl

end Step

/-! ## Many insertions -/

omit hT in
theorem extend_cons (m : IndexedMap τ) (kv : String × Value) (kvs : List (String × Value)) :
    m.extend T hash (kv :: kvs) = (m.insert T hash kv.1 kv.2).1.extend T hash kvs :=
  rfl

theorem Indexed.extend {m : IndexedMap τ} (hm : m.Indexed slots hash) (kvs : List (String × Value)) :
    (m.extend T hash kvs).Indexed slots hash := by
  induction kvs generalizing m with
  | nil => exact hm
  | cons kv kvs ih =>
    rw [extend_cons]
    exact ih (hm.insert hT kv.1 kv.2)

theorem toValueMap_extend {m : IndexedMap τ} (hm : m.Indexed slots hash)
    (kvs : List (String × Value)) : (m.extend T hash kvs).toValueMap = m.toValueMap.extend kvs := by
  induction kvs generalizing m with
  | nil => rfl
  | cons kv kvs ih =>
    have hstep : (m.insert T hash kv.1 kv.2).1.toValueMap = (m.toValueMap.insert kv.1 kv.2).1 :=
      congrArg Prod.fst (toValueMap_insert hT hm kv.1 kv.2)
    rw [extend_cons, ih (hm.insert hT kv.1 kv.2), hstep]
    rfl

theorem indexed_ofList (kvs : List (String × Value)) :
    (ofList T hash kvs).Indexed slots hash :=
  (indexed_withCapacity hT kvs.length).extend hT kvs

/-- A map made from entries is, seen through its entries, the library's map of those entries. -/
theorem toValueMap_ofList (kvs : List (String × Value)) :
    (ofList T hash kvs).toValueMap = ValueMap.ofList kvs :=
  toValueMap_extend hT (indexed_withCapacity hT kvs.length) kvs

end IndexedMap

/-! ## Runs of calls -/

/-- A call a client makes on a stored map. -/
inductive MapOp where
  | insert (key : String) (v : Value)
  | take (key : String)
  /-- A write through the reference to a present key's value: it becomes `f` of what it was. -/
  | update (key : String) (f : Value → Value)
  | extend (kvs : List (String × Value))

namespace MapOp

variable {τ : Type} (T : PositionTable τ) (hash : String → UInt64)

/-- The map after the call. -/
def apply : MapOp → IndexedMap τ → IndexedMap τ
  | insert key v, m => (m.insert T hash key v).1
  | take key, m => (m.take T hash key).1
  | update key f, m => m.update T hash key f
  | extend kvs, m => m.extend T hash kvs

/-- The keys the call inserts, in order. -/
def inserted : MapOp → List String
  | insert key _ => [key]
  | extend kvs => ValueMap.keysOf kvs
  | take _ | update _ _ => []

/-- The value under each key after the call, as a finite map of keys to values has it: the new
value of an inserted key, `null` for a present key taken, a present value changed in place, and
for entries inserted one after another the last value each key is given. -/
def lookupAfter : MapOp → (String → Option Value) → String → Option Value
  | insert key v, σ, j => if j = key then some v else σ j
  | take key, σ, j => if j = key then (σ key).map fun _ => .null else σ j
  | update key f, σ, j => if j = key then (σ key).map f else σ j
  | extend kvs, σ, j => (kvs.reverse.lookup j).or (σ j)

end MapOp

/-- Each key once, at its first occurrence, whatever came before it. -/
theorem nodup_eraseDups : ∀ l : List String, l.eraseDups.Nodup
  | [] => by simp
  | a :: as => by
    rw [List.eraseDups_cons]
    refine List.nodup_cons.mpr ⟨by simp [List.mem_eraseDups], nodup_eraseDups _⟩
termination_by l => l.length
decreasing_by exact Nat.lt_succ_of_le (List.length_filter_le _ _)

/-- Dropping repetitions in two steps drops them at once. -/
theorem eraseDups_eraseDups_append (a b : List String) :
    (a.eraseDups ++ b).eraseDups = (a ++ b).eraseDups := by
  have hremove : b.removeAll a.eraseDups = b.removeAll a := by
    simp [List.removeAll, List.mem_eraseDups]
  rw [List.eraseDups_append, List.eraseDups_append, ValueMap.eraseDups_of_nodup (nodup_eraseDups a),
    hremove]

namespace IndexedMap

variable {τ : Type} {T : PositionTable τ} {slots : τ → List (UInt64 × Nat)}
  {hash : String → UInt64}

/-- A client's calls, one after another. -/
def run (T : PositionTable τ) (hash : String → UInt64) (ops : List MapOp) (m : IndexedMap τ) :
    IndexedMap τ :=
  ops.foldl (fun m op => op.apply T hash m) m

theorem run_cons (op : MapOp) (ops : List MapOp) (m : IndexedMap τ) :
    run T hash (op :: ops) m = run T hash ops (op.apply T hash m) :=
  rfl

variable (hT : T.Lawful slots)
include hT

section Apply

variable {m : IndexedMap τ} (hm : m.Indexed slots hash)
include hm

theorem Indexed.apply (op : MapOp) : (op.apply T hash m).Indexed slots hash := by
  cases op with
  | insert key v => exact hm.insert hT key v
  | take key => exact hm.take hT key
  | update key f => exact hm.update hT key f
  | extend kvs => exact hm.extend hT kvs

/-- A call adds the keys it inserts that are new, after the others. -/
theorem keys_apply (op : MapOp) : (op.apply T hash m).keys = (m.keys ++ op.inserted).eraseDups := by
  have hnodup : m.toValueMap.KeysNodup := hm.keys_nodup
  have hsame : (keysOf m.entries).eraseDups = keysOf m.entries :=
    ValueMap.eraseDups_of_nodup hm.keys_nodup
  cases op with
  | insert key v =>
    have hstep : (m.insert T hash key v).1.toValueMap = (m.toValueMap.insert key v).1 :=
      congrArg Prod.fst (toValueMap_insert hT hm key v)
    have hkeys := ValueMap.keys_extend hnodup [(key, v)]
    simp only [ValueMap.extend, List.foldl_cons, List.foldl_nil] at hkeys
    simpa [MapOp.apply, MapOp.inserted, ← hstep] using hkeys
  | extend kvs =>
    have hkeys := ValueMap.keys_extend hnodup kvs
    rw [← toValueMap_extend hT hm] at hkeys
    simpa [MapOp.apply, MapOp.inserted] using hkeys
  | take key =>
    have hkeys : keysOf (m.take T hash key).1.entries = keysOf m.entries := by
      cases hw : m.entries.lookup key with
      | some w => simp [take, update_of_lookup hT hm hw]
      | none => simp [take, update_of_not_mem hT hm (by simpa using lookup_eq_none_iff_not_mem.mp hw)]
    simp [MapOp.apply, MapOp.inserted, hkeys, hsame]
  | update key f =>
    have hkeys : keysOf (m.update T hash key f).entries = keysOf m.entries := by
      cases hw : m.entries.lookup key with
      | some w => simp [update_of_lookup hT hm hw]
      | none => simp [update_of_not_mem hT hm (by simpa using lookup_eq_none_iff_not_mem.mp hw)]
    simp [MapOp.apply, MapOp.inserted, hkeys, hsame]

/-- After a call each key holds what a finite map of keys to values would hold. -/
theorem get_apply (op : MapOp) (j : String) :
    (op.apply T hash m).get T hash j = op.lookupAfter (m.get T hash) j := by
  rw [get_eq_lookup hT (hm.apply hT op)]
  cases op with
  | insert key v =>
    have hstep : (m.insert T hash key v).1.toValueMap = (m.toValueMap.insert key v).1 :=
      congrArg Prod.fst (toValueMap_insert hT hm key v)
    have hget := ValueMap.get?_insert m.toValueMap key j v
    rw [← hstep] at hget
    simpa [MapOp.apply, MapOp.lookupAfter, get_eq_lookup hT hm] using hget
  | extend kvs =>
    have hget := ValueMap.get?_extend m.toValueMap kvs j
    rw [← toValueMap_extend hT hm] at hget
    simpa [MapOp.apply, MapOp.lookupAfter, get_eq_lookup hT hm] using hget
  | take key =>
    simpa [MapOp.apply, MapOp.lookupAfter, take, get_eq_lookup hT (hm.update hT key _)] using
      get_update hT hm key (fun _ => .null) j
  | update key f =>
    simpa [MapOp.apply, MapOp.lookupAfter, get_eq_lookup hT (hm.update hT key _)] using
      get_update hT hm key f j

end Apply

/-! A run is its calls one after another, so what each call keeps, a run keeps. -/

theorem Indexed.run {m : IndexedMap τ} (hm : m.Indexed slots hash) (ops : List MapOp) :
    (run T hash ops m).Indexed slots hash := by
  induction ops generalizing m with
  | nil => exact hm
  | cons op ops ih =>
    rw [run_cons]
    exact ih (hm.apply hT op)

/-- The keys after a run are those the map had and those the run inserted, each at its first
occurrence. -/
theorem keys_run {m : IndexedMap τ} (hm : m.Indexed slots hash) (ops : List MapOp) :
    (run T hash ops m).keys = (m.keys ++ ops.flatMap MapOp.inserted).eraseDups := by
  induction ops generalizing m with
  | nil => simpa [run] using (ValueMap.eraseDups_of_nodup hm.keys_nodup).symm
  | cons op ops ih =>
    rw [run_cons, ih (hm.apply hT op), keys_apply hT hm, keys_eq, eraseDups_eraseDups_append,
      List.flatMap_cons, List.append_assoc]

/-- After a run each key holds what the finite map of keys to values holds after the same
calls. -/
theorem get_run {m : IndexedMap τ} (hm : m.Indexed slots hash) (ops : List MapOp) (j : String) :
    (run T hash ops m).get T hash j =
      ops.foldl (fun σ op => op.lookupAfter σ) (m.get T hash) j := by
  induction ops generalizing m with
  | nil => rfl
  | cons op ops ih =>
    have hstep : (op.apply T hash m).get T hash = op.lookupAfter (m.get T hash) :=
      funext (get_apply hT hm op)
    rw [run_cons, ih (hm.apply hT op), List.foldl_cons, hstep]

/-! ## Equality -/

/-- Two stored maps are equal exactly when they are equal as finite maps: key by key, both lack
it, or both hold a value under it and the other map's value equals this one's. -/
theorem beq_iff {a b : IndexedMap τ} (ha : a.Indexed slots hash) (hb : b.Indexed slots hash) :
    a.beq T hash b = true ↔
      ∀ k, Option.Rel (fun v w => (w == v) = true) (a.get T hash k) (b.get T hash k) := by
  have hget : ∀ m : IndexedMap τ, m.Indexed slots hash → m.get T hash = fun k => m.entries.lookup k :=
    fun m hm => funext (get_eq_lookup hT hm)
  rw [hget a ha, hget b hb, ← all_lookup_iff (fun v w => w == v) ha.keys_nodup hb.keys_nodup]
  simp only [beq, len_eq, hget b hb]

/-- Equality of stored maps is symmetric once every map inside their values has distinct keys. -/
theorem beq_comm {a b : IndexedMap τ} (ha : a.Indexed slots hash) (hb : b.Indexed slots hash)
    (hva : ∀ e ∈ a.entries, e.2.WellKeyed) (hvb : ∀ e ∈ b.entries, e.2.WellKeyed) :
    a.beq T hash b = b.beq T hash a := by
  rw [Bool.eq_iff_iff, beq_iff hT ha hb, beq_iff hT hb ha]
  refine forall_congr' fun k => ?_
  rw [get_eq_lookup hT ha, get_eq_lookup hT hb]
  exact rel_lookup_comm (fun e he f hf => Value.beq_comm f.2 e.2 (hvb f hf) (hva e he)) k

omit hT in
/-- The keys of a stored map and its number of entries agree. -/
theorem len_eq_keys_length (m : IndexedMap τ) : m.len = m.keys.length := by
  simp [keysOf]

/-! ## Runs from an empty map -/

variable (T slots hash) in
/-- What a stored map reached by a run of calls from an empty map does. -/
structure RunSpec (ops : List MapOp) (m : IndexedMap τ) : Prop where
  indexed : m.Indexed slots hash
  /-- Each key holds what the finite map of keys to values holds after the same calls. -/
  get_eq : ∀ k, m.get T hash k = ops.foldl (fun σ op => op.lookupAfter σ) (fun _ => none) k
  /-- The keys, as iteration gives them, in the order they were first inserted. -/
  keys_eq : m.keys = (ops.flatMap MapOp.inserted).eraseDups
  /-- As many entries as distinct keys inserted. -/
  len_eq : m.len = (ops.flatMap MapOp.inserted).eraseDups.length
  /-- Inserting a present key answers its value and keeps every key where it stands. -/
  insert_present : ∀ k v w, m.get T hash k = some w →
    (m.insert T hash k v).2 = some w ∧ (m.insert T hash k v).1.keys = m.keys
  /-- Taking a key keeps every key where it stands. -/
  take_keys : ∀ k, (m.take T hash k).1.keys = m.keys
  /-- Equal to a stored map exactly when equal to it as finite maps. -/
  beq_iff : ∀ b : IndexedMap τ, b.Indexed slots hash → (m.beq T hash b = true ↔
    ∀ k, Option.Rel (fun v w => (w == v) = true) (m.get T hash k) (b.get T hash k))
  /-- Equal to a stored map as it is equal to this one, when the maps inside their values have
  distinct keys. -/
  beq_comm : ∀ b : IndexedMap τ, b.Indexed slots hash → (∀ e ∈ m.entries, e.2.WellKeyed) →
    (∀ e ∈ b.entries, e.2.WellKeyed) → m.beq T hash b = b.beq T hash m

/-- Every run of calls from a new map, or from one made with room for some entries, keeps the
invariant and behaves as the finite map of keys to values the same calls build, its keys in the
order they were first inserted. -/
theorem run_spec {start : IndexedMap τ} (hstart : start = new T ∨ ∃ n, start = withCapacity T n)
    (ops : List MapOp) : (run T hash ops start).RunSpec T slots hash ops := by
  have hs : start.Indexed slots hash := by
    rcases hstart with rfl | ⟨n, rfl⟩
    · exact indexed_new hT
    · exact indexed_withCapacity hT n
  have hempty : start.entries = [] := by
    rcases hstart with rfl | ⟨n, rfl⟩ <;> rfl
  have hm := hs.run hT ops
  have hkeys : (run T hash ops start).keys = (ops.flatMap MapOp.inserted).eraseDups := by
    rw [keys_run hT hs, keys_eq, hempty]
    rfl
  refine ⟨hm, fun k => ?_, hkeys, by rw [len_eq_keys_length, hkeys], fun k v w hw => ?_,
    fun k => ?_, fun b hb => beq_iff hT hm hb, fun b hb => beq_comm hT hm hb⟩
  · have hnone : start.get T hash = fun _ => none :=
      funext fun j => by rw [get_eq_lookup hT hs, hempty]; rfl
    rw [get_run hT hs, hnone]
  · rw [get_eq_lookup hT hm] at hw
    rw [insert_of_lookup hT hm hw]
    exact ⟨rfl, by simp⟩
  · -- a take inserts nothing, and the keys had no repetition to drop
    have hstep := keys_apply hT hm (.take k)
    have hsame := eraseDups_of_nodup hm.keys_nodup
    simp only [keys_eq] at hstep hsame
    simpa [MapOp.apply, MapOp.inserted, hsame] using hstep

end IndexedMap

/-! ## A table that is a list -/

namespace PositionTable

/-- The simplest table: its elements in a list, searched from the front. -/
def list : PositionTable (List (UInt64 × Nat)) where
  empty := []
  withCapacity _ := []
  find t h test := (t.find? fun s => s.1 == h && test s.2).map (·.2)
  insertUnique t h x rehash := t.map (fun s => (rehash s.2, s.2)) ++ [(h, x)]

theorem list_lawful : list.Lawful id where
  slots_empty := rfl
  slots_withCapacity _ := rfl
  find_some {t h test x} hx := by
    obtain ⟨s, hs, rfl⟩ := Option.map_eq_some_iff.mp hx
    have hpred := List.find?_some hs
    simp only [Bool.and_eq_true, beq_iff_eq] at hpred
    refine ⟨?_, hpred.2⟩
    rw [← hpred.1]
    exact List.mem_of_find?_eq_some hs
  find_none {t h test} hnone x hx := by
    have hfail := List.find?_eq_none.mp (Option.map_eq_none_iff.mp hnone) _ hx
    simpa using hfail
  slots_insertUnique {t h x rehash} hplaced := by
    -- moving the elements places each under the hash it already has
    have hsame : t.map (fun s => (rehash s.2, s.2)) = t := by
      conv => rhs; rw [← List.map_id t]
      exact List.map_congr_left fun s hs => by rw [hplaced s hs]; rfl
    simp [list, hsame]

end PositionTable

namespace IndexedMap

/-- A run on the list table with keys hashed by their length, so that keys of one length
collide: "a" is inserted twice, and "b" taken. -/
theorem run_spec_colliding_keys :
    (run PositionTable.list (fun s => s.length.toUInt64)
      [.insert "a" (.int 1), .insert "b" (.int 2), .insert "a" (.int 3), .take "b"]
      (new PositionTable.list)).RunSpec PositionTable.list id (fun s => s.length.toUInt64)
      [.insert "a" (.int 1), .insert "b" (.int 2), .insert "a" (.int 3), .take "b"] :=
  run_spec PositionTable.list_lawful (Or.inl rfl) _

end IndexedMap

end ObjectMapping
