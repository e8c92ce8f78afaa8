import ObjectMapping.Value.Basic
import Mathlib.Data.List.Nodup

/-!
# Laws of value maps

A `ValueMap` grows by `ValueMap.insert`: a key that is present keeps its place and takes the
new value, a new key goes last. Everything below follows from that one rule.

* `keys_insert`, `get?_insert`: one insertion, seen through the keys and through lookup.
* `ValueMap.KeysNodup`: the keys are pairwise distinct. Insertion keeps it
  (`keysNodup_insert`), so every map built by insertion has it.
* `ofList_eq_ofEntries`: entries whose keys are distinct are kept as they are.
* `keys_ofList`, `get?_ofList`: entries with a repeated key give a map in which each key stands
  at its first position and holds its last value; each entry of the map is one of them
  (`mem_entries_ofList`).
-/

namespace ObjectMapping.ValueMap

/-- The keys of a list of entries. -/
def keysOf (es : List (String × Value)) : List String := es.map Prod.fst

/-- The keys of the map are pairwise distinct. -/
def KeysNodup (m : ValueMap) : Prop := m.keys.Nodup

@[simp] theorem keys_ofEntries (es : List (String × Value)) : (ofEntries es).keys = keysOf es :=
  rfl

@[simp] theorem entries_ofEntries (es : List (String × Value)) : (ofEntries es).entries = es :=
  rfl

@[simp] theorem get?_ofEntries (es : List (String × Value)) (k : String) :
    (ofEntries es).get? k = es.lookup k :=
  rfl

@[simp] theorem keysOf_nil : keysOf [] = [] := rfl

@[simp] theorem keysOf_cons (k : String) (v : Value) (es : List (String × Value)) :
    keysOf ((k, v) :: es) = k :: keysOf es :=
  rfl

@[simp] theorem keysOf_append (es fs : List (String × Value)) :
    keysOf (es ++ fs) = keysOf es ++ keysOf fs :=
  List.map_append

theorem lookup_cons_of_ne {j k : String} (h : j ≠ k) (v : Value) (es : List (String × Value)) :
    ((k, v) :: es).lookup j = es.lookup j := by
  simp [List.lookup_cons, beq_eq_false_iff_ne.mpr h]

theorem lookup_eq_none_iff_not_mem {es : List (String × Value)} {k : String} :
    es.lookup k = none ↔ k ∉ keysOf es := by
  induction es with
  | nil => simp
  | cons e es ih =>
    obtain ⟨k', w⟩ := e
    by_cases h : k = k'
    · subst h
      simp
    · simp [lookup_cons_of_ne h, ih, h]

/-! ## Replacing a value in place -/

@[simp] theorem keysOf_replaceIn (k : String) (v : Value) (es : List (String × Value)) :
    keysOf (replaceIn k v es) = keysOf es := by
  induction es with
  | nil => rfl
  | cons e es ih =>
    obtain ⟨k', w⟩ := e
    by_cases h : k' = k <;> simp [replaceIn, h, ih]

theorem lookup_replaceIn (k j : String) (v : Value) (es : List (String × Value)) :
    (replaceIn k v es).lookup j = if j = k then (es.lookup k).map fun _ => v else es.lookup j := by
  induction es with
  | nil => split <;> rfl
  | cons e es ih =>
    obtain ⟨k', w⟩ := e
    by_cases hk : k' = k
    · subst hk
      by_cases hj : j = k'
      · subst hj
        simp [replaceIn]
      · simp [replaceIn, lookup_cons_of_ne hj, hj]
    · have hrest : replaceIn k v ((k', w) :: es) = (k', w) :: replaceIn k v es := by
        simp [replaceIn, hk]
      rw [hrest]
      by_cases hj : j = k'
      · subst hj
        simp [hk]
      · rw [lookup_cons_of_ne hj, ih]
        by_cases hjk : j = k
        · subst hjk
          simp [lookup_cons_of_ne (Ne.symm hk)]
        · simp [hjk, lookup_cons_of_ne hj]

theorem mem_replaceIn {k : String} {v : Value} {es : List (String × Value)}
    {p : String × Value} (h : p ∈ replaceIn k v es) : p ∈ es ∨ p = (k, v) := by
  induction es with
  | nil => simp [replaceIn] at h
  | cons e es ih =>
    obtain ⟨k', w⟩ := e
    by_cases hk : k' = k
    · subst hk
      simp only [replaceIn, beq_self_eq_true, if_true, List.mem_cons] at h
      rcases h with rfl | h
      · exact .inr rfl
      · exact .inl (List.mem_cons_of_mem _ h)
    · simp only [replaceIn, beq_iff_eq, hk, if_false, List.mem_cons] at h
      rcases h with rfl | h
      · exact .inl List.mem_cons_self
      · rcases ih h with h | h
        · exact .inl (List.mem_cons_of_mem _ h)
        · exact .inr h

/-! ## One insertion -/

theorem insert_of_mem {m : ValueMap} {k : String} (v : Value) (h : k ∈ m.keys) :
    (m.insert k v).1 = ofEntries (replaceIn k v m.entries) := by
  obtain ⟨es⟩ := m
  have hsome : es.lookup k ≠ none := fun hn => (lookup_eq_none_iff_not_mem.mp hn) h
  obtain ⟨old, hold⟩ := Option.ne_none_iff_exists'.mp hsome
  simp [insert, get?, entries, hold]

theorem insert_of_not_mem {m : ValueMap} {k : String} (v : Value) (h : k ∉ m.keys) :
    (m.insert k v).1 = ofEntries (m.entries ++ [(k, v)]) := by
  obtain ⟨es⟩ := m
  have hnone : es.lookup k = none := lookup_eq_none_iff_not_mem.mpr h
  simp [insert, get?, entries, hnone]

theorem keys_insert (m : ValueMap) (k : String) (v : Value) :
    (m.insert k v).1.keys = if k ∈ m.keys then m.keys else m.keys ++ [k] := by
  obtain ⟨es⟩ := m
  split
  · rename_i h
    rw [insert_of_mem v h]
    simp [entries]
  · rename_i h
    rw [insert_of_not_mem v h]
    simp [entries]

theorem get?_insert (m : ValueMap) (k j : String) (v : Value) :
    (m.insert k v).1.get? j = if j = k then some v else m.get? j := by
  obtain ⟨es⟩ := m
  by_cases h : k ∈ keysOf es
  · rw [insert_of_mem v h]
    have hsome : es.lookup k ≠ none := fun hn => (lookup_eq_none_iff_not_mem.mp hn) h
    obtain ⟨old, hold⟩ := Option.ne_none_iff_exists'.mp hsome
    simp [lookup_replaceIn, hold, get?, entries]
  · rw [insert_of_not_mem v h]
    have hnone : es.lookup k = none := lookup_eq_none_iff_not_mem.mpr h
    by_cases hj : j = k
    · subst hj
      simp [List.lookup_append, hnone, entries]
    · simp [List.lookup_append, hj, lookup_cons_of_ne hj, get?, entries]

theorem keysNodup_insert {m : ValueMap} (h : m.KeysNodup) (k : String) (v : Value) :
    (m.insert k v).1.KeysNodup := by
  unfold KeysNodup at h ⊢
  rw [keys_insert]
  split
  · exact h
  · rename_i hk
    refine List.nodup_append.mpr ⟨h, List.nodup_singleton k, ?_⟩
    intro a ha b hb hab
    simp only [List.mem_singleton] at hb
    subst hb hab
    exact hk ha

theorem mem_entries_insert {m : ValueMap} {k : String} {v : Value} {p : String × Value}
    (h : p ∈ (m.insert k v).1.entries) : p ∈ m.entries ∨ p = (k, v) := by
  by_cases hk : k ∈ m.keys
  · rw [insert_of_mem v hk, entries_ofEntries] at h
    exact mem_replaceIn h
  · rw [insert_of_not_mem v hk, entries_ofEntries] at h
    simpa using h

/-! ## Many insertions -/

theorem mem_entries_extend {m : ValueMap} {kvs : List (String × Value)} {p : String × Value}
    (h : p ∈ (m.extend kvs).entries) : p ∈ m.entries ∨ p ∈ kvs := by
  induction kvs generalizing m with
  | nil => exact .inl h
  | cons kv kvs ih =>
    simp only [extend, List.foldl_cons] at h
    rw [← extend] at h
    rcases ih h with h | h
    · rcases mem_entries_insert h with h | rfl
      · exact .inl h
      · exact .inr List.mem_cons_self
    · exact .inr (List.mem_cons_of_mem _ h)

theorem keysNodup_extend {m : ValueMap} (h : m.KeysNodup) (kvs : List (String × Value)) :
    (m.extend kvs).KeysNodup := by
  induction kvs generalizing m with
  | nil => exact h
  | cons kv kvs ih => exact ih (keysNodup_insert h kv.1 kv.2)

/-- Inserting entries with new and distinct keys appends them. -/
theorem extend_of_nodup {m : ValueMap} {kvs : List (String × Value)}
    (h : (m.keys ++ keysOf kvs).Nodup) : m.extend kvs = ofEntries (m.entries ++ kvs) := by
  induction kvs generalizing m with
  | nil =>
    obtain ⟨es⟩ := m
    simp [extend, entries]
  | cons kv kvs ih =>
    obtain ⟨k, v⟩ := kv
    have hk : k ∉ m.keys := by
      intro hmem
      exact (List.nodup_append.mp h).2.2 k hmem k (by simp) rfl
    have hstep := insert_of_not_mem v hk
    have hrest : ((m.insert k v).1.keys ++ keysOf kvs).Nodup := by
      rw [hstep]
      simpa [entries, keys, keysOf] using h
    simp only [extend, List.foldl_cons]
    rw [← extend, ih hrest, hstep]
    simp [entries]

/-- Entries whose keys are distinct make the map of exactly those entries. -/
theorem ofList_eq_ofEntries {kvs : List (String × Value)} (h : (keysOf kvs).Nodup) :
    ofList kvs = ofEntries kvs :=
  extend_of_nodup (m := empty) h

/-- Distinct keys have no repetition to remove. -/
theorem eraseDups_of_nodup {l : List String} (h : l.Nodup) : l.eraseDups = l := by
  induction l with
  | nil => rfl
  | cons a l ih =>
    obtain ⟨ha, hl⟩ := List.nodup_cons.mp h
    have hfilter : l.filter (fun b => !b == a) = l :=
      List.filter_eq_self.mpr fun b hb => by
        have hne : b ≠ a := fun hba => ha (hba ▸ hb)
        simpa using hne
    rw [List.eraseDups_cons, hfilter, ih hl]

theorem keys_extend {m : ValueMap} (h : m.KeysNodup) (kvs : List (String × Value)) :
    (m.extend kvs).keys = (m.keys ++ keysOf kvs).eraseDups := by
  induction kvs generalizing m with
  | nil => simpa [extend] using (eraseDups_of_nodup h).symm
  | cons kv kvs ih =>
    obtain ⟨k, v⟩ := kv
    simp only [extend, List.foldl_cons]
    rw [← extend, ih (keysNodup_insert h k v), keys_insert]
    split
    · rename_i hk
      have hdrop : (k :: keysOf kvs).removeAll m.keys = (keysOf kvs).removeAll m.keys := by
        simp [List.cons_removeAll, hk]
      rw [keysOf_cons, List.eraseDups_append, List.eraseDups_append, hdrop]
    · simp

theorem get?_extend (m : ValueMap) (kvs : List (String × Value)) (j : String) :
    (m.extend kvs).get? j = (kvs.reverse.lookup j).or (m.get? j) := by
  induction kvs generalizing m with
  | nil => simp [extend]
  | cons kv kvs ih =>
    obtain ⟨k, v⟩ := kv
    simp only [extend, List.foldl_cons]
    rw [← extend, ih, get?_insert, List.reverse_cons, List.lookup_append, Option.or_assoc]
    by_cases hj : j = k
    · subst hj
      simp
    · simp [hj, lookup_cons_of_ne hj]

/-- A key of a list of entries stands where it first occurs. -/
theorem keys_ofList (kvs : List (String × Value)) : (ofList kvs).keys = (keysOf kvs).eraseDups :=
  keys_extend (m := empty) List.nodup_nil kvs

/-- A key of a list of entries holds the value it is given last. -/
theorem get?_ofList (kvs : List (String × Value)) (j : String) :
    (ofList kvs).get? j = kvs.reverse.lookup j := by
  simpa [ofList, empty] using get?_extend empty kvs j

/-- Every entry of a map built from a list of entries is one of them. -/
theorem mem_entries_ofList {kvs : List (String × Value)} {p : String × Value}
    (h : p ∈ (ofList kvs).entries) : p ∈ kvs := by
  rcases mem_entries_extend h with h | h
  · simp [empty, entries] at h
  · exact h

theorem keysNodup_ofList (kvs : List (String × Value)) : (ofList kvs).KeysNodup :=
  keysNodup_extend (m := empty) List.nodup_nil kvs

end ObjectMapping.ValueMap
