import ObjectMapping.Proofs.JsonText

/-!
# Equality of values

`Value.beq` compares floats as IEEE numbers, references by the instance they point to, and maps
regardless of the order of their entries: a map equals another when both have as many entries
and each of its entries has an equal value under its key in the other. That second half looks
one way only, and it is the keys being distinct that makes the whole symmetric.

* `ValueMap.all_lookup_iff`: for lists of entries with distinct keys, "as many entries, and each
  related to the other's value under its key" is "related key by key, as finite maps".
* `Value.beq_comm`: on values whose maps have distinct keys (`Value.WellKeyed`), as every map
  built by insertion has, equality is symmetric.
-/

namespace ObjectMapping

open ValueMap

namespace Float

theorem Binary64.ieeeEq_comm (x y : Binary64) : x.ieeeEq y = y.ieeeEq x := by
  unfold Binary64.ieeeEq
  cases x.classify <;> cases y.classify <;> simp [Bool.beq_comm]

theorem Binary32.ieeeEq_comm (x y : Binary32) : x.ieeeEq y = y.ieeeEq x := by
  unfold Binary32.ieeeEq
  cases x.classify <;> cases y.classify <;> simp [Bool.beq_comm]

end Float

/-! ## Entries as finite maps -/

namespace ValueMap

theorem lookup_isSome_iff {es : List (String × Value)} {k : String} :
    (es.lookup k).isSome ↔ k ∈ keysOf es := by
  rw [← not_iff_not, Option.not_isSome_iff_eq_none]
  exact lookup_eq_none_iff_not_mem

theorem mem_of_lookup_eq_some {es : List (String × Value)} {k : String} {v : Value}
    (h : es.lookup k = some v) : (k, v) ∈ es := by
  obtain ⟨l₁, l₂, rfl, -⟩ := List.lookup_eq_some_iff.mp h
  simp

/-- With distinct keys, an entry is what its key looks up. -/
theorem lookup_of_mem {es : List (String × Value)} (h : (keysOf es).Nodup) {e : String × Value}
    (hmem : e ∈ es) : es.lookup e.1 = some e.2 := by
  induction es with
  | nil => simp at hmem
  | cons e' es ih =>
    obtain ⟨k', w⟩ := e'
    obtain ⟨hk', hes⟩ := List.nodup_cons.mp h
    rcases List.mem_cons.mp hmem with rfl | hmem
    · simp
    · have hk : e.1 ∈ keysOf es := List.mem_map_of_mem hmem
      have hne : e.1 ≠ k' := fun heq => hk' (heq ▸ hk)
      rw [lookup_cons_of_ne hne]
      exact ih hes hmem

/-- Two lists of entries with distinct keys, compared as the library compares maps (as many
entries, and each related by `r` to the value the other holds under its key), are related key
by key as finite maps. -/
theorem all_lookup_iff (r : Value → Value → Bool) {es fs : List (String × Value)}
    (hes : (keysOf es).Nodup) (hfs : (keysOf fs).Nodup) :
    (es.length == fs.length && es.all fun e => (fs.lookup e.1).any (r e.2)) = true ↔
      ∀ k, Option.Rel (fun v w => r v w = true) (es.lookup k) (fs.lookup k) := by
  simp only [Bool.and_eq_true, beq_iff_eq, List.all_eq_true]
  constructor
  · rintro ⟨hlen, hall⟩ k
    -- every key of `es` is a key of `fs`; as many distinct keys on both sides, so the same keys
    have hsub : keysOf es ⊆ keysOf fs := by
      intro j hj
      obtain ⟨e, he, rfl⟩ := List.mem_map.mp hj
      obtain ⟨w, hw, -⟩ := (Option.any_eq_true _ _).mp (hall e he)
      exact lookup_isSome_iff.mp (by simp [hw])
    have hperm : (keysOf es).Perm (keysOf fs) :=
      (hes.subperm hsub).perm_of_length_le (by simp [keysOf, hlen])
    cases hv : es.lookup k with
    | none =>
      have hk : k ∉ keysOf fs := fun hk =>
        lookup_eq_none_iff_not_mem.mp hv (hperm.mem_iff.mpr hk)
      simp [lookup_eq_none_iff_not_mem.mpr hk]
    | some v =>
      obtain ⟨w, hw, hr⟩ := (Option.any_eq_true _ _).mp (hall (k, v) (mem_of_lookup_eq_some hv))
      simpa [hw] using hr
  · intro hrel
    have hkeys : ∀ k, k ∈ keysOf es ↔ k ∈ keysOf fs := by
      intro k
      rw [← lookup_isSome_iff, ← lookup_isSome_iff]
      have hk := hrel k
      cases hv : es.lookup k <;> cases hw : fs.lookup k <;> simp_all
    refine ⟨?_, fun e he => ?_⟩
    · simpa [keysOf] using ((List.perm_ext_iff_of_nodup hes hfs).mpr hkeys).length_eq
    · have hr := hrel e.1
      rw [lookup_of_mem hes he] at hr
      cases hw : fs.lookup e.1 with
      | none => simp [hw] at hr
      | some w => simpa [hw] using hr

/-- Key by key, entries related by a relation that is symmetric on their values are related
both ways. -/
theorem rel_lookup_comm {r : Value → Value → Bool} {es fs : List (String × Value)}
    (hr : ∀ e ∈ es, ∀ f ∈ fs, r e.2 f.2 = r f.2 e.2) (k : String) :
    Option.Rel (fun v w => r v w = true) (es.lookup k) (fs.lookup k) ↔
      Option.Rel (fun v w => r v w = true) (fs.lookup k) (es.lookup k) := by
  cases hv : es.lookup k <;> cases hw : fs.lookup k
  · simp
  · simp
  · simp
  · rename_i v w
    rw [Option.rel_some_some, Option.rel_some_some,
      hr (k, v) (mem_of_lookup_eq_some hv) (k, w) (mem_of_lookup_eq_some hw)]

end ValueMap

/-! ## Symmetry -/

namespace Value

theorem wellKeyedEntries_iff {es : List (String × Value)} :
    WellKeyedEntries es ↔ ∀ e ∈ es, e.2.WellKeyed := by
  induction es with
  | nil => simp [WellKeyedEntries]
  | cons e rest ih =>
    obtain ⟨k, v⟩ := e
    simp [WellKeyedEntries, ih]

/-- Values of different kinds are never equal. -/
theorem beq_of_kind_ne {v w : Value} (h : v.kind ≠ w.kind) : Value.beq v w = false := by
  unfold Value.beq
  split <;> simp_all [Value.kind]

/-- Equality is symmetric on values that are neither arrays nor maps. -/
theorem beq_comm_flat {v w : Value} (harray : v.kind ≠ .array) (hmap : v.kind ≠ .map) :
    Value.beq v w = Value.beq w v := by
  by_cases hk : v.kind = w.kind
  · -- only values of one kind can be equal, and each kind compares symmetrically
    cases v <;> cases w <;> simp [Value.kind] at hk harray hmap <;>
      simp only [Value.beq, Bool.beq_comm, Float.Binary32.ieeeEq_comm,
        Float.Binary64.ieeeEq_comm]
  · rw [beq_of_kind_ne hk, beq_of_kind_ne (Ne.symm hk)]

theorem beqEntries_eq_all (other : ValueMap) (es : List (String × Value)) :
    Value.beqEntries es other = es.all fun e => (other.get? e.1).any (Value.beq e.2) := by
  induction es with
  | nil => rfl
  | cons e rest ih =>
    obtain ⟨k, v⟩ := e
    simp only [Value.beqEntries, List.all_cons, ih]
    cases other.get? k <;> rfl

/-- Two maps with distinct keys are equal, as values, when their entries are related key by
key; so one map equals another as the other equals it, when their values do. -/
theorem beq_map_comm {es fs : List (String × Value)} (hes : (keysOf es).Nodup)
    (hfs : (keysOf fs).Nodup)
    (hvalues : ∀ e ∈ es, ∀ f ∈ fs, Value.beq e.2 f.2 = Value.beq f.2 e.2) :
    Value.beq (.map (.ofEntries es)) (.map (.ofEntries fs)) =
      Value.beq (.map (.ofEntries fs)) (.map (.ofEntries es)) := by
  have hleft : Value.beq (.map (.ofEntries es)) (.map (.ofEntries fs)) =
      (es.length == fs.length && es.all fun e => (fs.lookup e.1).any (Value.beq e.2)) := by
    show (es.length == (ValueMap.ofEntries fs).size && Value.beqEntries es (.ofEntries fs)) = _
    rw [beqEntries_eq_all]
    rfl
  have hright : Value.beq (.map (.ofEntries fs)) (.map (.ofEntries es)) =
      (fs.length == es.length && fs.all fun e => (es.lookup e.1).any (Value.beq e.2)) := by
    show (fs.length == (ValueMap.ofEntries es).size && Value.beqEntries fs (.ofEntries es)) = _
    rw [beqEntries_eq_all]
    rfl
  rw [hleft, hright, Bool.eq_iff_iff, all_lookup_iff _ hes hfs, all_lookup_iff _ hfs hes]
  exact forall_congr' (rel_lookup_comm hvalues)

mutual

/-- Equality of values is symmetric, once every map inside them has distinct keys. -/
theorem beq_comm : ∀ v w : Value, v.WellKeyed → w.WellKeyed → Value.beq v w = Value.beq w v
  | .array xs, w, hv, hw => by
    by_cases hk : w.kind = .array
    · cases w with
      | array ys => exact beqList_comm xs ys hv hw
      | _ => simp [Value.kind] at hk
    · exact (beq_of_kind_ne (Ne.symm hk)).trans (beq_of_kind_ne hk).symm
  | .map (.ofEntries es), w, hv, hw => by
    by_cases hk : w.kind = .map
    · cases w with
      | map other =>
        obtain ⟨fs⟩ := other
        refine beq_map_comm hv.1 hw.1 fun e he f hf => ?_
        exact beqEntries_comm es hv.2 e he f.2 (wellKeyedEntries_iff.mp hw.2 f hf)
      | _ => simp [Value.kind] at hk
    · exact (beq_of_kind_ne (Ne.symm hk)).trans (beq_of_kind_ne hk).symm
  | .null, _, _, _ | .bool _, _, _, _ | .byte _, _, _, _ | .short _, _, _, _ | .char _, _, _, _
  | .int _, _, _, _ | .long _, _, _, _ | .float _, _, _, _ | .double _, _, _, _
  | .string _, _, _, _ | .object _, _, _, _ => beq_comm_flat nofun nofun

theorem beqList_comm : ∀ xs ys : List Value, WellKeyedList xs → WellKeyedList ys →
    Value.beqList xs ys = Value.beqList ys xs
  | [], [], _, _ | [], _ :: _, _, _ | _ :: _, [], _, _ => rfl
  | x :: xs, y :: ys, hx, hy => by
    show (Value.beq x y && Value.beqList xs ys) = (Value.beq y x && Value.beqList ys xs)
    rw [beq_comm x y hx.1 hy.1, beqList_comm xs ys hx.2 hy.2]

theorem beqEntries_comm : ∀ es : List (String × Value), WellKeyedEntries es →
    ∀ e ∈ es, ∀ w : Value, w.WellKeyed → Value.beq e.2 w = Value.beq w e.2
  | [], _, _, he, _, _ => absurd he List.not_mem_nil
  | (k, v) :: rest, hes, e, he, w, hw => by
    rcases List.mem_cons.mp he with rfl | he
    · exact beq_comm v w hes.1 hw
    · exact beqEntries_comm rest hes.2 e he w hw

end

end Value

end ObjectMapping
