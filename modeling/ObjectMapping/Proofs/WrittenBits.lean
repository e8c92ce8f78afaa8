import ObjectMapping.Access.Ownership
import ObjectMapping.Proofs.PrimitiveAccess
import ObjectMapping.Proofs.StrategyTwins

/-!
# The written bits of an unfinished instance

Raw access knows which fields of an unfinished instance hold a value only by its written bits.
Everything it releases goes by them: the value a write replaces, what dropping the instance
drops, what finishing leaves alone. So all of it is right exactly when the bits track the slots
(`Uninit.Tracks`): every bit stands for a field of the record, and is set exactly when that
field's slot holds a value.

* `Uninit.Tracks.put`: a write to the field of a bit keeps the bits tracking the slots, and
  `replaced_append_dropped_put` is its ledger: what the write drops and what the instance then
  owns are what it owned before and the value written.
* `Uninit.Tracks.dropped_perm_live`: dropping the instance drops each slot that holds a value
  once, and nothing else.
* `Uninit.Keeps.fill`: finishing keeps the bits tracking the slots, writes only fields whose bit
  is clear, and when it succeeds leaves every bit set.
* `Uninit.finish_eq_fill`: the finished instance is the storage finishing leaves, and
  `Uninit.Keeps.finish` puts the two together.
-/

namespace ObjectMapping

open Json

namespace Uninit

/-! ## The fields of the bits -/

section Fields

variable {d : Descriptor} {i pos : Nat} {off : Option Nat}

/-- The positions of a record's fields, one for each bit. -/
def bitPositions (d : Descriptor) : List Nat :=
  d.properties.map (·.position) ++ d.excluded.map (·.position)

theorem length_bitPositions (d : Descriptor) : (bitPositions d).length = fieldCount d := by
  simp [bitPositions, fieldCount]

theorem fieldOfBit?_position (h : fieldOfBit? d i = some (pos, off)) :
    (bitPositions d)[i]? = some pos := by
  unfold fieldOfBit? at h
  split at h
  · rename_i hi
    obtain ⟨p, hp, hpe⟩ := Option.map_eq_some_iff.mp h
    simp only [Prod.mk.injEq] at hpe
    rw [bitPositions, List.getElem?_append_left (by simpa using hi), List.getElem?_map, hp]
    exact congrArg some hpe.1
  · rename_i hi
    obtain ⟨f, hf, hfe⟩ := Option.map_eq_some_iff.mp h
    simp only [Prod.mk.injEq] at hfe
    rw [bitPositions, List.getElem?_append_right (by simpa using hi), List.getElem?_map,
      List.length_map, hf]
    exact congrArg some hfe.1

theorem fieldOfBit?_lt (h : fieldOfBit? d i = some (pos, off)) : i < fieldCount d := by
  rw [← length_bitPositions]
  exact (List.getElem?_eq_some_iff.mp (fieldOfBit?_position h)).1

theorem fieldOfBit?_isSome (hi : i < fieldCount d) : (fieldOfBit? d i).isSome := by
  unfold fieldOfBit? fieldCount at *
  split
  · rename_i hlt
    simp [hlt]
  · rename_i hge
    simp only [Option.isSome_map]
    simp
    omega

theorem fieldOfBit?_of_position (h : (bitPositions d)[i]? = some pos) :
    ∃ off, fieldOfBit? d i = some (pos, off) := by
  have hi : i < fieldCount d := length_bitPositions d ▸ (List.getElem?_eq_some_iff.mp h).1
  obtain ⟨⟨q, off⟩, hq⟩ := Option.isSome_iff_exists.mp (fieldOfBit?_isSome hi)
  have hqpos : some q = some pos := (fieldOfBit?_position hq).symm.trans h
  exact ⟨off, by rw [hq, Option.some.inj hqpos]⟩

variable (hwf : d.WellFormed)
include hwf

/-- The field of a bit lies inside the record. -/
theorem fieldOfBit?_position_lt (h : fieldOfBit? d i = some (pos, off)) :
    pos < fieldCount d := by
  have hmem : pos ∈ bitPositions d := List.mem_of_getElem? (fieldOfBit?_position h)
  exact List.mem_range.mp (hwf.positions.mem_iff.mp hmem)

/-- Two bits stand for fields at two positions. -/
theorem fieldOfBit?_inj {j : Nat} {off' : Option Nat} (hi : fieldOfBit? d i = some (pos, off))
    (hj : fieldOfBit? d j = some (pos, off')) : i = j := by
  have hnodup : (bitPositions d).Nodup := hwf.positions.nodup_iff.mpr List.nodup_range
  have hlt : i < (bitPositions d).length := by
    rw [length_bitPositions]
    exact fieldOfBit?_lt hi
  exact (List.getElem?_inj hlt hnodup).mp
    ((fieldOfBit?_position hi).trans (fieldOfBit?_position hj).symm)

/-- The bit of a property is its number. -/
theorem fieldOfBit?_property {p : PropertyInfo} (hp : p ∈ d.properties) :
    fieldOfBit? d p.index = some (p.position, p.offset) := by
  obtain ⟨k, hk, rfl⟩ := List.mem_iff_getElem.mp hp
  simp [fieldOfBit?, hwf.index_getElem hk, hk]

end Fields

/-- Every field of a record laid out for raw access has an offset. -/
theorem fieldOfBit?_offset {d : Descriptor} {i pos : Nat} {off : Option Nat}
    (hdesc : Strategy.described d = true) (h : fieldOfBit? d i = some (pos, off)) :
    off.isSome := by
  simp only [Strategy.described, Bool.and_eq_true, List.all_eq_true] at hdesc
  obtain ⟨⟨-, hoffP⟩, hoffE⟩ := hdesc
  unfold fieldOfBit? at h
  split at h
  · obtain ⟨p, hp, hpe⟩ := Option.map_eq_some_iff.mp h
    simp only [Prod.mk.injEq] at hpe
    rw [← hpe.2]
    exact Option.isSome_of_any (hoffP p (List.mem_of_getElem? hp))
  · obtain ⟨f, hf, hfe⟩ := Option.map_eq_some_iff.mp h
    simp only [Prod.mk.injEq] at hfe
    rw [← hfe.2]
    exact Option.isSome_of_any (hoffE f (List.mem_of_getElem? hf))

/-! ## Bits that track the slots -/

/-- The written bits track the slots: every bit stands for a field of the record, and is set
exactly when the field's slot holds a value. -/
structure Tracks (u : Uninit) : Prop where
  length : u.slots.length = fieldCount u.descriptor
  bits : ∀ i ∈ u.written, i < fieldCount u.descriptor
  live : ∀ i pos off, fieldOfBit? u.descriptor i = some (pos, off) →
    (i ∈ u.written ↔ (u.slots.getD pos none).isSome)

@[simp] theorem put_descriptor (u : Uninit) (i pos : Nat) (x : Datum) :
    (u.put i pos x).descriptor = u.descriptor := rfl

@[simp] theorem put_identity (u : Uninit) (i pos : Nat) (x : Datum) :
    (u.put i pos x).identity = u.identity := rfl

@[simp] theorem put_slots (u : Uninit) (i pos : Nat) (x : Datum) :
    (u.put i pos x).slots = u.slots.set pos (some x) := rfl

@[simp] theorem mem_written_put {u : Uninit} {i pos j : Nat} {x : Datum} :
    j ∈ (u.put i pos x).written ↔ j = i ∨ j ∈ u.written := by
  unfold put
  by_cases hi : i ∈ u.written
  · simp only [List.contains_iff_mem, hi, if_true]
    constructor
    · exact Or.inr
    · rintro (rfl | h)
      · exact hi
      · exact h
  · simp [hi, or_comm]

/-- The slot a write fills holds the value written; every other slot is as it was. -/
theorem getD_slots_put {u : Uninit} {i pos q : Nat} {x : Datum} (hpos : pos < u.slots.length) :
    (u.put i pos x).slots.getD q none = if q = pos then some x else u.slots.getD q none := by
  simp only [put_slots, List.getD_eq_getElem?_getD, List.getElem?_set]
  by_cases hq : q = pos
  · subst hq
    simp [hpos]
  · simp [Ne.symm hq, hq]

variable {u : Uninit} {i pos : Nat} {off : Option Nat}

/-- Writing the field of a bit keeps the bits tracking the slots: the bit and the slot are set
together, and no other field shares either. -/
theorem Tracks.put (hu : u.Tracks) (hwf : u.descriptor.WellFormed)
    (hbit : fieldOfBit? u.descriptor i = some (pos, off)) (x : Datum) : (u.put i pos x).Tracks := by
  have hpos : pos < u.slots.length := hu.length ▸ fieldOfBit?_position_lt hwf hbit
  refine ⟨by simp [hu.length], fun j hj => ?_, fun j q off' hj => ?_⟩
  · rcases mem_written_put.mp hj with rfl | hj
    · exact fieldOfBit?_lt hbit
    · exact hu.bits j hj
  · rw [put_descriptor] at hj
    rw [mem_written_put, getD_slots_put hpos]
    by_cases hji : j = i
    · -- the bit written, whose field is the one at `pos`
      subst hji
      obtain ⟨rfl, -⟩ := Prod.mk.inj (Option.some.inj (hj.symm.trans hbit))
      simp
    · -- another bit, whose field is elsewhere
      have hq : q ≠ pos := fun hq => hji (fieldOfBit?_inj hwf (hq ▸ hj) hbit)
      simp only [hji, false_or, hq, if_false]
      exact hu.live j q off' hj

/-! ## What writes and drops release -/

/-- Changing a function at one number below `N` changes what it selects from the numbers below
`N` at that number alone. -/
theorem perm_filterMap_range_update {β : Type} {f g : Nat → Option β} {N i : Nat} (hi : i < N)
    (hfg : ∀ j < N, j ≠ i → f j = g j) :
    ((f i).toList ++ (List.range N).filterMap g).Perm
      ((List.range N).filterMap f ++ (g i).toList) := by
  classical
  induction N with
  | zero => omega
  | succ N ih =>
    have hlast : ∀ h : Nat → Option β,
        (List.range (N + 1)).filterMap h = (List.range N).filterMap h ++ (h N).toList := by
      intro h
      rw [List.range_succ, List.filterMap_append]
      rcases hN : h N with _ | b <;> simp [hN]
    rw [hlast f, hlast g, List.perm_iff_count]
    intro a
    simp only [List.count_append]
    by_cases hiN : i = N
    · -- the number changed is the last: below it both select alike
      subst hiN
      have hsame : (List.range i).filterMap g = (List.range i).filterMap f :=
        List.filterMap_congr fun j hj =>
          (hfg j (by simp at hj; omega) (by simp at hj; omega)).symm
      rw [hsame]
      omega
    · have hN : g N = f N := (hfg N (by omega) (Ne.symm hiN)).symm
      have hbelow := List.perm_iff_count.mp
        (ih (by omega) fun j hj hji => hfg j (by omega) hji) a
      simp only [List.count_append] at hbelow
      rw [hN]
      omega

/-- What dropping the instance drops for one bit. -/
def droppedAt (u : Uninit) (i : Nat) : Option (Option Datum) :=
  if u.written.contains i then
    (fieldOfBit? u.descriptor i).bind fun f => f.2.map fun _ => u.slots.getD f.1 none
  else none

theorem dropped_eq (u : Uninit) :
    u.dropped = (List.range (fieldCount u.descriptor)).filterMap u.droppedAt := rfl

theorem droppedAt_of_field {o : Nat} (hbit : fieldOfBit? u.descriptor i = some (pos, some o)) :
    u.droppedAt i = if i ∈ u.written then some (u.slots.getD pos none) else none := by
  simp [droppedAt, hbit]

/-- A write and its ledger: the value it drops, when its bit was set, and what the instance
then owns are what the instance owned before and the value written. -/
theorem replaced_append_dropped_put (hu : u.Tracks) (hwf : u.descriptor.WellFormed) {o : Nat}
    (hbit : fieldOfBit? u.descriptor i = some (pos, some o)) (x : Datum) :
    (u.replaced i pos ++ (u.put i pos x).dropped).Perm (u.dropped ++ [some x]) := by
  have hpos : pos < u.slots.length := hu.length ▸ fieldOfBit?_position_lt hwf hbit
  have hbit' : fieldOfBit? (u.put i pos x).descriptor i = some (pos, some o) := hbit
  -- the bit written drops what its slot held, and then owns the value written
  have hbefore : (u.droppedAt i).toList = u.replaced i pos := by
    rw [droppedAt_of_field hbit, replaced]
    by_cases hi : i ∈ u.written <;> simp [hi]
  have hafter : (u.put i pos x).droppedAt i = some (some x) := by
    rw [droppedAt_of_field hbit', getD_slots_put hpos]
    simp
  -- every other bit's field is elsewhere, and drops as before
  have hother : ∀ j < fieldCount u.descriptor, j ≠ i →
      u.droppedAt j = (u.put i pos x).droppedAt j := by
    intro j hj hji
    obtain ⟨⟨q, off'⟩, hq⟩ := Option.isSome_iff_exists.mp (fieldOfBit?_isSome hj)
    have hqpos : q ≠ pos := fun h => hji (fieldOfBit?_inj hwf (h ▸ hq) hbit)
    have hslot : (u.put i pos x).slots.getD q none = u.slots.getD q none := by
      rw [getD_slots_put hpos, if_neg hqpos]
    have hmem : (u.put i pos x).written.contains j = u.written.contains j :=
      Bool.eq_iff_iff.mpr (by simp [hji])
    simp only [droppedAt, put_descriptor, hmem, hq, Option.bind_some, hslot]
  have key := perm_filterMap_range_update (fieldOfBit?_lt hbit) hother
  rw [hbefore, hafter] at key
  rw [dropped_eq, dropped_eq, put_descriptor]
  exact key

/-- A write to a field whose bit is clear drops nothing. -/
theorem replaced_of_not_mem (h : i ∉ u.written) : u.replaced i pos = [] := by
  simp [replaced, h]

/-- With the bits tracking the slots, dropping the instance drops only slots that hold a value. -/
theorem Tracks.dropped_isSome (hu : u.Tracks) : ∀ v ∈ u.dropped, v.isSome := by
  intro v hv
  obtain ⟨i, -, hi⟩ := List.mem_filterMap.mp hv
  by_cases hw : i ∈ u.written
  · simp only [List.contains_iff_mem, hw, if_true] at hi
    obtain ⟨⟨q, off⟩, hq, hv⟩ := Option.bind_eq_some_iff.mp hi
    obtain ⟨-, -, rfl⟩ := Option.map_eq_some_iff.mp hv
    exact (hu.live i q off hq).mp hw
  · simp [hw] at hi

/-- With the bits tracking the slots, a write drops only a slot that holds a value. -/
theorem Tracks.replaced_isSome (hu : u.Tracks) (hbit : fieldOfBit? u.descriptor i = some (pos, off)) :
    ∀ v ∈ u.replaced i pos, v.isSome := by
  intro v hv
  unfold replaced at hv
  by_cases hw : i ∈ u.written
  · simp only [List.contains_iff_mem, hw, if_true, List.mem_singleton] at hv
    exact hv ▸ (hu.live i pos off hbit).mp hw
  · simp [hw] at hv

/-- A list read back at each of its indices. -/
theorem range_map_getD {α : Type} (l : List α) (a : α) :
    (List.range l.length).map (fun i => l.getD i a) = l := by
  apply List.ext_getElem
  · simp
  · intro i _ hi
    simp [List.getElem?_eq_getElem hi]

/-- With every bit set, every slot holds a value: each slot is the field of a bit. -/
theorem Tracks.slots_isSome (hu : u.Tracks) (hwf : u.descriptor.WellFormed)
    (hall : ∀ i < fieldCount u.descriptor, i ∈ u.written) : ∀ s ∈ u.slots, s.isSome := by
  intro s hs
  obtain ⟨q, hq, rfl⟩ := List.mem_iff_getElem.mp hs
  have hmem : q ∈ bitPositions u.descriptor :=
    hwf.positions.mem_iff.mpr (List.mem_range.mpr (hu.length ▸ hq))
  obtain ⟨i, hi, hget⟩ := List.mem_iff_getElem.mp hmem
  obtain ⟨off, hbit⟩ := fieldOfBit?_of_position (List.getElem?_eq_some_iff.mpr ⟨hi, hget⟩)
  have hlive := (hu.live i q off hbit).mp (hall i (fieldOfBit?_lt hbit))
  simpa [List.getD_eq_getElem?_getD, hq] using hlive

/-- Dropping the instance drops each slot that holds a value once, and no other: the bits of a
record laid out for raw access stand for its fields one to one. -/
theorem Tracks.dropped_perm_live (hu : u.Tracks) (hwf : u.descriptor.WellFormed)
    (hdesc : Strategy.described u.descriptor = true) :
    u.dropped.Perm (u.slots.filter (·.isSome)) := by
  set bp := bitPositions u.descriptor
  let slotAt := fun q => u.slots.getD q none
  -- each bit drops the slot at its field's position exactly when that slot holds a value
  have hat : ∀ i ∈ List.range (fieldCount u.descriptor),
      u.droppedAt i = Option.guard (·.isSome) (slotAt (bp.getD i 0)) := by
    intro i hi
    obtain ⟨⟨q, off⟩, hq⟩ :=
      Option.isSome_iff_exists.mp (fieldOfBit?_isSome (List.mem_range.mp hi))
    obtain ⟨o, rfl⟩ := Option.isSome_iff_exists.mp (fieldOfBit?_offset hdesc hq)
    have hpos : bp.getD i 0 = q := by
      simp [bp, List.getD_eq_getElem?_getD, fieldOfBit?_position hq]
    rw [droppedAt_of_field hq, hpos]
    by_cases hw : i ∈ u.written
    · rw [if_pos hw, Option.guard_pos ((hu.live i q _ hq).mp hw)]
    · have hnone : (slotAt q).isSome = false :=
        Bool.eq_false_iff.mpr (mt (hu.live i q _ hq).mpr hw)
      simp [hw, Option.guard, hnone]
  have hdropped : u.dropped = (bp.map slotAt).filterMap (Option.guard (·.isSome)) := by
    rw [dropped_eq, List.filterMap_congr hat, ← length_bitPositions]
    conv_rhs => rw [← range_map_getD bp 0]
    rw [List.map_map, List.filterMap_map]
    rfl
  -- the positions of the bits are the positions of the slots, in another order
  have hslots : (List.range (fieldCount u.descriptor)).map slotAt = u.slots := by
    rw [← hu.length]
    exact range_map_getD u.slots none
  have hperm : (bp.map slotAt).Perm u.slots := by
    rw [← hslots]
    exact hwf.positions.map slotAt
  rw [hdropped, ← List.filterMap_eq_filter]
  exact hperm.filterMap _

/-- With every bit set, dropping the instance drops every slot once: what the instance owns is
its storage. -/
theorem Tracks.dropped_perm_slots (hu : u.Tracks) (hwf : u.descriptor.WellFormed)
    (hdesc : Strategy.described u.descriptor = true)
    (hall : ∀ i < fieldCount u.descriptor, i ∈ u.written) : u.dropped.Perm u.slots := by
  have hperm := hu.dropped_perm_live hwf hdesc
  rwa [List.filter_eq_self.mpr (hu.slots_isSome hwf hall)] at hperm

/-! ## Finishing -/

/-- `w` is `u` with more fields written over clear bits: the bits still track the slots, and `w`
owns what `u` owned and the values written. -/
structure Keeps (u w : Uninit) : Prop where
  tracks : w.Tracks
  descriptor : w.descriptor = u.descriptor
  owns : ∃ ds : List Datum, (u.dropped ++ ds.map some).Perm w.dropped

theorem Keeps.refl (hu : u.Tracks) : u.Keeps u := ⟨hu, rfl, [], by simp⟩

theorem Keeps.trans {v w : Uninit} (h₁ : u.Keeps v) (h₂ : v.Keeps w) : u.Keeps w := by
  obtain ⟨ds₁, hp₁⟩ := h₁.owns
  obtain ⟨ds₂, hp₂⟩ := h₂.owns
  refine ⟨h₂.tracks, h₂.descriptor.trans h₁.descriptor, ds₁ ++ ds₂, ?_⟩
  have hsplit : u.dropped ++ (ds₁ ++ ds₂).map some =
      (u.dropped ++ ds₁.map some) ++ ds₂.map some := by simp
  rw [hsplit]
  exact (hp₁.append_right _).trans hp₂

/-- Writing a field whose bit is clear keeps what the instance owned. -/
theorem Keeps.put {w : Uninit} (h : u.Keeps w) (hwf : w.descriptor.WellFormed)
    (hdesc : Strategy.described w.descriptor = true)
    (hbit : fieldOfBit? w.descriptor i = some (pos, off)) (hclear : i ∉ w.written) (v : Datum) :
    u.Keeps (w.put i pos v) := by
  obtain ⟨o, rfl⟩ := Option.isSome_iff_exists.mp (fieldOfBit?_offset hdesc hbit)
  obtain ⟨ds, hp⟩ := h.owns
  have hledger := replaced_append_dropped_put h.tracks hwf hbit v
  rw [replaced_of_not_mem hclear, List.nil_append] at hledger
  refine ⟨h.tracks.put hwf hbit v, h.descriptor, ds ++ [v], ?_⟩
  have hsplit : u.dropped ++ (ds ++ [v]).map some = (u.dropped ++ ds.map some) ++ [some v] := by
    simp
  rw [hsplit]
  exact (hp.append_right _).trans hledger.symm

theorem fillProperty_eq_ok {S : Schema} {w w' : Uninit} {ip : Nat × PropertyInfo}
    (h : fillProperty S w ip = .ok w') :
    (ip.1 ∈ w.written ∧ w' = w) ∨ (ip.1 ∉ w.written ∧ ∃ v, w' = w.put ip.1 ip.2.position v) := by
  unfold fillProperty at h
  by_cases hw : ip.1 ∈ w.written
  · simp only [List.contains_iff_mem, hw, if_true] at h
    exact Or.inl ⟨hw, (Except.ok.inj h).symm⟩
  · simp only [List.contains_iff_mem, hw, if_false] at h
    split at h
    · exact Or.inr ⟨hw, _, (Except.ok.inj h).symm⟩
    · cases h
    · cases h

theorem fillProperty_eq_error {S : Schema} {w w' : Uninit} {ip : Nat × PropertyInfo} {e : MapError}
    (h : fillProperty S w ip = .error (e, w')) : w' = w := by
  unfold fillProperty at h
  split at h
  · cases h
  · split at h
    · cases h
    all_goals
      cases h
      rfl

/-- The first loop of finishing keeps the instance's descriptor. -/
theorem foldlM_fillProperty_descriptor {S : Schema} :
    ∀ (l : List (Nat × PropertyInfo)) (w w' : Uninit),
      l.foldlM (fillProperty S) w = .ok w' → w'.descriptor = w.descriptor
  | [], w, w', h => by
    cases h
    rfl
  | ip :: l, w, w', h => by
    rw [List.foldlM_cons] at h
    obtain ⟨w₁, h₁, h⟩ := bind_eq_ok.mp h
    rw [foldlM_fillProperty_descriptor l w₁ w' h]
    rcases fillProperty_eq_ok h₁ with ⟨-, rfl⟩ | ⟨-, v, rfl⟩
    · rfl
    · rfl

theorem fillExcluded_eq_ok {S : Schema} {w w' : Uninit} {kf : Nat × ExcludedField}
    (h : fillExcluded S w kf = .ok w') :
    ∃ v, w' = w.put (w.descriptor.properties.length + kf.1) kf.2.position v := by
  unfold fillExcluded at h
  split at h
  · exact ⟨_, (Except.ok.inj h).symm⟩
  all_goals cases h

theorem fillExcluded_eq_error {S : Schema} {w w' : Uninit} {kf : Nat × ExcludedField}
    {e : MapError} (h : fillExcluded S w kf = .error (e, w')) : w' = w := by
  unfold fillExcluded at h
  split at h
  · cases h
  all_goals
    cases h
    rfl

theorem fill_eq (S : Schema) (u : Uninit) :
    u.fill S = ((List.range u.descriptor.properties.length).zip u.descriptor.properties).foldlM
        (fillProperty S) u >>= fun w =>
      ((List.range u.descriptor.excluded.length).zip u.descriptor.excluded).foldlM
        (fillExcluded S) w := rfl

section Fill

variable {S : Schema} (hwf : u.descriptor.WellFormed)
  (hdesc : Strategy.described u.descriptor = true)
include hwf hdesc

/-- The first loop of finishing keeps what the instance owns, sets the bit of every property it
passes, and sets no other bit. -/
theorem foldlM_fillProperty :
    ∀ (l : List (Nat × PropertyInfo)) (w : Uninit), u.Keeps w →
      (∀ ip ∈ l, fieldOfBit? u.descriptor ip.1 = some (ip.2.position, ip.2.offset)) →
      (∀ w', l.foldlM (fillProperty S) w = .ok w' → u.Keeps w' ∧
        ∀ j, j ∈ w'.written ↔ j ∈ w.written ∨ ∃ ip ∈ l, j = ip.1) ∧
      ∀ e w', l.foldlM (fillProperty S) w = .error (e, w') → u.Keeps w'
  | [], w, hw, _ => by
    refine ⟨fun w' h => ?_, fun e w' h => by cases h⟩
    cases h
    simpa using hw
  | ip :: l, w, hw, hbits => by
    rw [List.foldlM_cons]
    have hbit := hbits ip List.mem_cons_self
    have hrest := fun w₁ hw₁ => foldlM_fillProperty l w₁ hw₁ fun jp hjp =>
      hbits jp (List.mem_cons_of_mem ip hjp)
    -- the step at `ip` either leaves the instance, writes the property's default, or stops
    cases hstep : fillProperty S w ip with
    | error ew =>
      obtain ⟨e, w₁⟩ := ew
      obtain rfl := fillProperty_eq_error hstep
      exact ⟨fun w' h => (by cases h), fun e' w' h => (by cases h; exact hw)⟩
    | ok w₁ =>
      have hw₁ : u.Keeps w₁ ∧ ∀ j, j ∈ w₁.written ↔ j = ip.1 ∨ j ∈ w.written := by
        rcases fillProperty_eq_ok hstep with ⟨hset, rfl⟩ | ⟨hclear, v, rfl⟩
        · exact ⟨hw, fun j => ⟨Or.inr, fun h => h.elim (fun h => h ▸ hset) id⟩⟩
        · rw [← hw.descriptor] at hwf hdesc hbit
          exact ⟨hw.put hwf hdesc hbit hclear v, fun j => mem_written_put⟩
      obtain ⟨hok, herr⟩ := hrest w₁ hw₁.1
      refine ⟨fun w' h => ?_, fun e w' h => herr e w' h⟩
      obtain ⟨hkeeps, hbits'⟩ := hok w' h
      refine ⟨hkeeps, fun j => ?_⟩
      rw [hbits', hw₁.2]
      simp only [List.mem_cons, exists_eq_or_imp]
      tauto

/-- The second loop of finishing keeps what the instance owns, writing each excluded field over
its clear bit, and sets the bit of every excluded field it passes. -/
theorem foldlM_fillExcluded :
    ∀ (l : List (Nat × ExcludedField)) (w : Uninit), u.Keeps w → (l.map (·.1)).Nodup →
      (∀ kf ∈ l, fieldOfBit? u.descriptor (u.descriptor.properties.length + kf.1) =
        some (kf.2.position, kf.2.offset)) →
      (∀ kf ∈ l, u.descriptor.properties.length + kf.1 ∉ w.written) →
      (∀ w', l.foldlM (fillExcluded S) w = .ok w' → u.Keeps w' ∧
        (∀ j ∈ w.written, j ∈ w'.written) ∧
        ∀ kf ∈ l, u.descriptor.properties.length + kf.1 ∈ w'.written) ∧
      ∀ e w', l.foldlM (fillExcluded S) w = .error (e, w') → u.Keeps w'
  | [], w, hw, _, _, _ => by
    refine ⟨fun w' h => ?_, fun e w' h => by cases h⟩
    cases h
    simpa using hw
  | kf :: l, w, hw, hnodup, hbits, hclear => by
    rw [List.foldlM_cons]
    obtain ⟨hkf, hnodup⟩ := List.nodup_cons.mp hnodup
    cases hstep : fillExcluded S w kf with
    | error ew =>
      obtain ⟨e, w₁⟩ := ew
      obtain rfl := fillExcluded_eq_error hstep
      exact ⟨fun w' h => (by cases h), fun e' w' h => (by cases h; exact hw)⟩
    | ok w₁ =>
      obtain ⟨v, rfl⟩ := fillExcluded_eq_ok hstep
      have hbit := hbits kf List.mem_cons_self
      rw [hw.descriptor]
      have hw₁ : u.Keeps (w.put (u.descriptor.properties.length + kf.1) kf.2.position v) := by
        rw [← hw.descriptor] at hwf hdesc hbit ⊢
        exact hw.put hwf hdesc hbit (hw.descriptor ▸ hclear kf List.mem_cons_self) v
      -- the later excluded fields have other numbers, so their bits are still clear
      have hclear₁ : ∀ kf' ∈ l, u.descriptor.properties.length + kf'.1 ∉
          (w.put (u.descriptor.properties.length + kf.1) kf.2.position v).written := by
        intro kf' hkf' hmem
        rcases mem_written_put.mp hmem with heq | hmem
        · have hsame : kf.1 = kf'.1 := by omega
          exact hkf (List.mem_map.mpr ⟨kf', hkf', hsame.symm⟩)
        · exact hclear kf' (List.mem_cons_of_mem kf hkf') hmem
      obtain ⟨hok, herr⟩ := foldlM_fillExcluded l _ hw₁ hnodup
        (fun kf' hkf' => hbits kf' (List.mem_cons_of_mem kf hkf')) hclear₁
      refine ⟨fun w' h => ?_, herr⟩
      obtain ⟨hkeeps, hgrow, hset⟩ := hok w' h
      refine ⟨hkeeps, fun j hj => hgrow j (mem_written_put.mpr (Or.inr hj)), ?_⟩
      intro kf' hkf'
      rcases List.mem_cons.mp hkf' with rfl | hkf'
      · exact hgrow _ (mem_written_put.mpr (Or.inl rfl))
      · exact hset kf' hkf'

/-- Finishing keeps what the instance owns, writing only fields whose bit is clear, and when it
succeeds every bit is set. An instance it stops on owns what it owned and the defaults written
so far. -/
theorem Keeps.fill (hu : u.Tracks)
    (hprops : ∀ i ∈ u.written, i < u.descriptor.properties.length) :
    (∀ w, u.fill S = .ok w → u.Keeps w ∧ ∀ i < fieldCount u.descriptor, i ∈ w.written) ∧
      ∀ e w, u.fill S = .error (e, w) → u.Keeps w := by
  set n := u.descriptor.properties.length with hn
  have hpbits : ∀ ip ∈ (List.range n).zip u.descriptor.properties,
      fieldOfBit? u.descriptor ip.1 = some (ip.2.position, ip.2.offset) := by
    rintro ⟨i, p⟩ hip
    obtain ⟨hi, rfl⟩ := mem_range_zip hip
    simp [fieldOfBit?, hi]
  have hebits : ∀ kf ∈ (List.range u.descriptor.excluded.length).zip u.descriptor.excluded,
      fieldOfBit? u.descriptor (n + kf.1) = some (kf.2.position, kf.2.offset) := by
    rintro ⟨k, f⟩ hkf
    obtain ⟨hk, rfl⟩ := mem_range_zip hkf
    simp [fieldOfBit?, hn, List.getElem?_eq_getElem hk]
  have hnodup : (((List.range u.descriptor.excluded.length).zip u.descriptor.excluded).map
      (·.1)).Nodup := by
    rw [List.map_fst_zip (by simp)]
    exact List.nodup_range
  obtain ⟨hok₁, herr₁⟩ := foldlM_fillProperty (S := S) hwf hdesc _ u (Keeps.refl hu) hpbits
  rw [fill_eq]
  cases hA : ((List.range n).zip u.descriptor.properties).foldlM (fillProperty S) u with
  | error ew =>
    obtain ⟨e, w⟩ := ew
    exact ⟨fun w' h => (by cases h), fun e' w' h => (by cases h; exact herr₁ e w hA)⟩
  | ok w₁ =>
    obtain ⟨hkeeps₁, hbits₁⟩ := hok₁ w₁ hA
    -- past the properties only property bits are set, so every excluded bit is clear
    have hclear : ∀ kf ∈ (List.range u.descriptor.excluded.length).zip u.descriptor.excluded,
        n + kf.1 ∉ w₁.written := by
      intro kf _ hmem
      rcases (hbits₁ _).mp hmem with hmem | ⟨ip, hip, heq⟩
      · have := hprops _ hmem
        omega
      · obtain ⟨hi, -⟩ := mem_range_zip hip
        omega
    obtain ⟨hok₂, herr₂⟩ :=
      foldlM_fillExcluded (S := S) hwf hdesc _ w₁ hkeeps₁ hnodup hebits hclear
    refine ⟨fun w h => ?_, fun e w h => herr₂ e w h⟩
    obtain ⟨hkeeps, hgrow, hset⟩ := hok₂ w h
    refine ⟨hkeeps, fun i hi => ?_⟩
    by_cases hin : i < n
    · -- a property's bit, set by the first loop if not before
      have hmem : (i, u.descriptor.properties[i]) ∈ (List.range n).zip u.descriptor.properties :=
        List.mem_iff_getElem.mpr
          ⟨i, by simp only [List.length_zip, List.length_range, ← hn, Nat.min_self]; exact hin,
            by simp⟩
      exact hgrow i ((hbits₁ i).mpr (Or.inr ⟨_, hmem, rfl⟩))
    · -- an excluded field's bit, set by the second loop
      have hk : i - n < u.descriptor.excluded.length := by
        simp only [fieldCount] at hi
        omega
      have hmem : (i - n, u.descriptor.excluded[i - n]) ∈
          (List.range u.descriptor.excluded.length).zip u.descriptor.excluded :=
        List.mem_iff_getElem.mpr ⟨i - n, by simpa using hk, by simp⟩
      have hbit := hset _ hmem
      rwa [show n + (i - n) = i by omega] at hbit

end Fill

/-! ## Finishing on the slots alone -/

/-- A fold on an instance that keeps step by step to a fold on its slots gives what that fold
gives, and fails with the same error. -/
theorem foldlM_slots {γ : Type} (step : Uninit → γ → Except (MapError × Uninit) Uninit)
    (stepF : List (Option Datum) → γ → Except MapError (List (Option Datum)))
    (Inv : List γ → Uninit → Prop)
    (hstep : ∀ c l w, Inv (c :: l) w →
      Except.map (·.slots) ((step w c).mapError Prod.fst) = stepF w.slots c ∧
        ∀ w', step w c = .ok w' → Inv l w') :
    ∀ l w, Inv l w →
      Except.map (·.slots) ((l.foldlM step w).mapError Prod.fst) = l.foldlM stepF w.slots
  | [], _, _ => rfl
  | c :: l, w, hw => by
    obtain ⟨hc, hnext⟩ := hstep c l w hw
    rw [List.foldlM_cons, List.foldlM_cons, ← hc]
    cases hs : step w c with
    | error ew => rfl
    | ok w' => exact foldlM_slots step stepF Inv hstep l w' (hnext w' hs)

theorem map_mapError_ok {ε ε' α β : Type} (f : α → β) (g : ε → ε') (a : α) :
    Except.map f ((Except.ok a : Except ε α).mapError g) = .ok (f a) := rfl

/-- Finishing gives the record of the storage it leaves, or the error it stops with: the
property loop, where the bits passed are set as it goes, checks each property's own bit as the
instance had it, since a record's properties have distinct numbers. -/
theorem finish_eq_fill {S : Schema} (hwf : u.descriptor.WellFormed) :
    u.finish S = Except.map (fun w => (⟨u.descriptor.ty, .record (w.slots.map (·.getD .none)),
      u.identity⟩ : Instance)) ((u.fill S).mapError Prod.fst) := by
  have hP : u.descriptor.properties = ((List.range u.descriptor.properties.length).zip
      u.descriptor.properties).map Prod.snd := (List.map_snd_zip (by simp)).symm
  have hE : u.descriptor.excluded = ((List.range u.descriptor.excluded.length).zip
      u.descriptor.excluded).map Prod.snd := (List.map_snd_zip (by simp)).symm
  have hPnodup : (((List.range u.descriptor.properties.length).zip
      u.descriptor.properties).map Prod.fst).Nodup := by
    rw [List.map_fst_zip (by simp)]
    exact List.nodup_range
  unfold finish
  rw [fill_eq]
  dsimp only
  conv_lhs => rw [hP, List.foldlM_map, hE]
  simp only [List.foldlM_map]
  rw [← foldlM_slots (fillProperty S) _ (fun l w => w.descriptor = u.descriptor ∧
      (∀ ip ∈ l, ip.2.index = ip.1 ∧ (ip.1 ∈ w.written ↔ ip.1 ∈ u.written)) ∧
      (l.map Prod.fst).Nodup) ?hprop _ u ⟨rfl, ?hindex, hPnodup⟩]
  case hindex =>
    rintro ⟨i, p⟩ hip
    obtain ⟨hi, rfl⟩ := mem_range_zip hip
    exact ⟨hwf.index_getElem hi, Iff.rfl⟩
  case hprop =>
    rintro ⟨i, p⟩ l w ⟨hdesc, hbits, hnodup⟩
    obtain ⟨hindex, hsame⟩ := hbits (i, p) List.mem_cons_self
    dsimp only at hindex hsame ⊢
    refine ⟨?_, fun w' hw' => ?_⟩
    · -- the same decision on the instance as on its slots
      unfold fillProperty
      rw [hindex, hdesc]
      by_cases hw : i ∈ u.written
      · simp only [List.contains_iff_mem, hsame.mpr hw, hw, if_true]
        rfl
      · simp only [List.contains_iff_mem, mt hsame.mp hw, hw, if_false]
        rcases p.ops.makeDefault S with _ | v <;> rcases p.offset with _ | o <;> rfl
    · -- the later properties have other numbers, so their bits are as the instance had them
      have hi : i ∉ l.map Prod.fst := (List.nodup_cons.mp hnodup).1
      refine ⟨?_, fun jp hjp => ⟨(hbits jp (List.mem_cons_of_mem _ hjp)).1, ?_⟩,
        (List.nodup_cons.mp hnodup).2⟩
      · rcases fillProperty_eq_ok hw' with ⟨-, rfl⟩ | ⟨-, v, rfl⟩
        · exact hdesc
        · exact hdesc
      · have hji : jp.1 ≠ i := fun h => hi (h ▸ List.mem_map_of_mem hjp)
        rw [← (hbits jp (List.mem_cons_of_mem _ hjp)).2]
        rcases fillProperty_eq_ok hw' with ⟨-, rfl⟩ | ⟨-, v, rfl⟩
        · exact Iff.rfl
        · simp [hji]
  cases hA : ((List.range u.descriptor.properties.length).zip u.descriptor.properties).foldlM
      (fillProperty S) u with
  | error ew => rfl
  | ok w₁ =>
    rw [map_mapError_ok, ok_bind, ok_bind]
    rw [← foldlM_slots (fillExcluded S) _ (fun _ w => w.descriptor = u.descriptor) ?hexcl _ w₁
      ?hdesc₁]
    case hexcl =>
      rintro ⟨k, f⟩ l w hdesc
      refine ⟨?_, fun w' hw' => ?_⟩
      · unfold fillExcluded
        rw [hdesc]
        rcases f.ops.makeDefault S with _ | v <;> rcases f.offset with _ | o <;> rfl
      · obtain ⟨v, rfl⟩ := fillExcluded_eq_ok hw'
        exact hdesc
    case hdesc₁ => exact foldlM_fillProperty_descriptor _ u w₁ hA
    cases hB : ((List.range u.descriptor.excluded.length).zip u.descriptor.excluded).foldlM
        (fillExcluded S) w₁ with
    | error ew => rfl
    | ok w => rfl

/-- Finishing an instance whose bits track its slots, and where only properties' bits are set:
when it succeeds, its record is the storage finishing leaves, with every bit set and what the
instance owned kept; when it fails, it fails with the error the storage stops on, and that
storage owns what the instance owned and the defaults written. -/
theorem Keeps.finish {S : Schema} (hu : u.Tracks) (hwf : u.descriptor.WellFormed)
    (hdesc : Strategy.described u.descriptor = true)
    (hprops : ∀ i ∈ u.written, i < u.descriptor.properties.length) :
    (∀ x, u.finish S = .ok x → ∃ w, u.fill S = .ok w ∧ u.Keeps w ∧
        (∀ i < fieldCount u.descriptor, i ∈ w.written) ∧
        x = ⟨u.descriptor.ty, .record (w.slots.map (·.getD .none)), u.identity⟩) ∧
      ∀ e, u.finish S = .error e → ∃ w, u.fill S = .error (e, w) ∧ u.Keeps w := by
  obtain ⟨hok, herr⟩ := Keeps.fill (S := S) hwf hdesc hu hprops
  rw [finish_eq_fill hwf]
  cases hfill : u.fill S with
  | error ew =>
    obtain ⟨e, w⟩ := ew
    refine ⟨fun x h => (by cases h), fun e' h => ?_⟩
    cases h
    exact ⟨w, rfl, herr e w hfill⟩
  | ok w =>
    refine ⟨fun x h => ?_, fun e h => (by cases h)⟩
    cases h
    obtain ⟨hkeeps, hall⟩ := hok w hfill
    exact ⟨w, rfl, hkeeps, hall, rfl⟩

end Uninit

end ObjectMapping
