import Mathlib.Data.List.Induction
import ObjectMapping.Schema.Layout

/-!
# Fields lie inside their record

`Footprint.record` places the fields of a record one after another in some order, each at the
first offset after the previous field that its alignment allows. This module shows that the
placement is sound for the raw strategy, which reaches a field by its offset: every field of a
record that is not packed ends within the record's size, at an offset that is a multiple of its
alignment (`record_fits`).

The argument follows `Footprint.place` one field at a time (`place_fits`): the fields placed so far
end before the next free offset, and the next field starts at or after it. The order the fields
are placed in is a permutation of the numbered fields, so each field is found by its number.
-/

namespace ObjectMapping

theorem insertBefore_perm {α : Type} (before : α → α → Bool) (x : α) :
    ∀ l : List α, (insertBefore before x l).Perm (x :: l)
  | [] => List.Perm.refl _
  | y :: ys => by
    unfold insertBefore
    split
    · exact List.Perm.refl _
    · exact ((insertBefore_perm before x ys).cons y).trans (List.Perm.swap x y ys)

/-- Sorting only reorders. -/
theorem stableSort_perm {α : Type} (before : α → α → Bool) :
    ∀ l : List α, (stableSort before l).Perm l
  | [] => List.Perm.refl _
  | x :: xs => (insertBefore_perm before x _).trans ((stableSort_perm before xs).cons x)

/-- Counting the trailing zero bits of a number with at least the number as fuel counts them
all. -/
theorem trailingZerosUpTo_of_le {fuel n : Nat} (h : n ≤ fuel) :
    trailingZerosUpTo fuel n = trailingZeros n := by
  induction fuel using Nat.strongRecOn generalizing n with
  | ind fuel ih =>
    unfold trailingZeros
    cases fuel with
    | zero =>
      obtain rfl : n = 0 := by omega
      rfl
    | succ k =>
      cases n with
      | zero => simp [trailingZerosUpTo]
      | succ m =>
        -- both counts go on with the half, which each has fuel enough for
        simp only [trailingZerosUpTo]
        split_ifs
        · rw [ih k (by omega) (by omega), ih m (by omega) (by omega)]
        · rfl

/-- The trailing zero bits of an even nonzero number are one more than those of its half. -/
theorem trailingZeros_eq (n : Nat) :
    trailingZeros n = if n ≠ 0 ∧ n % 2 = 0 then trailingZeros (n / 2) + 1 else 0 := by
  cases n with
  | zero => rfl
  | succ m =>
    show trailingZerosUpTo (m + 1) (m + 1) = _
    simp only [trailingZerosUpTo]
    split_ifs
    · rw [trailingZerosUpTo_of_le (by omega)]
    · rfl

namespace Footprint

theorem le_roundUp (n align : Nat) : n ≤ roundUp n align := by
  unfold roundUp
  omega

theorem roundUp_mod {align : Nat} (h : 0 < align) (n : Nat) : roundUp n align % align = 0 := by
  unfold roundUp
  have hlt := Nat.mod_lt n h
  rcases Nat.eq_zero_or_pos (n % align) with h0 | hpos
  · rw [h0, Nat.sub_zero, Nat.mod_self, Nat.add_zero, h0]
  · rw [Nat.mod_eq_of_lt (by omega : align - n % align < align), Nat.add_mod,
      Nat.mod_eq_of_lt (by omega : align - n % align < align)]
    rw [show n % align + (align - n % align) = align by omega, Nat.mod_self]

/-- The offset a field is placed at keeps its alignment. -/
theorem aligned_roundUp (n : Nat) (f : Footprint) :
    f.align = 0 ∨ roundUp n f.align % f.align = 0 := by
  rcases Nat.eq_zero_or_pos f.align with h | h
  · exact .inl h
  · exact .inr (roundUp_mod h n)

theorem place_snoc (placement : NichePlacement) (order : List (Nat × Footprint)) (i : Nat)
    (f : Footprint) :
    (place placement (order ++ [(i, f)])).1 =
        (place placement order).1 ++ [(i, roundUp (place placement order).2.1 f.align)] ∧
      (place placement (order ++ [(i, f)])).2.1 =
        roundUp (place placement order).2.1 f.align + f.size := by
  simp only [place, List.foldl_append, List.foldl_cons, List.foldl_nil, and_self]

theorem place_keys (placement : NichePlacement) (order : List (Nat × Footprint)) :
    (place placement order).1.map Prod.fst = order.map Prod.fst := by
  induction order using List.reverseRecOn with
  | nil => rfl
  | append_singleton order x ih =>
    obtain ⟨i, f⟩ := x
    rw [(place_snoc placement order i f).1, List.map_append, ih, List.map_append]
    rfl

/-- Every field placed so far lies before the next free offset, at an offset its alignment
allows. The induction adds one field at the end of the order. -/
theorem place_fits (placement : NichePlacement) (order : List (Nat × Footprint))
    (hnd : (order.map Prod.fst).Nodup) :
    ∀ i f, (i, f) ∈ order → ∃ a, (place placement order).1.lookup i = some a ∧
      a + f.size ≤ (place placement order).2.1 ∧ (f.align = 0 ∨ a % f.align = 0) := by
  induction order using List.reverseRecOn with
  | nil => intro i f h; cases h
  | append_singleton order x ih =>
    obtain ⟨j, g⟩ := x
    rw [List.map_append, List.nodup_append] at hnd
    obtain ⟨hnd, -, hfresh⟩ := hnd
    obtain ⟨hplaced, hoffset⟩ := place_snoc placement order j g
    rw [hplaced, hoffset]
    have hround := le_roundUp (place placement order).2.1 g.align
    intro i f hmem
    rcases List.mem_append.mp hmem with hold | hnew
    · obtain ⟨a, hlook, hsize, halign⟩ := ih hnd i f hold
      refine ⟨a, by rw [List.lookup_append, hlook]; rfl, by omega, halign⟩
    · obtain ⟨rfl, rfl⟩ : i = j ∧ f = g := by simpa using hnew
      have hnone : (place placement order).1.lookup i = none := by
        rw [List.lookup_eq_none_iff]
        intro p hp
        have hk : p.1 ∈ order.map Prod.fst :=
          place_keys placement order ▸ List.mem_map_of_mem hp
        have := hfresh p.1 hk i (by simp)
        simpa using this.symm
      refine ⟨_, by rw [List.lookup_append, hnone]; simp, Nat.le_refl _, aligned_roundUp _ f⟩

theorem recordWith_fits (placement : NichePlacement) (fs : List Footprint) (i : Nat)
    (hi : i < fs.length) :
    fs[i].fitsAt ((recordWith placement false fs).2.getD i 0) (recordWith placement false fs).1 =
      true := by
  -- the placement order is the numbered fields, sorted or not
  have key : ∀ order : List (Nat × Footprint), order.Perm ((List.range fs.length).zip fs) →
      ∀ align niche, fs[i].fitsAt (((List.range fs.length).map fun i =>
          ((place placement order).1.lookup i).getD 0).getD i 0)
        ⟨roundUp (place placement order).2.1 align, align, niche⟩ = true := by
    intro order hperm align niche
    have hkeys : ((List.range fs.length).zip fs).map Prod.fst = List.range fs.length :=
      List.map_fst_zip (by simp)
    have hnd : (order.map Prod.fst).Nodup :=
      (hperm.map Prod.fst).nodup_iff.mpr (by rw [hkeys]; exact List.nodup_range)
    have hmem : (i, fs[i]) ∈ order :=
      hperm.mem_iff.mpr (List.mem_iff_getElem.mpr ⟨i, by simp [hi], by simp⟩)
    obtain ⟨a, hlook, hsize, halign⟩ := place_fits placement order hnd i fs[i] hmem
    have hround := le_roundUp (place placement order).2.1 align
    simp only [List.getD_eq_getElem?_getD, List.getElem?_map, List.getElem?_range hi,
      Option.map_some, Option.getD_some, hlook, fitsAt, Bool.and_eq_true, decide_eq_true_eq,
      Bool.or_eq_true, beq_iff_eq]
    exact ⟨by omega, halign⟩
  unfold recordWith
  simp only [Bool.false_eq_true, if_false]
  split
  · exact key _ (stableSort_perm _ _) _ _
  · exact key _ (List.Perm.refl _) _ _

theorem recordWith_length (placement : NichePlacement) (packed : Bool) (fs : List Footprint) :
    (recordWith placement packed fs).2.length = fs.length := by
  unfold recordWith
  split <;> simp

/-- A record is laid out by one of the two placements of niches. -/
theorem record_eq_recordWith (packed : Bool) (fs : List Footprint) :
    ∃ placement, record packed fs = recordWith placement packed fs := by
  unfold record
  dsimp only
  split
  · split
    · split
      · split
        · exact ⟨.back, rfl⟩
        · exact ⟨.front, rfl⟩
      · exact ⟨.front, rfl⟩
    · exact ⟨.front, rfl⟩
  · exact ⟨.front, rfl⟩

/-- Every field of a record that is not packed lies inside the record, at an offset its
alignment allows. -/
theorem record_fits (fs : List Footprint) (i : Nat) (hi : i < fs.length) :
    i < (record false fs).2.length ∧
      fs[i].fitsAt ((record false fs).2.getD i 0) (record false fs).1 = true := by
  obtain ⟨placement, h⟩ := record_eq_recordWith false fs
  rw [h, recordWith_length]
  exact ⟨hi, recordWith_fits placement fs i hi⟩

end Footprint
end ObjectMapping
