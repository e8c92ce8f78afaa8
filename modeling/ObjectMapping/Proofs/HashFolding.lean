import Mathlib.Data.Nat.Digits.Lemmas
import ObjectMapping.Hashing

/-!
# Folding bytes into a pass-through hash

`NoOpHasher.write` folds bytes into the hash from the last byte to the first, each step rotating
the hash left by eight bits and adding the byte. From a fresh hasher, the hash after `k` bytes is
below `256 ^ k`, so while at most eight bytes go in no step carries a bit around the rotation or
past the top of the addition, and the hash is the little-endian value of the bytes. An integer
narrower than 64 bits is written as its little-endian bytes and so hashes to itself, as a 64-bit
write does.

* `NoOpHasher.write_cons`: a write of `b :: bs` is one step after the write of `bs`.
* `NoOpHasher.rotate_eq`, `NoOpHasher.finish_write`: the shift-and-or of a step is the rotation
  left by eight bits, so a write is a right fold of rotate-and-add steps.
* `NoOpHasher.step_toNat`: below `2 ^ 56` a step is `256 * h + b`, with nothing carried.
* `NoOpHasher.write_fresh`: the run: the hash of at most eight bytes written to a fresh hasher is
  their little-endian value, and below `256 ^ length`.
* `NoOpHasher.write_leBytes`: the little-endian bytes of a number that fits them hash to it.
* `noOpHasher_folds_bytes`: all of it, with the 8-, 16-, 32-bit and pointer-sized writes.
-/

namespace ObjectMapping.NoOpHasher

/-- The shift-and-or a step applies to the hash. -/
theorem rotate_eq (x : UInt64) :
    (x <<< 8 ||| x >>> 56) = UInt64.ofBitVec (x.toBitVec.rotateLeft 8) := by
  apply UInt64.toBitVec_inj.mp
  simp [BitVec.rotateLeft_def]

@[simp] theorem write_nil (h : NoOpHasher) : h.write [] = h := rfl

/-- The last byte goes in first, so a byte in front is folded in after the rest. -/
@[simp] theorem write_cons (h : NoOpHasher) (b : UInt8) (bs : List UInt8) :
    h.write (b :: bs) =
      ⟨((h.write bs).hash <<< 8 ||| (h.write bs).hash >>> 56) + b.toUInt64⟩ := by
  simp [write, List.foldl_append]

/-- A write is a right fold of rotate-and-add steps, from the last byte to the first. -/
theorem finish_write (h : NoOpHasher) (bytes : List UInt8) : (h.write bytes).finish =
    bytes.foldr (fun b acc => UInt64.ofBitVec (acc.toBitVec.rotateLeft 8) + b.toUInt64)
      h.finish := by
  induction bytes with
  | nil => rfl
  | cons b bs ih =>
    simp only [write_cons, finish] at ih ⊢
    rw [rotate_eq, ih]
    rfl

/-- Below `2 ^ 56` the rotation moves nothing around and the addition does not wrap: a step
puts the byte under the hash shifted up by one byte. -/
theorem step_toNat (x : UInt64) (b : UInt8) (hx : x.toNat < 2 ^ 56) :
    (x >>> 56 = 0 ∧ (x <<< 8).toNat + b.toNat < 2 ^ 64) ∧
      ((x <<< 8 ||| x >>> 56) + b.toUInt64).toNat = 256 * x.toNat + b.toNat := by
  have hb : b.toNat < 256 := b.toNat_lt
  have hhigh : x >>> 56 = 0 := by
    apply UInt64.toNat_inj.mp
    simp only [UInt64.toNat_shiftRight, Nat.shiftRight_eq_div_pow]
    simp only [UInt64.reduceToNat, Nat.reduceMod, UInt64.toNat_zero]
    exact Nat.div_eq_of_lt hx
  have hshift : (x <<< 8).toNat = 256 * x.toNat := by
    simp only [UInt64.toNat_shiftLeft, Nat.shiftLeft_eq, UInt64.reduceToNat, Nat.reduceMod]
    rw [Nat.mod_eq_of_lt (by omega)]
    omega
  refine ⟨⟨hhigh, by omega⟩, ?_⟩
  rw [hhigh, UInt64.or_zero, UInt64.toNat_add, hshift, UInt8.toNat_toUInt64]
  exact Nat.mod_eq_of_lt (by omega)

/-- The hash of at most seven bytes leaves the top byte free. -/
theorem lt_two_pow_56 {x n : Nat} (hx : x < 256 ^ n) (hn : n ≤ 7) : x < 2 ^ 56 :=
  calc x < 256 ^ n := hx
    _ ≤ 256 ^ 7 := Nat.pow_le_pow_right (by norm_num) hn
    _ = 2 ^ 56 := by norm_num

/-- The run of a fresh write of at most eight bytes: the hash is the little-endian value of the
bytes and stays below `256 ^ length`, which for the bytes after the first is at most `2 ^ 56`. -/
theorem write_fresh (bytes : List UInt8) (hlen : bytes.length ≤ 8) :
    (NoOpHasher.write {} bytes).hash.toNat = Nat.ofDigits 256 (bytes.map UInt8.toNat) ∧
      (NoOpHasher.write {} bytes).hash.toNat < 256 ^ bytes.length := by
  induction bytes with
  | nil => simp
  | cons b bs ih =>
    obtain ⟨hvalue, hbound⟩ := ih (by simp at hlen; omega)
    have hstep := (step_toNat _ b (lt_two_pow_56 hbound (by simp at hlen; omega))).2
    have hb : b.toNat < 256 := b.toNat_lt
    simp only [write_cons, hstep, List.map_cons, Nat.ofDigits_cons, hvalue, List.length_cons,
      Nat.pow_succ]
    refine ⟨by ring, ?_⟩
    rw [← hvalue]
    nlinarith

/-- No step of a fresh write of at most eight bytes carries: before byte `k` goes in, the hash
(that of the bytes after it) has nothing in its top byte, and adding byte `k` to it shifted up
stays below `2 ^ 64`. -/
theorem write_fresh_no_carry (bytes : List UInt8) (hlen : bytes.length ≤ 8) (k : Nat)
    (hk : k < bytes.length) :
    (NoOpHasher.write {} (bytes.drop (k + 1))).hash >>> 56 = 0 ∧
      ((NoOpHasher.write {} (bytes.drop (k + 1))).hash <<< 8).toNat + bytes[k].toNat < 2 ^ 64 := by
  have hrest := (write_fresh (bytes.drop (k + 1)) (by simp; omega)).2
  exact (step_toNat _ bytes[k] (lt_two_pow_56 hrest (by simp; omega))).1

@[simp] theorem length_leBytes (width : Nat) (n : UInt64) : (leBytes width n).length = width := by
  induction width generalizing n with
  | zero => rfl
  | succ width ih => simp [leBytes, ih]

/-- The little-endian bytes of a number are its digits in base 256, up to the width. -/
theorem ofDigits_leBytes (width : Nat) (n : UInt64) :
    Nat.ofDigits 256 ((leBytes width n).map UInt8.toNat) = n.toNat % 256 ^ width := by
  induction width generalizing n with
  | zero => simp [leBytes, Nat.mod_one]
  | succ width ih =>
    simp only [leBytes, List.map_cons, Nat.ofDigits_cons, ih, UInt64.toNat_toUInt8,
      UInt64.toNat_shiftRight, Nat.shiftRight_eq_div_pow, UInt64.reduceToNat, Nat.reduceMod]
    rw [show (2 : Nat) ^ 8 = 256 by norm_num, Nat.pow_succ', Nat.mod_mul]

/-- The little-endian bytes of a number that fits them, written to a fresh hasher, hash to the
number. -/
theorem write_leBytes {width : Nat} {n : UInt64} (hwidth : width ≤ 8)
    (hn : n.toNat < 256 ^ width) : (NoOpHasher.write {} (leBytes width n)).finish = n := by
  apply UInt64.toNat_inj.mp
  rw [finish, (write_fresh _ (by simpa using hwidth)).1, ofDigits_leBytes, Nat.mod_eq_of_lt hn]

/-- Such a write hashes as a 64-bit write of the number does. -/
theorem write_leBytes_as_u64 {width : Nat} {n : UInt64} (hwidth : width ≤ 8)
    (hn : n.toNat < 256 ^ width) : (NoOpHasher.write {} (leBytes width n)).finish = n ∧
      (NoOpHasher.write {} (leBytes width n)).finish = (NoOpHasher.writeU64 {} n).finish := by
  rw [write_leBytes hwidth hn]
  exact ⟨rfl, rfl⟩

theorem writeU8_eq (h : NoOpHasher) (n : UInt8) : h.writeU8 n = h.write (leBytes 1 n.toUInt64) := by
  simp [writeU8, leBytes]

theorem writeU32_eq (h : NoOpHasher) (n : UInt32) :
    h.writeU32 n = h.write (leBytes 4 n.toUInt64) := by
  -- the bytes of a 32-bit integer are those of its zero-extension, byte for byte
  simp only [writeU32, leBytes]
  rfl

theorem usizeBytes_spec : usizeBytes ≤ 8 ∧ USize.size = 256 ^ usizeBytes := by
  rcases USize.size_eq with h | h <;> simp [usizeBytes, h, Nat.pow_eq]

end ObjectMapping.NoOpHasher

namespace ObjectMapping

open NoOpHasher

/-- The pass-through hasher folds bytes without loss while at most eight go in. A write folds its
bytes from the last to the first, each step rotating the hash left by eight bits and adding the
byte, with wrapping. Written to a fresh hasher, at most eight bytes hash to their little-endian
value, below `256 ^ length`, and no step carries a bit around the rotation or out of the
addition. So on a little-endian target an 8-, 16-, 32-bit or pointer-sized integer written once
to a fresh hasher hashes to itself, zero-extended, as a 64-bit write of it does. -/
theorem noOpHasher_folds_bytes :
    (∀ (h : NoOpHasher) (bytes : List UInt8), (h.write bytes).finish =
      bytes.foldr (fun b acc => UInt64.ofBitVec (acc.toBitVec.rotateLeft 8) + b.toUInt64)
        h.finish) ∧
    (∀ bytes : List UInt8, bytes.length ≤ 8 →
      (NoOpHasher.write {} bytes).finish.toNat =
          (bytes.mapIdx fun i b => b.toNat * 256 ^ i).sum ∧
        (NoOpHasher.write {} bytes).finish.toNat < 256 ^ bytes.length ∧
        ∀ k (hk : k < bytes.length),
          (NoOpHasher.write {} (bytes.drop (k + 1))).hash >>> 56 = 0 ∧
            ((NoOpHasher.write {} (bytes.drop (k + 1))).hash <<< 8).toNat + bytes[k].toNat <
              2 ^ 64) ∧
    (∀ x : UInt8, (NoOpHasher.writeU8 {} x).finish = x.toUInt64 ∧
      (NoOpHasher.writeU8 {} x).finish = (NoOpHasher.writeU64 {} x.toUInt64).finish) ∧
    (∀ x : UInt16, (NoOpHasher.writeU16 {} x).finish = x.toUInt64 ∧
      (NoOpHasher.writeU16 {} x).finish = (NoOpHasher.writeU64 {} x.toUInt64).finish) ∧
    (∀ x : UInt32, (NoOpHasher.writeU32 {} x).finish = x.toUInt64 ∧
      (NoOpHasher.writeU32 {} x).finish = (NoOpHasher.writeU64 {} x.toUInt64).finish) ∧
    (∀ x : USize, (NoOpHasher.writeUsize {} x).finish = x.toUInt64 ∧
      (NoOpHasher.writeUsize {} x).finish = (NoOpHasher.writeU64 {} x.toUInt64).finish) := by
  refine ⟨finish_write, fun bytes hlen => ⟨?_, (write_fresh bytes hlen).2,
    write_fresh_no_carry bytes hlen⟩, ?_, ?_, ?_, ?_⟩
  · rw [finish, (write_fresh bytes hlen).1, Nat.ofDigits_eq_sum_mapIdx]
    simp [List.mapIdx_eq_zipIdx_map, List.zipIdx_map, Function.comp_def]
  · intro x
    rw [writeU8_eq]
    exact write_leBytes_as_u64 (by norm_num) (by simpa using x.toNat_lt)
  · intro x
    exact write_leBytes_as_u64 (by norm_num) (by simpa using x.toNat_lt)
  · intro x
    rw [writeU32_eq]
    exact write_leBytes_as_u64 (by norm_num) (by simpa using x.toNat_lt)
  · intro x
    obtain ⟨hwidth, hsize⟩ := usizeBytes_spec
    exact write_leBytes_as_u64 hwidth (by simp [← hsize, USize.toNat_lt_size])

/-- Two bytes, the low one first, hash to their little-endian value. -/
theorem two_bytes_hash_little_endian :
    ([0x34, 0x12] : List UInt8).length ≤ 8 ∧
      (NoOpHasher.write {} [0x34, 0x12]).finish.toNat = 0x1234 :=
  ⟨by decide, by rw [(noOpHasher_folds_bytes.2.1 [0x34, 0x12] (by decide)).1]; decide⟩

end ObjectMapping
