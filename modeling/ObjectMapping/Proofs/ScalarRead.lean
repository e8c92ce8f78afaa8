import ObjectMapping.Proofs.FactoryRun
import ObjectMapping.Proofs.JsonScan

/-!
# Reading scalars exactly

How a value is read as an integer, a character or a string, whatever the factory holds. The
integer types, their atomics and their non-zero types all read a value through
`Mapper.readInteger`: any of the four integer kinds is taken by its exact value and checked
against the target's range, never wrapped; an integer out of range is refused by its decimal
text and the name of the integer type, a zero by the name of the non-zero type, and any other
kind of value as a mismatch against the kind the type is written as. Unsigned types are written
as the next wider signed kind, and that wider kind is the one a mismatch expects.

* `run_decode_integer`, `run_decode_nonZero`: one level of reading for these types, which leaves
  the factory as it was.
* `decode_scalar_exact`: the whole behaviour, case by case, for every fixed-width integer type
  that has a kind (all but `u64`), and which values a character and a string accept.
-/

namespace ObjectMapping

@[simp] theorem IntType.contains_iff (w : IntType) (n : Int) :
    w.contains n = true ↔ w.min ≤ n ∧ n ≤ w.max := by
  simp [IntType.contains]

/-- Every integer type but `u64` is written as an integer kind. -/
theorem IntType.kind?_isSome {w : IntType} (hw : w ≠ .u64) : ∃ k, w.kind? = some k := by
  cases w <;> simp_all [IntType.kind?]

/-- Zero is a value of every integer type. -/
theorem IntType.contains_zero (w : IntType) : w.min ≤ 0 ∧ 0 ≤ w.max := by
  cases w <;> simp [IntType.min, IntType.max, IntType.signed, IntType.bits]

namespace Mapper

section

variable {w : IntType} {v : Value} {n : Int}

theorem readInteger_of_mem (hv : v.asI64? = some n) (hn : w.min ≤ n ∧ n ≤ w.max) :
    readInteger w v = .ok n := by
  simp [readInteger, hv, (w.contains_iff n).mpr hn]

theorem readInteger_of_not_mem (hv : v.asI64? = some n) (hn : ¬(w.min ≤ n ∧ n ≤ w.max)) :
    readInteger w v = .error (.shape (.outOfRange (toString n) w.name)) := by
  have hc : w.contains n = false := Bool.eq_false_iff.mpr fun h => hn ((w.contains_iff n).mp h)
  simp [readInteger, hv, hc]

theorem readInteger_of_none (hv : v.asI64? = none) :
    readInteger w v = .error (.mismatch (w.kind?.getD .long) v.kind) := by
  simp [readInteger, hv]
  rfl

end

theorem run_map_lift {α β : Type} (g : α → β) (r : Except MapError α) (f : Factory) :
    Factory.run (g <$> lift r) f = (r.map g, f) := by
  cases r <;> rfl

/-- One level of reading, with the schema the factory holds. -/
theorem run_decode_succ (fuel depth : Nat) (t : Ty) (v : Value) (f : Factory) :
    Factory.run (decode (fuel + 1) depth t v) f =
      Factory.run (decodeWith f.schema (decode fuel depth) (deserializeNested fuel depth) t v) f := by
  rw [decode]
  exact Factory.run_bind_ok rfl _

/-- An integer type and its atomic read the integer `readInteger` gives. -/
theorem run_decode_integer {t : Ty} {w : IntType} (ht : t = .int w ∨ t = .atomicInt w)
    (fuel depth : Nat) (v : Value) (f : Factory) :
    Factory.run (decode (fuel + 1) depth t v) f = ((readInteger w v).map .int, f) := by
  rw [run_decode_succ]
  rcases ht with rfl | rfl <;> exact run_map_lift _ _ f

/-- A non-zero type reads the integer `readInteger` gives, and refuses zero by its own name. -/
theorem run_decode_nonZero (w : IntType) (fuel depth : Nat) (v : Value) (f : Factory) :
    Factory.run (decode (fuel + 1) depth (.nonZero w) v) f =
      (readInteger w v >>= fun n =>
        if n = 0 then .error (.shape (.outOfRange "0" w.nonZeroName)) else .ok (.int n), f) := by
  rw [run_decode_succ]
  simp only [decodeWith]
  cases readInteger w v with
  | error e => rfl
  | ok n =>
    rw [Factory.run_bind_ok (Factory.run_lift _ f)]
    show _ = (if n = 0 then _ else _, f)
    by_cases hn : n = 0 <;> simp [hn]

/-- The integer types, their atomics and their non-zero types read the integer `readInteger`
gives, the non-zero types refusing zero by their own name. -/
theorem run_decode_intLike {t : Ty} {w : IntType}
    (ht : t = .int w ∨ t = .atomicInt w ∨ t = .nonZero w) (fuel depth : Nat) (v : Value)
    (f : Factory) :
    Factory.run (decode (fuel + 1) depth t v) f =
      (readInteger w v >>= fun n =>
        if t = .nonZero w ∧ n = 0 then .error (.shape (.outOfRange "0" w.nonZeroName))
        else .ok (.int n), f) := by
  by_cases hnz : t = .nonZero w
  · subst hnz
    rw [run_decode_nonZero]
    simp
  · -- an integer type or its atomic: no zero check
    have hint : t = .int w ∨ t = .atomicInt w := by
      rcases ht with h | h | h
      · exact .inl h
      · exact .inr h
      · exact absurd h hnz
    rw [run_decode_integer hint]
    cases readInteger w v <;> simp [Except.map, hnz]

/-- The kind the integer types, their atomics and their non-zero types are written as is the
integer type's kind. -/
theorem valueOps?_intLike (S : Schema) {t : Ty} {w : IntType} {k : Kind} (hk : w.kind? = some k)
    (ht : t = .int w ∨ t = .atomicInt w ∨ t = .nonZero w) :
    ∃ o, S.valueOps? t = some o ∧ o.kind = k := by
  rcases ht with rfl | rfl | rfl <;> simp [Schema.valueOps?, Schema.intOps, hk]

/-- A character is read from a character, or from a string of exactly one character. -/
theorem readChar_eq_ok {v : Value} {c : Char} :
    readChar v = .ok c ↔ v = .char c ∨ v = .string (String.singleton c) := by
  cases v with
  | char c' => simp [readChar, pure, Except.pure, eq_comm]
  | string s =>
    -- a string of one character is the singleton of that character
    have hs : s = String.singleton c ↔ s.toList = [c] := by
      rw [← String.toList_inj, String.toList_singleton]
    simp only [readChar, Value.string.injEq, hs, reduceCtorEq, false_or]
    split <;> simp_all [pure, Except.pure]
  | _ => simp [readChar, mismatch]

end Mapper

/-- Reading integers is exact and never wraps, and characters and strings are read from exactly
the values that hold one. For the integer types, their atomics and their non-zero
types (over any integer type with a kind, that is all but `u64`): an integer value of any width
inside the type's range is read as itself, unless it is a zero the non-zero type refuses; an
integer outside the range fails with `OutOfRange` of its decimal text against the integer
type's name; a zero fails for a non-zero type with `OutOfRange` of `0` against the non-zero
type's name; any other value fails with a `Mismatch` against the kind the type is written as.
A character is read exactly from a character and from a string of one character, a string
exactly from a string and from a character. No reading changes the factory. -/
theorem decode_scalar_exact (fuel depth : Nat) (v : Value) (f : Factory) :
    (∀ w : IntType, w ≠ .u64 → ∀ t, (t = .int w ∨ t = .atomicInt w ∨ t = .nonZero w) →
      (∀ n, v.asI64? = some n → w.min ≤ n ∧ n ≤ w.max → (t = .nonZero w → n ≠ 0) →
        Factory.run (Mapper.decode (fuel + 1) depth t v) f = (.ok (.int n), f)) ∧
      (∀ n, v.asI64? = some n → ¬(w.min ≤ n ∧ n ≤ w.max) →
        Factory.run (Mapper.decode (fuel + 1) depth t v) f =
          (.error (.shape (.outOfRange (toString n) w.name)), f)) ∧
      (v.asI64? = some 0 → t = .nonZero w →
        Factory.run (Mapper.decode (fuel + 1) depth t v) f =
          (.error (.shape (.outOfRange "0" w.nonZeroName)), f)) ∧
      (v.asI64? = none → ∃ o, f.schema.valueOps? t = some o ∧
        Factory.run (Mapper.decode (fuel + 1) depth t v) f = (.error (.mismatch o.kind v.kind), f))) ∧
    (∀ d f', Factory.run (Mapper.decode (fuel + 1) depth .char v) f = (.ok d, f') ↔
      ∃ c, d = .char c ∧ f' = f ∧ (v = .char c ∨ v = .string (String.singleton c))) ∧
    (∀ d f', Factory.run (Mapper.decode (fuel + 1) depth .string v) f = (.ok d, f') ↔
      ∃ s, d = .string s ∧ f' = f ∧ (v = .string s ∨ ∃ c, v = .char c ∧ s = String.singleton c)) := by
  refine ⟨fun w hw t ht => ?_, fun d f' => ?_, fun d f' => ?_⟩
  · rw [Mapper.run_decode_intLike ht]
    refine ⟨fun n hv hn hnz => ?_, fun n hv hn => ?_, fun hv hnz => ?_, fun hv => ?_⟩
    · have hz : ¬(t = .nonZero w ∧ n = 0) := fun h => hnz h.1 h.2
      simp [Mapper.readInteger_of_mem hv hn, hz]
    · simp [Mapper.readInteger_of_not_mem hv hn]
    · simp [Mapper.readInteger_of_mem hv w.contains_zero, hnz]
    · -- a value of no integer kind is refused against the kind the type is written as
      obtain ⟨k, hk⟩ := IntType.kind?_isSome hw
      obtain ⟨o, ho, hok⟩ := Mapper.valueOps?_intLike f.schema hk ht
      refine ⟨o, ho, ?_⟩
      simp [Mapper.readInteger_of_none hv, hk, hok]
  · rw [Mapper.run_decode_succ]
    simp only [Mapper.decodeWith, Mapper.run_map_lift, Prod.mk.injEq, Json.map_eq_ok]
    constructor
    · rintro ⟨⟨c, hc, rfl⟩, rfl⟩
      exact ⟨c, rfl, rfl, Mapper.readChar_eq_ok.mp hc⟩
    · rintro ⟨c, rfl, rfl, hv⟩
      exact ⟨⟨c, Mapper.readChar_eq_ok.mpr hv, rfl⟩, rfl⟩
  · rw [Mapper.run_decode_succ]
    cases v <;> simp [Mapper.decodeWith, Mapper.mismatch, eq_comm]

end ObjectMapping
