import ObjectMapping.Proofs.FactoryRun

/-!
# Fuel of the reader

Reading a value walks it level by level, and the reader's mutual recursion carries fuel so that
it is structural. An array or a map level spends one unit for each element, a record level four
(decode, nested object, map, property), and options and boxes spend none. `Value.fuel` gives
every value more than it can spend.

This module shows that the fuel never shows in a result: with four units for each node of the
value, every amount of fuel runs the same reader. Each layer of the recursion is a one-level
function that takes the deeper calls as parameters, so the argument is a congruence lemma for
each layer (`decodeWith_congr`, `readMapWith_congr`, ...) and one induction on the size of the
value (`fuelIrrelevant`).
-/

namespace ObjectMapping

theorem Value.size_pos : ∀ v : Value, 0 < v.size
  | .array _ | .map (.ofEntries _) => by simp [Value.size]
  | .null | .bool _ | .byte _ | .short _ | .char _ | .int _ | .long _ | .float _ | .double _
  | .string _ | .object _ => by simp [Value.size]

theorem Value.size_le_sizeList {x : Value} :
    ∀ {items : List Value}, x ∈ items → x.size ≤ Value.sizeList items
  | y :: ys, h => by
    rcases List.mem_cons.mp h with rfl | h
    · simp [Value.sizeList]
    · have := Value.size_le_sizeList h
      simp only [Value.sizeList]; omega

theorem Value.size_le_sizeEntries {k : String} {x : Value} :
    ∀ {es : List (String × Value)}, (k, x) ∈ es → x.size ≤ Value.sizeEntries es
  | (k', y) :: rest, h => by
    rcases List.mem_cons.mp h with h | h
    · cases h; simp [Value.sizeEntries]
    · have := Value.size_le_sizeEntries h
      simp only [Value.sizeEntries]; omega

namespace Mapper

theorem take_size {vm : ValueMap} {p : MappedProperty} {x : Value} (h : take vm p = some x) :
    x.size ≤ Value.sizeEntries vm.entries := by
  have hget : vm.get? p.name = some x := by
    unfold take at h
    split at h
    · rename_i hnull
      split at h
      · cases h; exact hnull
      · cases h
    · exact h
  obtain ⟨l₁, l₂, hsplit, -⟩ := List.lookup_eq_some_iff.mp hget
  exact Value.size_le_sizeEntries (hsplit ▸ List.mem_append_right l₁ List.mem_cons_self)

theorem decodeWith_congr (S : Schema)
    {inner₁ inner₂ nested₁ nested₂ : Ty → Value → FactoryM Datum} {v : Value}
    (hinner : ∀ t x, x.size < v.size → inner₁ t x = inner₂ t x)
    (hnested : ∀ t, nested₁ t v = nested₂ t v) (t : Ty) :
    decodeWith S inner₁ nested₁ t v = decodeWith S inner₂ nested₂ t v := by
  induction t with
  | option t ih => cases v <;> simp only [decodeWith, ih]
  | boxed t ih => simp only [decodeWith, ih]
  | vec t =>
    cases v with
    | array items =>
      simp only [decodeWith]
      rw [mapM_congr_mem fun x hx => hinner t x (by
        have := Value.size_le_sizeList hx; simp only [Value.size]; omega)]
    | _ => rfl
  | array t n =>
    cases v with
    | array items =>
      simp only [decodeWith]
      rw [mapM_congr_mem fun x hx => hinner t x (by
        have := Value.size_le_sizeList hx; simp only [Value.size]; omega)]
    | _ => rfl
  | sortedMap e | hashMap e | fixedMap e =>
    cases v with
    | map m =>
      obtain ⟨es⟩ := m
      simp only [decodeWith, ValueMap.entries]
      congr 1
      apply mapM_congr_mem
      rintro ⟨k, x⟩ hkx
      rw [hinner e x (by have := Value.size_le_sizeEntries hkx; simp only [Value.size]; omega)]
    | _ => rfl
  | named p | apply g a =>
    simp only [decodeWith]
    split <;> simp only [hnested]
  | _ => rfl


theorem setter_congr {dec₁ dec₂ : Ty → Value → FactoryM Datum} (s : Strategy) (loc : Location)
    (target : Target) {incoming : Incoming}
    (h : ∀ t v, incoming = .wire v → dec₁ t v = dec₂ t v) :
    s.setter dec₁ loc target incoming = s.setter dec₂ loc target incoming := by
  cases incoming with
  | boxed x => cases s <;> rfl
  | wire v => cases s <;> simp only [Strategy.setter, Strategy.intoBoxed, h _ v rfl]

theorem setPropertyWith_congr {dec₁ dec₂ : Ty → Value → FactoryM Datum} (m : Mapper)
    (p : MappedProperty) (target : Target) {v : Value} (h : ∀ t, dec₁ t v = dec₂ t v) :
    setPropertyWith dec₁ m p target v = setPropertyWith dec₂ m p target v := by
  unfold setPropertyWith
  split
  · exact setter_congr _ _ _ fun t w hw => by cases hw; exact h t
  · -- a restored instance is written as it is, without reading
    rw [h]
    rfl

theorem readMapWith_congr {set₁ set₂ : MappedProperty → Target → Value → FactoryM Target}
    (m : Mapper) {vm : ValueMap}
    (h : ∀ p target x, take vm p = some x → set₁ p target x = set₂ p target x) :
    readMapWith set₁ m vm = readMapWith set₂ m vm := by
  unfold readMapWith
  refine bind_congr fun S => ?_
  split
  · refine bind_congr fun place => bind_congr fun allocation => ?_
    congr 1
    apply foldlM_congr_mem
    intro target p _
    split
    · rfl
    · rename_i x hx
      rw [h p target x hx]
  · rfl

theorem readMapIntoWith_congr {set₁ set₂ : MappedProperty → Target → Value → FactoryM Target}
    (m : Mapper) {vm : ValueMap} (x : Instance)
    (h : ∀ p target x, take vm p = some x → set₁ p target x = set₂ p target x) :
    readMapIntoWith set₁ m vm x = readMapIntoWith set₂ m vm x := by
  unfold readMapIntoWith
  split
  · split
    · rfl
    · apply foldlM_congr_mem
      intro acc p _
      split
      · rfl
      · split
        · rfl
        · rename_i cur _ w hw
          rw [h p (.existing cur) w hw]
  · rfl

theorem nestedWith_congr {read₁ read₂ : Nat → Mapper → ValueMap → FactoryM Instance}
    (depth : Nat) (t : Ty) {v : Value}
    (h : ∀ inner mapper vm, v = .map vm → read₁ inner mapper vm = read₂ inner mapper vm) :
    nestedWith read₁ depth t v = nestedWith read₂ depth t v := by
  unfold nestedWith
  refine bind_congr fun S => ?_
  split
  · rename_i vm
    split
    · rfl
    · refine bind_congr fun inner => bind_congr fun mapper => ?_
      rw [h inner mapper vm rfl]
  · rfl
  · rfl


/-! ## Fuel -/

/-- Reading a value smaller than `n` is the same run with any fuel of four units per node. -/
def FuelIrrelevant (n : Nat) : Prop :=
  ∀ x t depth F₁ F₂, x.size < n → 4 * x.size ≤ F₁ → 4 * x.size ≤ F₂ →
    decode F₁ depth t x = decode F₂ depth t x

section

variable {n : Nat} (ih : FuelIrrelevant n)
include ih

theorem setProperty_fuel_of {x : Value} (hx : x.size < n) {F₁ F₂ : Nat}
    (h₁ : 4 * x.size + 1 ≤ F₁) (h₂ : 4 * x.size + 1 ≤ F₂) (depth : Nat) (m : Mapper)
    (p : MappedProperty) (target : Target) :
    setProperty F₁ depth m p target x = setProperty F₂ depth m p target x := by
  obtain ⟨a, rfl⟩ : ∃ a, F₁ = a + 1 := ⟨F₁ - 1, by omega⟩
  obtain ⟨b, rfl⟩ : ∃ b, F₂ = b + 1 := ⟨F₂ - 1, by omega⟩
  rw [setProperty, setProperty]
  exact setPropertyWith_congr m p target fun t => ih x t depth a b hx (by omega) (by omega)

theorem readMap_fuel_of {vm : ValueMap} (hvm : Value.sizeEntries vm.entries < n) {F₁ F₂ : Nat}
    (h₁ : 4 * Value.sizeEntries vm.entries + 2 ≤ F₁)
    (h₂ : 4 * Value.sizeEntries vm.entries + 2 ≤ F₂) (depth : Nat) (m : Mapper) :
    readMap F₁ depth m vm = readMap F₂ depth m vm := by
  obtain ⟨a, rfl⟩ : ∃ a, F₁ = a + 1 := ⟨F₁ - 1, by omega⟩
  obtain ⟨b, rfl⟩ : ∃ b, F₂ = b + 1 := ⟨F₂ - 1, by omega⟩
  rw [readMap, readMap]
  refine readMapWith_congr m fun p target x hx => ?_
  have hsize := take_size hx
  exact setProperty_fuel_of ih (by omega) (by omega) (by omega) depth m p target

end

theorem deserializeNested_fuel_of {v : Value} (ih : FuelIrrelevant v.size) {F₁ F₂ : Nat}
    (h₁ : 4 * v.size ≤ F₁ + 1) (h₂ : 4 * v.size ≤ F₂ + 1) (depth : Nat) (t : Ty) :
    deserializeNested F₁ depth t v = deserializeNested F₂ depth t v := by
  have hpos := Value.size_pos v
  obtain ⟨a, rfl⟩ : ∃ a, F₁ = a + 1 := ⟨F₁ - 1, by omega⟩
  obtain ⟨b, rfl⟩ : ∃ b, F₂ = b + 1 := ⟨F₂ - 1, by omega⟩
  rw [deserializeNested, deserializeNested]
  refine nestedWith_congr depth t fun inner mapper vm hv => ?_
  obtain ⟨es⟩ := vm
  subst hv
  simp only [Value.size] at ih h₁ h₂
  exact readMap_fuel_of ih (by simp only [ValueMap.entries]; omega)
    (by simp only [ValueMap.entries]; omega)
    (by simp only [ValueMap.entries]; omega) inner mapper

theorem decode_fuel_of {v : Value} (ih : FuelIrrelevant v.size) {F₁ F₂ : Nat}
    (h₁ : 4 * v.size ≤ F₁) (h₂ : 4 * v.size ≤ F₂) (depth : Nat) (t : Ty) :
    decode F₁ depth t v = decode F₂ depth t v := by
  have hpos := Value.size_pos v
  obtain ⟨a, rfl⟩ : ∃ a, F₁ = a + 1 := ⟨F₁ - 1, by omega⟩
  obtain ⟨b, rfl⟩ : ∃ b, F₂ = b + 1 := ⟨F₂ - 1, by omega⟩
  rw [decode, decode]
  refine bind_congr fun S => decodeWith_congr S (fun t x hx => ?_)
    (fun t => deserializeNested_fuel_of ih (by omega) (by omega) depth t) t
  exact ih x t depth a b hx (by omega) (by omega)

/-- Reading does not depend on the fuel, once there are four units per node of the value. The
induction is on the size of the value: every level hands smaller values down. -/
theorem fuelIrrelevant : ∀ n, FuelIrrelevant n
  | 0 => fun _ _ _ _ _ hx => absurd hx (Nat.not_lt_zero _)
  | n + 1 => fun x t depth F₁ F₂ hx h₁ h₂ => by
    rcases Nat.lt_or_ge x.size n with hlt | hge
    · exact fuelIrrelevant n x t depth F₁ F₂ hlt h₁ h₂
    · have hn : x.size = n := by omega
      exact decode_fuel_of (hn ▸ fuelIrrelevant n) h₁ h₂ depth t

theorem decode_fuel {v : Value} {F₁ F₂ : Nat} (h₁ : 4 * v.size ≤ F₁) (h₂ : 4 * v.size ≤ F₂)
    (depth : Nat) (t : Ty) : decode F₁ depth t v = decode F₂ depth t v :=
  fuelIrrelevant (v.size + 1) v t depth F₁ F₂ (Nat.lt_succ_self _) h₁ h₂

theorem setProperty_fuel {v : Value} {F₁ F₂ : Nat} (h₁ : 4 * v.size + 1 ≤ F₁)
    (h₂ : 4 * v.size + 1 ≤ F₂) (depth : Nat) (m : Mapper) (p : MappedProperty)
    (target : Target) :
    setProperty F₁ depth m p target v = setProperty F₂ depth m p target v :=
  setProperty_fuel_of (fuelIrrelevant (v.size + 1)) (Nat.lt_succ_self _) h₁ h₂ depth m p target

theorem readMap_fuel {vm : ValueMap} {F₁ F₂ : Nat}
    (h₁ : 4 * Value.sizeEntries vm.entries + 2 ≤ F₁)
    (h₂ : 4 * Value.sizeEntries vm.entries + 2 ≤ F₂) (depth : Nat) (m : Mapper) :
    readMap F₁ depth m vm = readMap F₂ depth m vm :=
  readMap_fuel_of (fuelIrrelevant (Value.sizeEntries vm.entries + 1)) (Nat.lt_succ_self _) h₁ h₂
    depth m

end Mapper
end ObjectMapping
