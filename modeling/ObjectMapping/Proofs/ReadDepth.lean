import ObjectMapping.Proofs.UnderLimit

/-!
# The reader under a lower limit of nesting

The reader counts depth only where it reads a record from a map through the nested reading
(`nestedWith`): it enters one level, checks it against the factory's limit, and reads the
record's properties with the mapper kept for its type. Options, boxes, lists, arrays and the
values of sorted or hashed maps pass their depth on unchanged, and a value map is taken whole:
the reader never looks for records inside one.

* `Value.ReadNests S T t v k`: reading `v` as `t` reads a record `k` levels down, with the
  mappers of `T`; `Value.ReadsPast`, `Mapper.PropertiesPast` and `Value.NestedPast` say that a
  reading at some depth goes deeper than a limit `D`.
* One lemma per level of the reader (`decodeWith_limit`, `setPropertyWith_limit`,
  `readMapWith_limit`, `nestedWith_limit`), each from the rules of `LimitAgrees`, and
  `reader_limit` by induction on the fuel.
* `readValue_limit`: reading a value with a mapper gives, under any limit `D`, what it gave, unless
  it reads a record deeper than `D`; then it fails, and the cause is `DepthExceeded D`.
-/

namespace ObjectMapping

open HoldsFactory

/-! ## What the reader reads as a record -/

/-- The record a type is read as from a map by the reader's nested reading: a declared type that
is not a scalar of the schema, read through the descriptor it carries. -/
def Schema.nestedRecord? (S : Schema) : Ty → Option Descriptor
  | t@(.named _) | t@(.apply _ _) =>
    if (S.scalar? t).isSome then none else Factory.descriptorOf S t
  | _ => none

/-- The type a mapper reads a present property's value as: the terminal type of the property's
adapters, or else the type of the field the property is written to. -/
def MappedProperty.readTy (p : MappedProperty) : Ty :=
  if p.chain.isEmpty then p.location.property.ops.ty else p.chain.terminal.ty

/-- Reading the value `v` as an instance of `t` reads a map as a record `k` levels down: the
record counts one level, and its properties are read with the mapper kept for it in `T`. Options,
boxes, lists and the values of maps add no level, and a value map is taken whole, so nothing
inside it counts. -/
inductive Value.ReadNests (S : Schema) (T : List (Ty × Mapper)) : Ty → Value → Nat → Prop
  | option {t : Ty} {v : Value} {k : Nat} :
      v ≠ .null → Value.ReadNests S T t v k → Value.ReadNests S T (.option t) v k
  | boxed {t : Ty} {v : Value} {k : Nat} :
      Value.ReadNests S T t v k → Value.ReadNests S T (.boxed t) v k
  | vec {t : Ty} {items : List Value} {x : Value} {k : Nat} :
      x ∈ items → Value.ReadNests S T t x k → Value.ReadNests S T (.vec t) (.array items) k
  | array {t : Ty} {n : Nat} {items : List Value} {x : Value} {k : Nat} :
      x ∈ items → Value.ReadNests S T t x k → Value.ReadNests S T (.array t n) (.array items) k
  | sortedMap {e : Ty} {m : ValueMap} {kx : String × Value} {k : Nat} :
      kx ∈ m.entries → Value.ReadNests S T e kx.2 k → Value.ReadNests S T (.sortedMap e) (.map m) k
  | hashMap {e : Ty} {m : ValueMap} {kx : String × Value} {k : Nat} :
      kx ∈ m.entries → Value.ReadNests S T e kx.2 k → Value.ReadNests S T (.hashMap e) (.map m) k
  | fixedMap {e : Ty} {m : ValueMap} {kx : String × Value} {k : Nat} :
      kx ∈ m.entries → Value.ReadNests S T e kx.2 k → Value.ReadNests S T (.fixedMap e) (.map m) k
  | record {t : Ty} {vm : ValueMap} {d : Descriptor} :
      S.nestedRecord? t = some d → Value.ReadNests S T t (.map vm) 1
  | property {t : Ty} {vm : ValueMap} {d : Descriptor} {m : Mapper} {p : MappedProperty}
      {x : Value} {k : Nat} :
      S.nestedRecord? t = some d → T.lookup d.ops.ty = some m → p ∈ m.properties →
      Mapper.take vm p = some x → Value.ReadNests S T p.readTy x k →
      Value.ReadNests S T t (.map vm) (k + 1)

section Past

variable (S : Schema) (T : List (Ty × Mapper)) (D : Nat)

/-- Reading `v` as `t` at nesting depth `depth` reads a record deeper than the limit `D`. -/
def Value.ReadsPast (depth : Nat) (t : Ty) (v : Value) : Prop :=
  ∃ k, Value.ReadNests S T t v k ∧ D < depth + k

/-- Reading the properties present in a map with the mapper `m`, at nesting depth `depth`, reads
a record deeper than the limit `D`. -/
def Mapper.PropertiesPast (depth : Nat) (m : Mapper) (vm : ValueMap) : Prop :=
  ∃ p ∈ m.properties, ∃ x, Mapper.take vm p = some x ∧ Value.ReadsPast S T D depth p.readTy x

/-- The nested reading of `v` as `t` at nesting depth `depth` passes the limit `D`: `v` is a map
read as the record `t` carries, and the record's level or one below it is deeper than `D`. -/
def Value.NestedPast (depth : Nat) (t : Ty) (v : Value) : Prop :=
  ∃ d vm, Factory.descriptorOf S t = some d ∧ v = .map vm ∧
    (D < depth + 1 ∨ ∃ m, T.lookup d.ops.ty = some m ∧ Mapper.PropertiesPast S T D (depth + 1) m vm)

variable {S T D}

theorem readsPast_record {t : Ty} {d : Descriptor} (h : S.nestedRecord? t = some d)
    {depth : Nat} {vm : ValueMap} :
    Value.ReadsPast S T D depth t (.map vm) ↔
      D < depth + 1 ∨ ∃ m, T.lookup d.ops.ty = some m ∧ Mapper.PropertiesPast S T D (depth + 1) m vm := by
  constructor
  · rintro ⟨k, hk, hlt⟩
    cases hk with
    | record => exact .inl hlt
    | property hd hm hp hx hk' =>
      rw [h, Option.some.injEq] at hd
      subst hd
      exact .inr ⟨_, hm, _, hp, _, hx, _, hk', by omega⟩
    | _ => simp [Schema.nestedRecord?] at h
  · rintro (hlt | ⟨m, hm, p, hp, x, hx, k, hk, hlt⟩)
    · exact ⟨1, .record h, hlt⟩
    · exact ⟨k + 1, .property h hm hp hx hk, by omega⟩

theorem readsPast_option {t : Ty} {depth : Nat} {v : Value} :
    Value.ReadsPast S T D depth (.option t) v ↔ v ≠ .null ∧ Value.ReadsPast S T D depth t v := by
  constructor
  · rintro ⟨k, hk, hlt⟩
    cases hk with
    | option hv hk' => exact ⟨hv, k, hk', hlt⟩
    | _ => simp_all [Schema.nestedRecord?]
  · rintro ⟨hv, k, hk, hlt⟩
    exact ⟨k, .option hv hk, hlt⟩

theorem readsPast_boxed {t : Ty} {depth : Nat} {v : Value} :
    Value.ReadsPast S T D depth (.boxed t) v ↔ Value.ReadsPast S T D depth t v := by
  constructor
  · rintro ⟨k, hk, hlt⟩
    cases hk with
    | boxed hk' => exact ⟨k, hk', hlt⟩
    | _ => simp_all [Schema.nestedRecord?]
  · rintro ⟨k, hk, hlt⟩
    exact ⟨k, .boxed hk, hlt⟩

theorem readsPast_vec {t : Ty} {depth : Nat} {items : List Value} :
    Value.ReadsPast S T D depth (.vec t) (.array items) ↔
      ∃ x ∈ items, Value.ReadsPast S T D depth t x := by
  constructor
  · rintro ⟨k, hk, hlt⟩
    cases hk with
    | vec hx hk' => exact ⟨_, hx, k, hk', hlt⟩
  · rintro ⟨x, hx, k, hk, hlt⟩
    exact ⟨k, .vec hx hk, hlt⟩

theorem readsPast_array {t : Ty} {n depth : Nat} {items : List Value} :
    Value.ReadsPast S T D depth (.array t n) (.array items) ↔
      ∃ x ∈ items, Value.ReadsPast S T D depth t x := by
  constructor
  · rintro ⟨k, hk, hlt⟩
    cases hk with
    | array hx hk' => exact ⟨_, hx, k, hk', hlt⟩
  · rintro ⟨x, hx, k, hk, hlt⟩
    exact ⟨k, .array hx hk, hlt⟩

theorem readsPast_map {t e : Ty} (ht : t = .sortedMap e ∨ t = .hashMap e ∨ t = .fixedMap e)
    {depth : Nat} {m : ValueMap} :
    Value.ReadsPast S T D depth t (.map m) ↔ ∃ kx ∈ m.entries, Value.ReadsPast S T D depth e kx.2 := by
  constructor
  · rintro ⟨k, hk, hlt⟩
    rcases ht with rfl | rfl | rfl <;> cases hk <;> simp_all [Schema.nestedRecord?] <;>
      exact ⟨_, _, ‹_›, k, ‹_›, hlt⟩
  · rintro ⟨kx, hkx, k, hk, hlt⟩
    rcases ht with rfl | rfl | rfl
    · exact ⟨k, .sortedMap hkx hk, hlt⟩
    · exact ⟨k, .hashMap hkx hk, hlt⟩
    · exact ⟨k, .fixedMap hkx hk, hlt⟩

/-- A declared type that is no scalar is read from a map by the nested reading alone. -/
theorem readsPast_declared {t : Ty} (ht : (∃ p, t = .named p) ∨ ∃ g a, t = .apply g a)
    (hs : S.scalar? t = none) {depth : Nat} {v : Value} :
    Value.ReadsPast S T D depth t v ↔ Value.NestedPast S T D depth t v := by
  have hrec : S.nestedRecord? t = Factory.descriptorOf S t := by
    rcases ht with ⟨p, rfl⟩ | ⟨g, a, rfl⟩ <;> simp [Schema.nestedRecord?, hs]
  cases hd : Factory.descriptorOf S t with
  | some d =>
    cases v with
    | map vm =>
      rw [readsPast_record (hrec.trans hd)]
      simp [Value.NestedPast, hd]
    | _ =>
      constructor
      · rintro ⟨k, hk, -⟩
        rcases ht with ⟨p, rfl⟩ | ⟨g, a, rfl⟩ <;> cases hk
      · rintro ⟨d', vm, -, hv, -⟩
        cases hv
  | none =>
    constructor
    · rintro ⟨k, hk, -⟩
      rcases ht with ⟨p, rfl⟩ | ⟨g, a, rfl⟩ <;> cases hk <;> simp_all
    · rintro ⟨d', vm, hd', -⟩
      simp_all

end Past

/-! ## The reader under a lower limit -/

namespace Mapper

section

variable {S : Schema} {D : Nat}

/-- A reading that reads no record never passes the limit. -/
theorem limitStable_flat {α : Type} {t : Ty} {depth : Nat} {v : Value} {x : FactoryM α}
    (hno : ∀ T v k, ¬ Value.ReadNests S T t v k) (hx : LimitStable S D (fun _ => False) x) :
    LimitStable S D (fun T => Value.ReadsPast S T D depth t v) x :=
  hx.congr fun T => ⟨False.elim, fun ⟨k, hk, _⟩ => hno T v k hk⟩

theorem decodeWith_limit {inner nested : Ty → Value → FactoryM Datum} {depth : Nat}
    (hinner : ∀ t x, LimitStable S D (fun T => Value.ReadsPast S T D depth t x) (inner t x))
    (hnested : ∀ t x, LimitStable S D (fun T => Value.NestedPast S T D depth t x) (nested t x)) :
    ∀ t v, LimitStable S D (fun T => Value.ReadsPast S T D depth t v)
      (decodeWith S inner nested t v) := by
  intro t
  induction t with
  | option t ih =>
    intro v
    simp only [decodeWith]
    split
    · exact (LimitAgrees.pure _).congr fun T => by simp [readsPast_option]
    · rename_i hv
      exact (LimitAgrees.map _ (ih v)).congr fun T => by
        rw [readsPast_option]
        exact ⟨fun h => ⟨hv, h⟩, fun h => h.2⟩
  | boxed t ih =>
    intro v
    exact (ih v).congr fun T => readsPast_boxed.symm
  | vec t =>
    intro v
    simp only [decodeWith]
    split
    · exact (LimitAgrees.map _ (LimitAgrees.mapM _ fun x _ => hinner t x)).congr fun T => by
        rw [readsPast_vec]
    · exact LimitAgrees.throw _
  | array t n =>
    intro v
    simp only [decodeWith]
    split
    · refine (LimitAgrees.bind (Q := fun _ => False)
        (LimitAgrees.mapM (Q := fun x T => Value.ReadsPast S T D depth t x) _ fun x _ => hinner t x)
        fun ds => ?_).congr fun T => by rw [readsPast_array]; simp
      split
      · exact LimitAgrees.pure _
      · exact LimitAgrees.throw _
    · exact LimitAgrees.throw _
  | sortedMap e | hashMap e | fixedMap e =>
    intro v
    simp only [decodeWith]
    split
    · refine (LimitAgrees.bind (LimitAgrees.mapM (Q := fun kx T => Value.ReadsPast S T D depth e kx.2)
        _ fun kx _ => ?_) fun _ => LimitAgrees.pure _).congr fun T => by
          rw [readsPast_map (e := e) (by simp)]; simp
      exact (LimitAgrees.bind (hinner e kx.2) fun _ => LimitAgrees.pure _).congr fun T => by simp
    · exact LimitAgrees.throw _
  | named p | apply g a =>
    intro v
    simp only [decodeWith]
    split
    · -- a scalar of the schema is read as its integer, and holds no record
      rename_i s hs
      refine limitStable_flat (fun T v k hk => by cases hk <;> simp_all [Schema.nestedRecord?])
        ((LimitAgrees.bind (Q := fun _ => False) (LimitAgrees.lift _) fun n => ?_).congr
          fun T => by simp)
      split
      · exact LimitAgrees.throw _
      · exact LimitAgrees.pure _
    · rename_i hs
      exact (hnested _ v).congr fun T => (readsPast_declared (by simp) hs).symm
  | _ =>
    -- the remaining types are read from one value and hold no record
    intro v
    refine limitStable_flat (fun T v k hk => by cases hk <;> simp_all [Schema.nestedRecord?]) ?_
    simp only [decodeWith]
    repeat' split
    all_goals first
      | exact LimitAgrees.pure _
      | exact LimitAgrees.throw _
      | exact LimitAgrees.map _ (LimitAgrees.lift _)
      | exact (LimitAgrees.bind (Q := fun _ => False) (LimitAgrees.lift _) fun n => by
          split
          · exact LimitAgrees.throw _
          · exact LimitAgrees.pure _).congr fun T => by simp

theorem intoBoxed_limit {P : List (Ty × Mapper) → Prop} {dec : Ty → Value → FactoryM Datum}
    {ops : TypeOps} {place : Identity} {v : Value} (hdec : LimitStable S D P (dec ops.ty v)) :
    LimitStable S D P (Strategy.intoBoxed dec ops place (.wire v) : FactoryM Instance) := by
  simp only [Strategy.intoBoxed]
  split
  · exact (LimitAgrees.bind hdec fun _ => LimitAgrees.pure _).congr fun T => by simp
  · exact LimitAgrees.throw _

/-- A setter reads a value from the wire as the type of the field it writes, and does nothing
more that could nest. -/
theorem setter_limit {P : List (Ty × Mapper) → Prop} {dec : Ty → Value → FactoryM Datum}
    (s : Strategy) (loc : Location) (target : Target) {v : Value}
    (hdec : LimitStable S D P (dec loc.property.ops.ty v)) :
    LimitStable S D P (s.setter dec loc target (.wire v)) := by
  cases s with
  | raw =>
    simp only [Strategy.setter]
    split
    · exact LimitAgrees.throw _
    · refine (LimitAgrees.bind (Q := fun _ => False) (intoBoxed_limit hdec) fun x => ?_).congr
        fun T => by simp
      split
      · exact LimitAgrees.pure _
      · exact LimitAgrees.throw _
  | checked =>
    simp only [Strategy.setter]
    split
    · exact LimitAgrees.throw _
    · -- the owner is checked, then the value read, then its type checked
      split
      · exact LimitAgrees.throw_bind
      · refine (LimitAgrees.bind (Q := fun _ => False) (intoBoxed_limit hdec) fun x => ?_).congr
          fun T => by simp
        split
        · exact LimitAgrees.throw_bind
        · exact LimitAgrees.pure _

/-- A setter given an instance reads nothing. -/
theorem setter_boxed_limit {dec : Ty → Value → FactoryM Datum} (s : Strategy) (loc : Location)
    (target : Target) (x : Instance) :
    LimitStable S D (fun _ => False) (s.setter dec loc target (.boxed x)) := by
  cases s with
  | raw =>
    simp only [Strategy.setter, Strategy.intoBoxed]
    split
    · exact LimitAgrees.throw _
    · refine (LimitAgrees.bind (P := fun _ => False) (Q := fun _ => False) (LimitAgrees.pure _)
        fun y => ?_).congr fun T => by simp
      split
      · exact LimitAgrees.pure _
      · exact LimitAgrees.throw _
  | checked =>
    simp only [Strategy.setter, Strategy.intoBoxed]
    split
    · exact LimitAgrees.throw _
    · split
      · exact LimitAgrees.throw_bind
      · refine (LimitAgrees.bind (P := fun _ => False) (Q := fun _ => False) (LimitAgrees.pure _)
          fun y => ?_).congr fun T => by simp
        split
        · exact LimitAgrees.throw_bind
        · exact LimitAgrees.pure _

theorem setPropertyWith_limit {dec : Ty → Value → FactoryM Datum} {depth : Nat} (m : Mapper)
    (p : MappedProperty) (target : Target) {v : Value}
    (hdec : ∀ t, LimitStable S D (fun T => Value.ReadsPast S T D depth t v) (dec t v)) :
    LimitStable S D (fun T => Value.ReadsPast S T D depth p.readTy v)
      (setPropertyWith dec m p target v) := by
  unfold setPropertyWith
  split
  · rename_i hempty
    rw [show p.readTy = p.location.property.ops.ty by simp [MappedProperty.readTy, hempty]]
    exact setter_limit _ _ _ (hdec _)
  · -- with adapters the terminal type is read, and the restored instance written as it is
    rename_i hadapted
    rw [show p.readTy = p.chain.terminal.ty by simp [MappedProperty.readTy, hadapted]]
    exact (LimitAgrees.bind (hdec _) fun _ => LimitAgrees.bind (LimitAgrees.lift _) fun _ =>
      setter_boxed_limit _ _ _ _).congr fun T => by simp

theorem readMapWith_limit {set : MappedProperty → Target → Value → FactoryM Target} {depth : Nat}
    (m : Mapper) (vm : ValueMap)
    (hset : ∀ p target x, take vm p = some x →
      LimitStable S D (fun T => Value.ReadsPast S T D depth p.readTy x) (set p target x)) :
    LimitStable S D (fun T => Mapper.PropertiesPast S T D depth m vm) (readMapWith set m vm) := by
  unfold readMapWith
  refine LimitAgrees.schemaM_bind ?_
  split
  · refine LimitAgrees.freshIdentity_bind fun place => ?_
    refine (LimitAgrees.bind (P := fun _ => False) (LimitAgrees.lift _) fun allocation =>
      LimitAgrees.bind (Q := fun _ => False) (LimitAgrees.foldlM
        (Q := fun p T => ∃ x, take vm p = some x ∧ Value.ReadsPast S T D depth p.readTy x) _ _
        fun target p _ => ?_) fun _ => LimitAgrees.lift _).congr
      fun T => by simp [Mapper.PropertiesPast]
    split
    · exact (LimitAgrees.pure _).congr fun T => by simp [*]
    · exact (LimitAgrees.tryCatch_within (hset p target _ ‹_›) _ _).congr fun T => by simp [*]
  · exact LimitAgrees.throw _

theorem nestedWith_limit {read : Nat → Mapper → ValueMap → FactoryM Instance} {depth : Nat}
    (hread : ∀ m vm, LimitStable S D (fun T => Mapper.PropertiesPast S T D (depth + 1) m vm)
      (read (depth + 1) m vm))
    (t : Ty) (v : Value) :
    LimitStable S D (fun T => Value.NestedPast S T D depth t v) (nestedWith read depth t v) := by
  unfold nestedWith
  refine LimitAgrees.schemaM_bind ?_
  split
  · rename_i vm
    split
    · exact LimitAgrees.throw _
    · rename_i d hd
      refine (LimitAgrees.enter_bind (LimitAgrees.mapperFor_bind fun mapper =>
        LimitAgrees.bind (Q := fun _ => False) (hread mapper vm) fun x => ?_)).congr
        fun T => by simp [Value.NestedPast, hd]
      split
      · exact LimitAgrees.pure _
      · exact LimitAgrees.throw _
  · -- an object is taken as it is
    refine (?_ : LimitStable S D (fun _ => False) _).congr fun T => by simp [Value.NestedPast]
    split
    · exact LimitAgrees.pure _
    · exact LimitAgrees.throw _
  · exact LimitAgrees.throw _

/-- Every part of the reader, with any fuel, keeps its run under the limit `D` unless it reads a
record deeper than `D`. The induction is on the fuel: each part is its one-level lemma with the
parts one unit of fuel below as the readings it calls. -/
theorem reader_limit : ∀ fuel : Nat,
    (∀ depth t v, LimitStable S D (fun T => Value.ReadsPast S T D depth t v)
      (decode fuel depth t v)) ∧
    (∀ depth t v, LimitStable S D (fun T => Value.NestedPast S T D depth t v)
      (deserializeNested fuel depth t v)) ∧
    (∀ depth m vm, LimitStable S D (fun T => Mapper.PropertiesPast S T D depth m vm)
      (readMap fuel depth m vm)) ∧
    (∀ depth m p target v, LimitStable S D (fun T => Value.ReadsPast S T D depth p.readTy v)
      (setProperty fuel depth m p target v))
  | 0 => by
    -- with no fuel left every part fails at once, so there is no successful run to compare
    refine ⟨fun _ _ _ => ?_, fun _ _ _ => ?_, fun _ _ _ => ?_, fun _ _ _ _ _ => ?_⟩ <;>
      simp only [decode, deserializeNested, readMap, setProperty] <;>
      exact LimitAgrees.get_throw _
  | fuel + 1 => by
    obtain ⟨hdec, hnest, hmap, hset⟩ := reader_limit fuel
    refine ⟨fun depth t v => ?_, fun depth t v => ?_, fun depth m vm => ?_,
      fun depth m p target v => ?_⟩
    · rw [decode]
      exact LimitAgrees.schemaM_bind (decodeWith_limit (hdec depth) (hnest depth) t v)
    · rw [deserializeNested]
      exact nestedWith_limit (fun m vm => hmap (depth + 1) m vm) t v
    · rw [readMap]
      exact readMapWith_limit m vm fun p target x _ => hset depth m p target x
    · rw [setProperty]
      exact setPropertyWith_limit m p target fun t => hdec depth t v

end

end Mapper

variable (S : Schema) (T : List (Ty × Mapper)) (D : Nat) in
/-- Reading `v` with the mapper `m` reads a record deeper than the limit `D`: for a record, one
of the properties present in the map; for any other type, the value itself. The record read is
at depth `0`. -/
def Mapper.ReadPast (m : Mapper) (v : Value) : Prop :=
  if m.descriptor.isSome then ∃ vm, v = .map vm ∧ Mapper.PropertiesPast S T D 0 m vm
  else Value.ReadsPast S T D 0 m.ops.ty v

namespace Mapper

theorem readValue_limit {S : Schema} {D : Nat} (m : Mapper) (v : Value) :
    LimitStable S D (fun T => m.ReadPast S T D v) (readValue m v) := by
  unfold readValue
  split
  · rename_i hd
    split
    · rename_i vm
      exact ((reader_limit _).2.2.1 0 m vm).congr fun T => by simp [ReadPast, hd]
    · exact LimitAgrees.throw _
  · rename_i hd
    split
    · exact LimitAgrees.throw _
    · refine (LimitAgrees.bind (Q := fun _ => False) ((reader_limit _).1 0 m.ops.ty v) fun d =>
        LimitAgrees.freshIdentity_bind fun i => LimitAgrees.pure _).congr fun T => ?_
      simp [ReadPast, hd]

end Mapper

end ObjectMapping
