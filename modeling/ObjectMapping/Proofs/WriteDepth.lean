import ObjectMapping.Proofs.UnderLimit

/-!
# The writer under a lower limit of nesting

A write reads the factory's limit once and hands it down. The format writes each property's
value as pieces and hands back the objects in it; each object is written one level deeper,
with the mapper of its type, and past the limit it fails before its mapper is looked up. So
an object counts wherever the format hands it back: in a field, an option, a box, an element,
the value of any map (a value map too) or what an adapter gives.

* `ObjectRef.NestsAt F S T depth r k`: an object handed back at depth `depth` reaches level `k`,
  itself or through the objects written inside it with the mappers of `T`; `Piece.NestPast`,
  `Mapper.WritesPast` and `Mapper.WritePast` say that a write nests past a limit `D`.
* `objectAgrees`: the frame of an object written with the limit `L` and with the limit `D`
  agree unless an object in it nests past `D`; by recursion on `L - depth`, through
  `writePieces_limit`, `writeProperties_limit` and `nestedAgrees_of_objectAgrees`.
* `write_limit`: writing an instance under any limit `D` writes what it wrote, unless an object in
  it nests past `D`; then it fails, and the cause is `DepthExceeded D`.
-/

namespace ObjectMapping

open HoldsFactory

/-! ## The objects a write nests -/

section Nesting

variable {σ : Type} (F : Format σ) (S : Schema) (T : List (Ty × Mapper))

/-- `NestsAt depth r k`: the object `r`, handed back by the format while a value is written at
depth `depth`, is written at level `depth + 1`, and an object at level `k` is written in it or is
it. Inside `r` its properties are written with the mapper kept for its type in `T`, and each
object the format hands back for a property's value is one level deeper. -/
inductive ObjectRef.NestsAt : Nat → ObjectRef → Nat → Prop
  | self (depth : Nat) (r : ObjectRef) : ObjectRef.NestsAt depth r (depth + 1)
  | inner {depth : Nat} {r : ObjectRef} {d : Descriptor} {m : Mapper} {p : MappedProperty}
      {raw : Value} {r' : ObjectRef} {k : Nat} :
      S.descriptor? r.ty = some d → T.lookup d.ops.ty = some m → p ∈ m.properties →
      Mapper.readProperty S m p r.instance = .ok raw →
      .nested r' ∈ F.writeValue (some p.name) (if raw.isNull then .null else p.kind) raw
        (depth + 1) →
      ObjectRef.NestsAt (depth + 1) r' k → ObjectRef.NestsAt depth r k

variable (D : Nat)

/-- Among the pieces of a value written at depth `depth`, an object nests one deeper than the
limit `D`. -/
def Piece.NestPast (depth : Nat) (ps : List (Piece σ)) : Prop :=
  ∃ r, .nested r ∈ ps ∧ ∃ k, ObjectRef.NestsAt F S T depth r k ∧ D < k

/-- Writing the properties of `x` with the mapper `m` at depth `depth` nests an object deeper than
the limit `D`. -/
def Mapper.WritesPast (depth : Nat) (m : Mapper) (x : Instance) : Prop :=
  ∃ p ∈ m.properties, ∃ raw, Mapper.readProperty S m p x = .ok raw ∧
    Piece.NestPast F S T D depth (F.writeValue (some p.name) (if raw.isNull then .null else p.kind)
      raw depth)

/-- Writing `x` with the mapper `m` nests an object deeper than the limit `D`: for a record, in
the values of its properties; for any other type, in its value. The instance written is at
depth `0`. -/
def Mapper.WritePast (m : Mapper) (x : Instance) : Prop :=
  if m.descriptor.isSome then Mapper.WritesPast F S T D 0 m x
  else ∃ ops, m.ops.value = some ops ∧
    let v := S.valueOf false x.ty x.datum x.identity
    Piece.NestPast F S T D 0 (F.writeValue none (if v.isNull then .null else ops.kind) v 0)

variable {F S T D}

/-- An object handed back nests past the limit `D` exactly when its own level is deeper than
`D`, or when writing its properties with its mapper one level down nests past `D`. -/
theorem nestsAt_past {depth : Nat} {r : ObjectRef} :
    (∃ k, ObjectRef.NestsAt F S T depth r k ∧ D < k) ↔
      D < depth + 1 ∨ ∃ d, S.descriptor? r.ty = some d ∧
        ∃ m, T.lookup d.ops.ty = some m ∧ Mapper.WritesPast F S T D (depth + 1) m r.instance := by
  constructor
  · rintro ⟨k, hk, hlt⟩
    cases hk with
    | self => exact .inl hlt
    | inner hd hm hp hraw hr hk' =>
      exact .inr ⟨_, hd, _, hm, _, hp, _, hraw, _, hr, _, hk', hlt⟩
  · rintro (hlt | ⟨d, hd, m, hm, p, hp, raw, hraw, r', hr, k, hk, hlt⟩)
    · exact ⟨depth + 1, .self depth r, hlt⟩
    · exact ⟨k, .inner hd hm hp hraw hr hk, hlt⟩

end Nesting

/-! ## The writer under a lower limit -/

namespace Mapper

section

variable {σ : Type} (F : Format σ) {S : Schema} {D : Nat}

variable (S D) in
/-- Writing an object handed back at depth `depth`, with the limit `L`, agrees with the same
write with the limit `D`. -/
def NestedAgrees (L depth : Nat) : Prop :=
  ∀ r, LimitAgrees S D (fun T => ∃ k, ObjectRef.NestsAt F S T depth r k ∧ D < k)
    (serializeNested F L depth r) (serializeNested F D depth r)

variable (S D) in
/-- Writing the frame of an object at depth `depth`, with the limit `L`, agrees with the same
write with the limit `D`. -/
def ObjectAgrees (L depth : Nat) : Prop :=
  ∀ m x, LimitAgrees S D (fun T => WritesPast F S T D depth m x)
    (writeObject F L depth m x) (writeObject F D depth m x)

variable {F} {L depth : Nat}

theorem writePieces_limit (hn : NestedAgrees F S D L depth) :
    ∀ ps : List (Piece σ), LimitAgrees S D (fun T => Piece.NestPast F S T D depth ps)
      (writePieces F L depth ps) (writePieces F D depth ps)
  | [] => by
    rw [writePieces, writePieces]
    exact (LimitAgrees.pure _).congr fun T => by simp [Piece.NestPast]
  | .emit g :: ps => by
    rw [writePieces, writePieces]
    exact (LimitAgrees.bind (LimitAgrees.emit g) fun _ => writePieces_limit hn ps).congr
      fun T => by simp [Piece.NestPast]
  | .fail e :: ps => by
    rw [writePieces, writePieces]
    exact LimitAgrees.throw _
  | .nested r :: ps => by
    rw [writePieces, writePieces]
    exact (LimitAgrees.bind (hn r) fun _ => writePieces_limit hn ps).congr
      fun T => by simp [Piece.NestPast]

theorem writeProperties_limit (hn : NestedAgrees F S D L depth) (m : Mapper) (x : Instance)
    (last : Nat) : ∀ (i : Nat) (ps : List MappedProperty),
    LimitAgrees S D (fun T => ∃ p ∈ ps, ∃ raw, readProperty S m p x = .ok raw ∧
        Piece.NestPast F S T D depth
          (F.writeValue (some p.name) (if raw.isNull then .null else p.kind) raw depth))
      (writeProperties F L depth m x S last i ps) (writeProperties F D depth m x S last i ps)
  | i, [] => by
    rw [writeProperties, writeProperties]
    exact (LimitAgrees.pure _).congr fun T => by simp
  | i, p :: ps => by
    rw [writeProperties, writeProperties]
    split
    · rename_i raw hraw
      -- the value's pieces under a handler that names the property, its separator, the rest
      refine (LimitAgrees.bind (P := fun _ => False) (LimitAgrees.pure raw) fun _ =>
        LimitAgrees.bind (LimitAgrees.tryCatch_within (writePieces_limit hn _) _ _) fun _ =>
          LimitAgrees.bind (LimitAgrees.call _) fun _ =>
            writeProperties_limit hn m x last (i + 1) ps).congr fun T => ?_
      simp [hraw]
    · exact LimitAgrees.throw_bind

theorem objectAgrees_of_nestedAgrees (hn : NestedAgrees F S D L depth) :
    ObjectAgrees F S D L depth := by
  intro m x
  rw [writeObject, writeObject]
  split
  · exact LimitAgrees.throw _
  · -- the frame opens, the properties are written with the factory's schema, the frame closes
    refine LimitAgrees.get_bind fun s hs => ?_
    simp only [Factory.withLimit_schema, hs]
    refine (LimitAgrees.bind (P := fun _ => False) (LimitAgrees.call _) fun _ =>
      LimitAgrees.bind (writeProperties_limit hn m x _ 0 m.properties) fun _ =>
        LimitAgrees.call _).congr fun T => ?_
    simp [WritesPast]

theorem nestedAgrees_of_objectAgrees (ho : ¬ L < depth + 1 → ObjectAgrees F S D L (depth + 1)) :
    NestedAgrees F S D L depth := by
  intro r
  rw [serializeNested, serializeNested]
  refine (LimitAgrees.dite_limit fun hL => ?_).congr fun T => nestsAt_past.symm
  refine LimitAgrees.get_bind fun s hs => ?_
  simp only [Factory.withLimit_schema, hs]
  split
  · exact LimitAgrees.throw _
  · rename_i d hd
    exact (LimitAgrees.factory_mapperFor_bind fun mapper => ho hL mapper r.instance).congr
      fun T => by simp [hd]

variable (F S D) in
/-- Every frame is written the same under a lower limit, unless an object in it nests past the
limit. The recursion goes one level deeper at each object handed back and stops at the limit
`L` of the run compared. -/
theorem objectAgrees (L depth : Nat) : ObjectAgrees F S D L depth :=
  objectAgrees_of_nestedAgrees <| nestedAgrees_of_objectAgrees fun _ => objectAgrees L (depth + 1)
termination_by L - depth

/-- A write of an instance reads the limit from the factory: under the limit `D` it writes the
same, unless an object in it nests past `D`. -/
theorem write_limit (m : Mapper) (x : Instance) :
    LimitStable S D (fun T => m.WritePast F S T D x) (write F m x) := by
  unfold write
  refine LimitAgrees.get_bind fun s hs => ?_
  simp only [Factory.withLimit_maxDepth]
  refine (LimitAgrees.bind (P := fun _ => False) (LimitAgrees.call _) fun _ =>
    (?_ : LimitAgrees S D (fun T => m.WritePast F S T D x) _ _)).congr fun T => by simp
  split
  · rename_i hd
    exact (LimitAgrees.bind (objectAgrees F S D _ 0 m x) fun _ => LimitAgrees.call _).congr
      fun T => by simp [WritePast, hd]
  · rename_i hd
    split
    · exact LimitAgrees.throw_bind
    · rename_i ops hops
      refine LimitAgrees.get_bind fun s' hs' => ?_
      simp only [Factory.withLimit_schema, hs']
      split
      · exact LimitAgrees.throw_bind
      · -- the value's pieces at depth 0, the objects in them written from depth 1
        exact (LimitAgrees.bind (writePieces_limit
          (nestedAgrees_of_objectAgrees fun _ => objectAgrees F S D _ 1) _) fun _ =>
            LimitAgrees.call _).congr fun T => by simp [WritePast, hd, hops]

end

end Mapper

end ObjectMapping
