import ObjectMapping.Proofs.MapperBuild
import ObjectMapping.Proofs.ReadFuel

/-!
# Reading one property

What a property takes from a value does not depend on the strategy: the instance its type or
its adapters read (`Mapper.incoming`), which must be of the property's type
(`Mapper.decodeProperty`). Under raw access at a valid location, and under checked access on an
instance of the owner, setting the property puts that data at the property's position
(`Mapper.setPropertyWith_raw_put`, `Mapper.setPropertyWith_checked_put`).

Reading a map folds this over the mapper's properties. With each value decoded with the fuel of
its own size (`Mapper.readMap_eq`, from the lemmas on fuel), the fold is a traversal of the
properties (`Mapper.readPresent`) followed by the writes it found (`Target.putAll`,
`Mapper.foldlM_readStep`). The writes go to distinct positions; `SetsAt` and its fold lemmas say
what such a sequence of writes leaves at each position.
-/

namespace ObjectMapping

/-! ## Writing at distinct positions -/

section SetAt

variable {α β : Type} (pos : α → Nat) (val : α → Option β) {F : List β → α → List β}

/-- Each element of `xs` may set the entry at its own position of a list. -/
def SetsAt (F : List β → α → List β) : Prop :=
  ∀ l a, F l a = match val a with
    | some b => l.set (pos a) b
    | none => l

variable {pos val}

theorem length_foldl_setsAt (hF : SetsAt pos val F) :
    ∀ (xs : List α) (l : List β), (xs.foldl F l).length = l.length
  | [], _ => rfl
  | a :: xs, l => by
    rw [List.foldl_cons, length_foldl_setsAt hF xs, hF]
    split <;> simp

theorem getElem?_foldl_setsAt_of_notMem (hF : SetsAt pos val F) {j : Nat} :
    ∀ (xs : List α) (l : List β), j ∉ xs.map pos → (xs.foldl F l)[j]? = l[j]?
  | [], _, _ => rfl
  | a :: xs, l, hj => by
    rw [List.map_cons, List.mem_cons, not_or] at hj
    rw [List.foldl_cons, getElem?_foldl_setsAt_of_notMem hF xs _ hj.2, hF]
    split
    · exact List.getElem?_set_ne (Ne.symm hj.1)
    · rfl

/-- Where the positions are distinct and inside the list, each element's position holds what it
set, or else what was there. -/
theorem getElem?_foldl_setsAt (hF : SetsAt pos val F) :
    ∀ (xs : List α) (l : List β), (xs.map pos).Nodup → (∀ a ∈ xs, pos a < l.length) →
      ∀ a ∈ xs, (xs.foldl F l)[pos a]? = (val a).or l[pos a]?
  | [], _, _, _, a, ha => absurd ha List.not_mem_nil
  | b :: xs, l, hnd, hlt, a, ha => by
    rw [List.map_cons, List.nodup_cons] at hnd
    rw [List.foldl_cons]
    rcases List.mem_cons.mp ha with rfl | ha
    · rw [getElem?_foldl_setsAt_of_notMem hF xs _ hnd.1, hF]
      split
      · rename_i x hx
        rw [hx, List.getElem?_set_self (hlt a List.mem_cons_self)]
        rfl
      · rename_i hx
        rw [hx]
        rfl
    · have hne : pos b ≠ pos a := fun h => hnd.1 (h ▸ List.mem_map_of_mem ha)
      rw [getElem?_foldl_setsAt hF xs _ hnd.2 (fun c hc => by
          rw [hF]; split <;> simp [hlt c (List.mem_cons_of_mem b hc)]) a ha, hF]
      split
      · rw [List.getElem?_set_ne hne]
      · rfl

end SetAt

theorem mem_zip_getElem {α β : Type} {xs : List α} {ys : List β} {a : α} {b : β}
    (h : (a, b) ∈ xs.zip ys) :
    ∃ i, ∃ (hx : i < xs.length) (hy : i < ys.length), xs[i] = a ∧ ys[i] = b := by
  obtain ⟨i, hi, hget⟩ := List.mem_iff_getElem.mp h
  simp only [List.getElem_zip, Prod.mk.injEq] at hget
  simp only [List.length_zip, Nat.lt_min] at hi
  exact ⟨i, hi.1, hi.2, hget⟩

namespace Mapper

/-- The instance a property reads from a value, before it is stored: by the value
representation of its type, or as the terminal type of its adapters, restored through them. -/
def incoming (dec : Ty → Value → FactoryM Datum) (p : MappedProperty) (v : Value) :
    FactoryM Instance :=
  if p.chain.isEmpty then Strategy.intoBoxed dec p.info.ops .sizeless (.wire v)
  else do
    let d ← dec p.chain.terminal.ty v
    lift (p.chain.restore ⟨p.chain.terminal.ty, d, .sizeless⟩)

/-- The data a property takes from a value: what it reads, which must be of its type. -/
def decodeProperty (dec : Ty → Value → FactoryM Datum) (p : MappedProperty) (v : Value) :
    FactoryM Datum := do
  let x ← incoming dec p v
  if x.ty != p.info.ops.ty then throw (.shape (.wrongType p.info.typeName)) else pure x.datum

end Mapper

/-- Writes the data of a property to a target, where the strategies' setters store it. -/
def Target.put (p : MappedProperty) (x : Datum) : Target → Target
  | .existing owner => .existing { owner with datum := owner.datum.setField p.info.position x }
  | .uninit u => .uninit { u with
      slots := u.slots.set p.info.position (some x)
      written := if u.written.contains p.location.index then u.written
        else u.written ++ [p.location.index] }

/-- Writes what was read for each property, in order: the properties read from the map. -/
def Target.putAll (target : Target) (reads : List (MappedProperty × Option Datum)) : Target :=
  reads.foldl (fun t r => match r.2 with
    | some x => t.put r.1 x
    | none => t) target

/-- The record type of a target. -/
def Target.ty : Target → Ty
  | .existing x => x.ty
  | .uninit u => u.descriptor.ty

@[simp] theorem Target.ty_put (p : MappedProperty) (x : Datum) (target : Target) :
    (target.put p x).ty = target.ty := by
  cases target <;> rfl

@[simp] theorem Target.ty_putAll (target : Target) :
    ∀ reads : List (MappedProperty × Option Datum), (target.putAll reads).ty = target.ty
  | [] => rfl
  | (p, w) :: reads => by
    cases w with
    | none => exact Target.ty_putAll target reads
    | some x => exact (Target.ty_putAll (target.put p x) reads).trans (Target.ty_put p x target)

/-- Storing an instance of the property's type at its location, in a target of the owner's type,
puts its data there; an instance of another type is refused. -/
theorem Strategy.store_eq {p : MappedProperty} (hprop : p.location.property = p.info)
    {target : Target} (hown : target.ty = p.location.owner.ty) (x : Instance) :
    Strategy.store p.location target x =
      if x.ty != p.info.ops.ty then .error (.shape (.wrongType p.info.typeName))
      else .ok (target.put p x.datum) := by
  cases target with
  | existing owner =>
    have hok : (owner.ty != p.location.owner.ty) = false := by simpa [Target.ty] using hown
    simp only [Strategy.store, hprop, hok, Bool.false_eq_true, if_false]
    split <;> rfl
  | uninit u =>
    have hok : (u.descriptor.ty != p.location.owner.ty) = false := by simpa [Target.ty] using hown
    simp only [Strategy.store, hprop, hok, Bool.false_eq_true, if_false]
    split <;> rfl

namespace Mapper

variable {dec : Ty → Value → FactoryM Datum} {m : Mapper} {p : MappedProperty}

/-- Under raw access at a valid location, setting a property reads its instance and then stores
it. -/
theorem setPropertyWith_raw (hraw : m.strategy = .raw) (hvalid : Strategy.validRaw p.location)
    (hprop : p.location.property = p.info) (target : Target) (v : Value) :
    setPropertyWith dec m p target v =
      incoming dec p v >>= fun x => lift (Strategy.store p.location target x) := by
  have hcheck : Strategy.checkRaw p.location = .ok () := by
    simp only [Strategy.checkRaw, hvalid, if_true]
    rfl
  unfold setPropertyWith incoming
  split
  · simp only [hraw, Strategy.setter, hcheck, hprop]
    refine bind_congr fun x => ?_
    cases Strategy.store p.location target x <;> rfl
  · simp only [hraw, Strategy.setter, hcheck, Strategy.intoBoxed, pure_bind, bind_assoc]
    refine bind_congr fun d => bind_congr fun x => ?_
    cases Strategy.store p.location target x <;> rfl

/-- Under raw access at a valid location, setting a property of a target of the owner's type puts
there the data the property reads. -/
theorem setPropertyWith_raw_put (hraw : m.strategy = .raw) (hvalid : Strategy.validRaw p.location)
    (hprop : p.location.property = p.info) {target : Target} (hown : target.ty = p.location.owner.ty)
    (v : Value) :
    setPropertyWith dec m p target v = (target.put p ·) <$> decodeProperty dec p v := by
  rw [setPropertyWith_raw hraw hvalid hprop, decodeProperty, map_bind]
  refine bind_congr fun x => ?_
  rw [Strategy.store_eq hprop hown]
  by_cases hty : (x.ty != p.info.ops.ty) = true
  · simp only [hty, if_true]
    rfl
  · simp only [hty, Bool.false_eq_true, if_false]
    rfl

/-- Under checked access, setting a property of an instance of its owner puts there the data the
property reads. -/
theorem setPropertyWith_checked_put (hchecked : m.strategy = .checked)
    (hprop : p.location.property = p.info) {owner : Instance} (hown : owner.ty = p.info.owner)
    (v : Value) :
    setPropertyWith dec m p (.existing owner) v =
      ((Target.existing owner).put p ·) <$> decodeProperty dec p v := by
  have hok : (owner.ty != p.info.owner) = false := by simp [hown]
  -- what follows the read is the same type check and store for both kinds of property
  have hstore : ∀ x : Instance,
      (if (x.ty != p.info.ops.ty) = true then
          (throw (.shape (.wrongType p.info.typeName)) : FactoryM Target) >>= fun _ =>
            pure (.existing { owner with datum := owner.datum.setField p.info.position x.datum })
        else pure (.existing { owner with datum := owner.datum.setField p.info.position x.datum })) =
      ((Target.existing owner).put p ·) <$>
        if (x.ty != p.info.ops.ty) = true then throw (.shape (.wrongType p.info.typeName))
        else pure x.datum := by
    intro x
    by_cases hty : (x.ty != p.info.ops.ty) = true
    · simp only [hty, if_true]
      rfl
    · simp only [hty, Bool.false_eq_true, if_false]
      rfl
  unfold setPropertyWith decodeProperty incoming
  split
  · simp only [hchecked, Strategy.setter, hprop, hok, Bool.false_eq_true, if_false,
      Strategy.intoBoxed]
    split
    · simp only [bind_assoc, pure_bind, map_bind]
      exact bind_congr fun d => hstore ⟨p.info.ops.ty, d, .sizeless⟩
    · rfl
  · simp only [hchecked, Strategy.setter, hprop, hok, Bool.false_eq_true, if_false,
      Strategy.intoBoxed, bind_assoc, pure_bind, map_bind]
    exact bind_congr fun d => bind_congr fun x => hstore x

/-- What a property takes from a map: nothing when the map leaves it absent, otherwise the data
it reads, an error being attributed to the property of the record `owner`. -/
def readPresent (depth : Nat) (owner : String) (vm : ValueMap) (p : MappedProperty) :
    FactoryM (Option Datum) :=
  match take vm p with
  | none => pure none
  | some v => tryCatch (some <$> decodeProperty (decode v.fuel depth) p v) fun e =>
      throw (e.within owner p.info.name)

/-- Reading a map property by property, each with the fuel its own value needs. -/
def setAt (depth : Nat) (m : Mapper) (p : MappedProperty) (target : Target) (v : Value) :
    FactoryM Target :=
  setPropertyWith (decode v.fuel depth) m p target v

section

variable {depth : Nat} {vm : ValueMap} {owner : String}

/-- The step of reading a fresh record: a property present in the map is set, and an error is
attributed to it. -/
def readStep (depth : Nat) (m : Mapper) (owner : String) (vm : ValueMap) (target : Target)
    (p : MappedProperty) : FactoryM Target :=
  match take vm p with
  | none => pure target
  | some v => tryCatch (setAt depth m p target v) fun e => throw (e.within owner p.info.name)

theorem readStep_eq {target : Target}
    (hset : ∀ v, setAt depth m p target v = (target.put p ·) <$> decodeProperty (decode v.fuel depth) p v) :
    readStep depth m owner vm target p =
      (fun w => target.putAll [(p, w)]) <$> readPresent depth owner vm p := by
  unfold readStep readPresent
  split
  · rfl
  · rw [hset, Factory.tryCatch_map_rethrow, Factory.tryCatch_map_rethrow, Functor.map_map]
    rfl

/-- Reading the properties of a fresh record in order sets those the map holds, after all of them
were read: the first error ends the reading. The induction is on the properties, with any target
of the record's type, which setting a property keeps. -/
theorem foldlM_readStep {T : Ty} {ps : List MappedProperty}
    (hset : ∀ p ∈ ps, ∀ target : Target, target.ty = T → ∀ v, setAt depth m p target v =
      (target.put p ·) <$> decodeProperty (decode v.fuel depth) p v) :
    ∀ target : Target, target.ty = T →
      ps.foldlM (readStep depth m owner vm) target =
        (fun ws => target.putAll (ps.zip ws)) <$> ps.mapM (readPresent depth owner vm) := by
  induction ps with
  | nil => intro target _; rfl
  | cons p ps ih =>
    intro target hty
    rw [List.foldlM_cons, readStep_eq (hset p List.mem_cons_self target hty), List.mapM_cons,
      bind_map_left, map_bind]
    refine bind_congr fun w => ?_
    rw [ih (fun q hq => hset q (List.mem_cons_of_mem p hq)) _ (by simp [hty]), map_bind]
    simp only [map_pure, bind_pure_comp]
    rfl

/-- With enough fuel, reading a fresh record reads each property with the fuel of its own value. -/
theorem readMap_eq {F : Nat} (hF : 4 * Value.sizeEntries vm.entries + 2 ≤ F) :
    readMap F depth m vm = readMapWith (setAt depth m) m vm := by
  obtain ⟨G, rfl⟩ : ∃ G, F = G + 1 := ⟨F - 1, by omega⟩
  rw [readMap]
  refine readMapWith_congr m fun p target x hx => ?_
  have hsize := take_size hx
  obtain ⟨H, rfl⟩ : ∃ H, G = H + 1 := ⟨G - 1, by omega⟩
  rw [setProperty]
  exact setPropertyWith_congr m p target fun t =>
    decode_fuel (by omega) (by unfold Value.fuel; omega) depth t

/-- With enough fuel, reading into an instance reads each property with the fuel of its own
value. -/
theorem readMapInto_eq {F : Nat} (hF : 4 * Value.sizeEntries vm.entries + 1 ≤ F)
    (x : Instance) : readMapInto F depth m vm x = readMapIntoWith (setAt depth m) m vm x := by
  rw [readMapInto]
  refine readMapIntoWith_congr m x fun p target w hw => ?_
  have hsize := take_size hw
  obtain ⟨H, rfl⟩ : ∃ H, F = H + 1 := ⟨F - 1, by omega⟩
  rw [setProperty]
  exact setPropertyWith_congr m p target fun t =>
    decode_fuel (by omega) (by unfold Value.fuel; omega) depth t

end

/-- The properties of a built mapper are numbered by their place. -/
theorem Built.info_index {d : Descriptor} (hb : m.Built d) (hwf : d.WellFormed) {i : Nat}
    (hi : i < m.properties.length) : m.properties[i].info.index = i := by
  have h := congrArg (·[i]?) hwf.indices
  simp only [← hb.info, List.map_map, List.length_map, List.getElem?_map,
    List.getElem?_range hi, List.getElem?_eq_getElem hi, Option.map_some] at h
  exact Option.some.inj h

/-- A property of the record is the one at its own number among the mapper's. -/
theorem Built.getElem_index {d : Descriptor} (hb : m.Built d) (hwf : d.WellFormed)
    {q : PropertyInfo} (hq : q ∈ d.properties) :
    ∃ (hi : q.index < m.properties.length), m.properties[q.index].info = q := by
  rw [← hb.info] at hq
  obtain ⟨p, hp, rfl⟩ := List.mem_map.mp hq
  obtain ⟨i, hi, rfl⟩ := List.mem_iff_getElem.mp hp
  rw [hb.info_index hwf hi]
  exact ⟨hi, rfl⟩

theorem take_congr {vm vm' : ValueMap} {p : MappedProperty} (h : vm'.get? p.name = vm.get? p.name) :
    take vm' p = take vm p := by
  unfold take
  rw [h]

end Mapper

end ObjectMapping
