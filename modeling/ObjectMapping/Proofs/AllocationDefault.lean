import ObjectMapping.Proofs.FreshRecord
import ObjectMapping.Proofs.FactoryCalls
import ObjectMapping.Proofs.AllocationNesting

/-!
# The allocation default of a record

A record has two ways to a fresh instance with nothing read into it. The derived allocation
default (`Schema.allocDefault`) builds it at once, with the record open, field by field in
declaration order: the type's default for a skipped field and for a field marked default, and the
allocation default of the field's type for the rest; an adapted field without a default leaves the
record without one before any field is looked at. Reading a map with no entries under raw access
builds it the other way: every property is left unwritten, and finishing the record fills each
field on its own with the default its descriptor's operations make, the properties first.

* `Schema.descriptor?_fill`: the descriptor's operations fill each field with
  `Schema.fieldAllocDefault`, as long as every mapped field that is not adapted has a value
  representation (which the trait bound on such a field promises).
* `Schema.mapM_fieldAllocDefault_eq_ok` and `Schema.allocDefault_endless_first`: when the records
  of the fields nest within the schema's limit, the fields' own defaults succeed exactly when the
  record's does, and a record's default that never returns has a first field whose own default
  never returns. Both rest on `Schema.allocIn_absorb`: a field cut because its record is open,
  but whose own default ends, makes the record's default end too.
* `Mapper.empty_map_reads_alloc_default`: reading a map with no entries gives exactly the
  record's allocation default; where that never returns the reading never returns, and where
  there is none the allocation fails, unless a property's own default never returns.
-/

namespace ObjectMapping

section Lists

variable {α ε β : Type} {F : α → Except ε β}

/-- A traversal in `Except` that succeeds has the image of each element at its place. -/
theorem getElem?_of_mapM_except {l : List α} {bs : List β} (h : l.mapM F = .ok bs) :
    bs.length = l.length ∧ ∀ j : Nat, bs[j]? = l[j]?.bind fun a => (F a).toOption := by
  induction l generalizing bs with
  | nil =>
    cases h
    exact ⟨rfl, fun j => by simp⟩
  | cons a l ih =>
    rw [List.mapM_cons] at h
    cases ha : F a with
    | error e => rw [ha] at h; cases h
    | ok b =>
      cases hl : l.mapM F with
      | error e => rw [ha, hl] at h; cases h
      | ok bs' =>
        rw [ha, hl] at h
        cases h
        obtain ⟨hlen, hget⟩ := ih hl
        refine ⟨by simp [hlen], fun j => ?_⟩
        cases j with
        | zero => simp only [List.getElem?_cons_zero, Option.bind_some, ha]; rfl
        | succ j => simpa using hget j

/-- Every element of a traversal that succeeds has a result. -/
theorem ok_of_mapM_ok {l : List α} {bs : List β} (h : l.mapM F = .ok bs) {a : α} (ha : a ∈ l) :
    ∃ b, F a = .ok b := by
  obtain ⟨hlen, hget⟩ := getElem?_of_mapM_except h
  obtain ⟨j, hj, rfl⟩ := List.getElem_of_mem ha
  have hat := hget j
  rw [List.getElem?_eq_getElem hj, List.getElem?_eq_getElem (hlen ▸ hj), Option.bind_some] at hat
  cases hF : F l[j] with
  | ok b => exact ⟨b, rfl⟩
  | error e => rw [hF] at hat; cases hat

end Lists

namespace TypeOps

variable {o : TypeOps} {S : Schema}

theorem defaultStop?_eq_some {s : AllocStop} : o.defaultStop? S = some s ↔ o.makeDefault S = .error s := by
  unfold defaultStop?
  cases o.makeDefault S <;> simp

theorem defaultStop?_eq_none : o.defaultStop? S = none ↔ ∃ v, o.makeDefault S = .ok v := by
  unfold defaultStop?
  cases o.makeDefault S <;> simp

end TypeOps

namespace Schema

variable {S : Schema} {t : Ty} {r : RecordDecl} {args : List Ty} {fd : FieldDecl}

/-- The default one field of a fresh record is filled with when nothing is read for it: the
type's default for a skipped field and for one marked default, none for another adapted field,
and otherwise the allocation default of the field's type. -/
def fieldAllocDefault (S : Schema) (fd : FieldDecl) : Except AllocStop Datum :=
  if fd.skip || fd.useDefault then (S.default? fd.ty).elim (throw .none) pure
  else if fd.adapted then throw .none
  else S.allocDefault fd.ty

/-- A record's allocation default: none when an adapted field has no default, and otherwise its
fields' defaults in declaration order, with the record open and one opening less. -/
theorem allocDefault_record (hs : S.scalar? t = none) (hrec : S.record? t = some (r, args)) :
    S.allocDefault t =
      if (r.fieldsAt args).any (fun f => f.isProperty && f.adapted && !f.useDefault) then
        throw .none
      else .record <$> (r.fieldsAt args).mapM (S.derivedField (S.allocIn S.nestingLimit [t])) := by
  show S.allocLayer (some (S.allocIn S.nestingLimit)) [] t = _
  rw [allocLayer_record hs hrec, if_neg (fun h : t ∈ [] => by cases h), Option.elim_some]

/-- A field whose fill never returns is a mapped one whose type's default never returns. -/
theorem fieldAllocDefault_endless (h : S.fieldAllocDefault fd = .error .endless) :
    fd.isProperty = true ∧ S.allocDefault fd.ty = .error .endless := by
  unfold fieldAllocDefault at h
  by_cases hd : (fd.skip || fd.useDefault) = true
  · rw [if_pos hd] at h
    exact absurd h (declaredDefault_ne_endless fd.ty)
  rw [if_neg hd] at h
  simp only [Bool.or_eq_true, not_or, Bool.not_eq_true] at hd
  by_cases hadapted : fd.adapted = true
  · rw [if_pos hadapted] at h
    cases h
  · rw [if_neg hadapted] at h
    exact ⟨by simp [FieldDecl.isProperty, hd.1], h⟩

/-- A mapped field that is neither adapted without a default nor marked default is filled with
its type's allocation default. -/
theorem fieldAllocDefault_of_alloc (hfd : ¬(fd.isProperty && fd.adapted && !fd.useDefault) = true)
    (hd : (fd.skip || fd.useDefault) = false) : S.fieldAllocDefault fd = S.allocDefault fd.ty := by
  rw [Bool.or_eq_false_iff] at hd
  have hadapted : fd.adapted = false := by
    simpa [FieldDecl.isProperty, hd.1, hd.2] using hfd
  simp [fieldAllocDefault, hd.1, hd.2, hadapted]

/-- Where a field's default with its record open ends, it is the default the field is filled
with, the field not being adapted without a default. -/
theorem fieldAllocDefault_eq_derived (hfd : ¬(fd.isProperty && fd.adapted && !fd.useDefault) = true)
    (h : S.derivedField (S.allocIn S.nestingLimit [t]) fd ≠ .error .endless) :
    S.fieldAllocDefault fd = S.derivedField (S.allocIn S.nestingLimit [t]) fd := by
  cases hd : (fd.skip || fd.useDefault)
  · rw [fieldAllocDefault_of_alloc hfd hd, derivedField_of_alloc hd]
    rw [derivedField_of_alloc hd] at h
    exact allocIn_weaken (Nat.le_succ _) (List.nil_subset _) h
  · simp only [fieldAllocDefault, derivedField, hd, if_true]

/-- A field cut as never returning with its record `t` open, whose own default returns, asks for
`t` on the way; as the field's records nest within the limit, `t`'s own default returns too. -/
theorem allocDefault_ne_endless_of_cut
    (hfd : ¬(fd.isProperty && fd.adapted && !fd.useDefault) = true)
    (hnested : S.nestsWithin S.nestingLimit [] fd.ty = true)
    (hcut : S.derivedField (S.allocIn S.nestingLimit [t]) fd = .error .endless)
    (h : S.fieldAllocDefault fd ≠ .error .endless) : S.allocDefault t ≠ .error .endless := by
  obtain ⟨hd, hcut⟩ := derivedField_endless hcut
  rw [fieldAllocDefault_of_alloc hfd hd] at h
  -- without `t` open the field's default is the one with more fuel, and it ends
  have hfree : S.allocIn S.nestingLimit [] fd.ty ≠ .error .endless := by
    rwa [← allocIn_stable hnested (Nat.le_succ _)]
  have hopen : S.allocIn S.nestingLimit [] t ≠ .error .endless :=
    allocIn_absorb List.not_mem_nil (fun x => by simp) hcut hfree
  show S.allocIn (S.nestingLimit + 1) [] t ≠ .error .endless
  rwa [allocIn_weaken (Nat.le_succ _) (List.Subset.refl _) hopen]

/-! ## The fields' own defaults against the record's -/

section Record

variable (hs : S.scalar? t = none) (hrec : S.record? t = some (r, args))
  (hnested : ∀ fd ∈ r.fieldsAt args, S.nestsWithin S.nestingLimit [] fd.ty = true)
include hs hrec hnested

/-- When the records of its fields nest within the limit, a record's fields' own defaults all
succeed exactly when the record's allocation default does, and it is made of them. -/
theorem mapM_fieldAllocDefault_eq_ok (vs : List Datum) :
    (r.fieldsAt args).mapM S.fieldAllocDefault = .ok vs ↔ S.allocDefault t = .ok (.record vs) := by
  have hdef := allocDefault_record hs hrec
  by_cases hblock : ((r.fieldsAt args).any fun f => f.isProperty && f.adapted && !f.useDefault)
  · -- an adapted field without a default: neither succeeds
    rw [hdef, if_pos hblock]
    refine ⟨fun hm => ?_, fun h => by cases h⟩
    obtain ⟨fd, hfd, hbad⟩ := List.any_eq_true.mp hblock
    obtain ⟨v, hv⟩ := ok_of_mapM_ok hm hfd
    simp only [FieldDecl.isProperty, Bool.and_eq_true, Bool.not_eq_true'] at hbad
    simp [fieldAllocDefault, hbad.1.1, hbad.1.2, hbad.2] at hv
  rw [if_neg hblock] at hdef
  have hfd : ∀ fd ∈ r.fieldsAt args, ¬(fd.isProperty && fd.adapted && !fd.useDefault) = true :=
    fun fd hfd h => hblock (List.any_eq_true.mpr ⟨fd, hfd, h⟩)
  -- where the fields' defaults with the record open end, the fields' own are the same
  have hsame : (r.fieldsAt args).mapM (S.derivedField (S.allocIn S.nestingLimit [t])) ≠
      .error .endless → (r.fieldsAt args).mapM S.fieldAllocDefault =
        (r.fieldsAt args).mapM (S.derivedField (S.allocIn S.nestingLimit [t])) :=
    mapM_weaken fun fd hmem h => fieldAllocDefault_eq_derived (hfd fd hmem) h
  rw [hdef]
  constructor
  · intro hm
    cases hD : (r.fieldsAt args).mapM (S.derivedField (S.allocIn S.nestingLimit [t])) with
    | ok ws =>
      rw [hsame (by rw [hD]; intro h; cases h), hD] at hm
      cases hm
      rfl
    | error e =>
      cases e with
      | none =>
        rw [hsame (by rw [hD]; intro h; cases h), hD] at hm
        cases hm
      | endless =>
        -- the first field cut as never returning has a fill that returns: a contradiction
        obtain ⟨pre, x, post, hfields, -, hx⟩ := mapM_eq_error hD
        have hxmem : x ∈ r.fieldsAt args := by rw [hfields]; simp
        obtain ⟨v, hv⟩ := ok_of_mapM_ok hm hxmem
        exact absurd (by rw [hdef, hD]; rfl) (allocDefault_ne_endless_of_cut (hfd x hxmem)
          (hnested x hxmem) hx (by rw [hv]; intro h; cases h))
  · intro h
    cases hD : (r.fieldsAt args).mapM (S.derivedField (S.allocIn S.nestingLimit [t])) with
    | ok ws =>
      rw [hD] at h
      cases h
      rw [hsame (by rw [hD]; intro h; cases h), hD]
    | error e => rw [hD] at h; cases h

/-- A record whose allocation default never returns has a first field whose own default never
returns, after fields whose own defaults all succeed. -/
theorem allocDefault_endless_first (h : S.allocDefault t = .error .endless) :
    ∃ pre x post, r.fieldsAt args = pre ++ x :: post ∧
      (∀ y ∈ pre, ∃ v, S.fieldAllocDefault y = .ok v) ∧ x.skip = false ∧
      S.fieldAllocDefault x = .error .endless := by
  rw [allocDefault_record hs hrec] at h
  by_cases hblock : ((r.fieldsAt args).any fun f => f.isProperty && f.adapted && !f.useDefault)
  · rw [if_pos hblock] at h
    cases h
  rw [if_neg hblock] at h
  have hfd : ∀ fd ∈ r.fieldsAt args, ¬(fd.isProperty && fd.adapted && !fd.useDefault) = true :=
    fun fd hfd h => hblock (List.any_eq_true.mpr ⟨fd, hfd, h⟩)
  have hD : (r.fieldsAt args).mapM (S.derivedField (S.allocIn S.nestingLimit [t])) =
      .error .endless := by
    cases hD : (r.fieldsAt args).mapM (S.derivedField (S.allocIn S.nestingLimit [t])) with
    | ok ws => rw [hD] at h; cases h
    | error e => rw [hD] at h; cases h; rfl
  obtain ⟨pre, x, post, hfields, hpre, hx⟩ := mapM_eq_error hD
  have hmem : ∀ y ∈ pre, y ∈ r.fieldsAt args := fun y hy => by rw [hfields]; simp [hy]
  have hxmem : x ∈ r.fieldsAt args := by rw [hfields]; simp
  refine ⟨pre, x, post, hfields, fun y hy => ?_, ?_, ?_⟩
  · obtain ⟨v, hv⟩ := hpre y hy
    exact ⟨v, by rw [fieldAllocDefault_eq_derived (hfd y (hmem y hy)) (by rw [hv]; intro h; cases h),
      hv]⟩
  · exact (Bool.or_eq_false_iff.mp (derivedField_endless hx).1).1
  · by_contra hne
    exact allocDefault_ne_endless_of_cut (hfd x hxmem) (hnested x hxmem) hx hne
      (by rw [allocDefault_record hs hrec, if_neg hblock, hD]; rfl)

omit hnested in
/-- A record's allocation default, where there is one, is a record value. -/
theorem allocDefault_ok_record {y : Datum} (h : S.allocDefault t = .ok y) :
    ∃ vs, y = .record vs := by
  rw [allocDefault_record hs hrec] at h
  by_cases hblock : ((r.fieldsAt args).any fun f => f.isProperty && f.adapted && !f.useDefault)
  · rw [if_pos hblock] at h
    cases h
  rw [if_neg hblock] at h
  cases hD : (r.fieldsAt args).mapM (S.derivedField (S.allocIn S.nestingLimit [t])) with
  | ok vs => rw [hD] at h; cases h; exact ⟨vs, rfl⟩
  | error e => rw [hD] at h; cases h

end Record

/-- The descriptor of a record places each property at a mapped field, in the fields' order,
and each excluded field at a skipped one, and its operations fill each with the field's own
default, as long as every mapped field that is not adapted has a value representation. -/
theorem descriptor?_fill (hrec : S.record? t = some (r, args))
    (hmappable : ∀ fd ∈ r.fieldsAt args, fd.skip = false → fd.adapted = false →
      (S.valueOps? fd.ty).isSome) :
    ∃ d, S.descriptor? t = some d ∧ d.ty = t ∧ d.exhaustive = !r.packed ∧
      Uninit.fieldCount d = (r.fieldsAt args).length ∧
      (d.properties.map (·.position)).Pairwise (· < ·) ∧
      (∀ p ∈ d.properties, ∃ fd, (r.fieldsAt args)[p.position]? = some fd ∧
        p.ops.makeDefault S = S.fieldAllocDefault fd) ∧
      ∀ e ∈ d.excluded, ∃ fd, (r.fieldsAt args)[e.position]? = some fd ∧ fd.skip = true ∧
        e.ops.makeDefault S = S.fieldAllocDefault fd := by
  unfold Schema.descriptor?
  simp only [hrec]
  refine ⟨_, rfl, rfl, rfl, ?_, ?_, ?_, ?_⟩
  · -- the mapped fields and the skipped ones split the fields
    have hsplit := (List.filter_append_perm (fun x : Nat × FieldDecl => x.2.isProperty)
      ((List.range (r.fieldsAt args).length).zip (r.fieldsAt args))).length_eq
    simp only [List.length_append, List.length_zip, List.length_range, Nat.min_self] at hsplit
    simpa [Uninit.fieldCount] using hsplit
  · -- the positions of the properties are those of the mapped fields, in order
    set numbered := (List.range (r.fieldsAt args).length).zip (r.fieldsAt args)
    set props := numbered.filter (·.2.isProperty)
    rw [List.map_map]
    show ((List.range props.length).zip props |>.map fun x => x.2.1).Pairwise (· < ·)
    have hsnd : ((List.range props.length).zip props).map Prod.snd = props :=
      List.map_snd_zip (Nat.le_of_eq List.length_range.symm)
    have hposition : ((List.range props.length).zip props).map (fun x => x.2.1) =
        props.map Prod.fst := by
      conv_rhs => rw [← hsnd, List.map_map]
      rfl
    have hkeys : numbered.map Prod.fst = List.range (r.fieldsAt args).length :=
      List.map_fst_zip (Nat.le_of_eq List.length_range)
    have hsub : (props.map Prod.fst).Sublist (numbered.map Prod.fst) :=
      List.filter_sublist.map Prod.fst
    rw [hkeys] at hsub
    rw [hposition]
    exact List.pairwise_lt_range.sublist hsub
  · intro p hp
    obtain ⟨⟨index, position, fd⟩, hmem, rfl⟩ := List.mem_map.mp hp
    obtain ⟨hnum, hprop⟩ := List.mem_filter.mp (List.of_mem_zip hmem).2
    dsimp only at hnum
    obtain ⟨hj, hfd⟩ := mem_range_zip hnum
    refine ⟨fd, by rw [List.getElem?_eq_getElem hj, hfd], ?_⟩
    have hskip : fd.skip = false := by simpa [FieldDecl.isProperty] using hprop
    have hfd' : fd ∈ r.fieldsAt args := hfd ▸ List.getElem_mem hj
    -- the operations of a property: declared for a default, opaque when adapted, its own else
    by_cases huse : fd.useDefault = true
    · cases fd.adapted <;> simp [TypeOps.makeDefault, fieldAllocDefault, huse, opaqueOps, typeOps]
    · by_cases hadapted : fd.adapted = true
      · simp [TypeOps.makeDefault, fieldAllocDefault, huse, hadapted, hskip, opaqueOps]
      · have hvalue := hmappable fd hfd' hskip (by simpa using hadapted)
        simp [TypeOps.makeDefault, fieldAllocDefault, huse, hadapted, hskip, typeOps, hvalue]
  · intro e he
    obtain ⟨⟨position, fd⟩, hmem, rfl⟩ := List.mem_map.mp he
    obtain ⟨hnum, hskipped⟩ := List.mem_filter.mp hmem
    dsimp only at hnum
    obtain ⟨hj, hfd⟩ := mem_range_zip hnum
    have hskip : fd.skip = true := by simpa [FieldDecl.isProperty] using hskipped
    refine ⟨fd, by rw [List.getElem?_eq_getElem hj, hfd], hskip, ?_⟩
    simp [TypeOps.makeDefault, fieldAllocDefault, hskip, opaqueOps]

end Schema

/-- A record type, not a scalar of the same name, carries its own descriptor. -/
theorem Factory.descriptorOf_record {S : Schema} {t : Ty} {r : RecordDecl} {args : List Ty}
    (hscalar : S.scalar? t = none) (hrec : S.record? t = some (r, args)) :
    Factory.descriptorOf S t = S.descriptor? t := by
  have hvalue : S.valueOps? t = some { kind := .object, descriptor := some t } := by
    cases t <;> first
      | (simp [Schema.record?, Ty.head?] at hrec; done)
      | simp only [Schema.valueOps?, hscalar, hrec]
  simp [Factory.descriptorOf, hvalue]

/-- Each field of a well-formed descriptor stands at the position of a property or of an excluded
field. -/
theorem Descriptor.WellFormed.mem_positions {d : Descriptor} (hwf : d.WellFormed) {j : Nat}
    (hj : j < Uninit.fieldCount d) :
    (∃ p ∈ d.properties, p.position = j) ∨ ∃ e ∈ d.excluded, e.position = j := by
  have hmem : j ∈ d.properties.map (·.position) ++ d.excluded.map (·.position) :=
    hwf.positions.mem_iff.mpr (List.mem_range.mpr hj)
  simpa using hmem

namespace Uninit

variable {S : Schema} {u : Uninit}

/-- Finishing a record of which nothing was read: every field takes its default, where the
default of a field is `dflt` of the declaration at its position. The record holds the defaults
in field order; when one of them fails, the finish fails with what stopped one of them. -/
theorem finish_unread {γ : Type} {fds : List γ} {dflt : γ → Except AllocStop Datum}
    (hwf : u.descriptor.WellFormed) (hdesc : Strategy.described u.descriptor = true)
    (hlen : u.slots.length = Uninit.fieldCount u.descriptor)
    (hcount : Uninit.fieldCount u.descriptor = fds.length)
    (hslot : ∀ p ∈ u.descriptor.properties, u.slots[p.position]? = some none)
    (hwritten : ∀ p ∈ u.descriptor.properties, u.written.contains p.index = false)
    (hfillP : ∀ p ∈ u.descriptor.properties, ∃ x, fds[p.position]? = some x ∧
      p.ops.makeDefault S = dflt x)
    (hfillE : ∀ e ∈ u.descriptor.excluded, ∃ x, fds[e.position]? = some x ∧
      e.ops.makeDefault S = dflt x) :
    (∀ vs, fds.mapM dflt = .ok vs →
      u.finish S = .ok ⟨u.descriptor.ty, .record vs, u.identity⟩) ∧
    ∀ e, fds.mapM dflt = .error e → ∃ x ∈ fds, ∃ s, dflt x = .error s ∧
      ∃ reason, u.finish S = .error (s.toError u.descriptor.typeName reason) := by
  have hfin := finish_cases (S := S) hwf hdesc hlen (fun _ => none) hslot
    (fun p hp => (hwritten p hp).trans rfl)
  simp only [Option.isSome_none, Bool.false_eq_true, if_false] at hfin
  obtain ⟨hstopP, hstopE, hfilled⟩ := hfin
  refine ⟨fun vs hfields => ?_, fun e hfields => ?_⟩
  · obtain ⟨hvlen, hvget⟩ := getElem?_of_mapM_except hfields
    -- a field's default succeeds, so neither pass stops
    have hok : ∀ j x, fds[j]? = some x → ∃ v, dflt x = .ok v :=
      fun j x hx => ok_of_mapM_ok hfields (List.mem_of_getElem? hx)
    obtain ⟨fields, hf, hflen, hfp, hfe⟩ := hfilled
      (List.findSome?_eq_none_iff.mpr fun p hp => by
        obtain ⟨x, hx, hdef⟩ := hfillP p hp
        exact TypeOps.defaultStop?_eq_none.mpr (hdef ▸ hok _ x hx))
      (List.findSome?_eq_none_iff.mpr fun e he => by
        obtain ⟨x, hx, hdef⟩ := hfillE e he
        exact TypeOps.defaultStop?_eq_none.mpr (hdef ▸ hok _ x hx))
    -- the record finished holds at each position the default of the field there
    have hsame : fields = vs := by
      refine List.ext_getElem? fun j => ?_
      by_cases hj : j < fds.length
      · rw [hvget]
        rcases hwf.mem_positions (hcount ▸ hj) with ⟨p, hp, rfl⟩ | ⟨e, he, rfl⟩
        · obtain ⟨x, hx, hdef⟩ := hfillP p hp
          rw [hfp p hp, hdef, hx]
          rfl
        · obtain ⟨x, hx, hdef⟩ := hfillE e he
          rw [hfe e he, hdef, hx]
          rfl
      · rw [List.getElem?_eq_none (by omega), List.getElem?_eq_none (by omega)]
    rw [hf, hsame]
  · -- a field without a default lies at a property or an excluded field, where a pass stops
    cases hP : u.descriptor.properties.findSome? (·.ops.defaultStop? S) with
    | some s =>
      obtain ⟨p, hp, hps⟩ := List.exists_of_findSome?_eq_some hP
      obtain ⟨x, hx, hdef⟩ := hfillP p hp
      exact ⟨x, List.mem_of_getElem? hx, s, hdef ▸ TypeOps.defaultStop?_eq_some.mp hps, _,
        hstopP s hP⟩
    | none =>
      cases hE : u.descriptor.excluded.findSome? (·.ops.defaultStop? S) with
      | some s =>
        obtain ⟨e', he, hes⟩ := List.exists_of_findSome?_eq_some hE
        obtain ⟨x, hx, hdef⟩ := hfillE e' he
        exact ⟨x, List.mem_of_getElem? hx, s, hdef ▸ TypeOps.defaultStop?_eq_some.mp hes, _,
          hstopE hP s hE⟩
      | none =>
        obtain ⟨pre, x, post, rfl, -, hx⟩ := mapM_eq_error hfields
        have hat : (pre ++ x :: post)[pre.length]? = some x := by simp
        have hj : pre.length < Uninit.fieldCount u.descriptor := by rw [hcount]; simp
        rcases hwf.mem_positions hj with ⟨p, hp, hpos⟩ | ⟨e', he, hpos⟩
        · obtain ⟨x', hx', hdef⟩ := hfillP p hp
          rw [hpos, hat, Option.some.injEq] at hx'
          subst hx'
          have := List.findSome?_eq_none_iff.mp hP p hp
          rw [TypeOps.defaultStop?_eq_none, hdef, hx] at this
          obtain ⟨v, hv⟩ := this
          cases hv
        · obtain ⟨x', hx', hdef⟩ := hfillE e' he
          rw [hpos, hat, Option.some.injEq] at hx'
          subst hx'
          have := List.findSome?_eq_none_iff.mp hE e' he
          rw [TypeOps.defaultStop?_eq_none, hdef, hx] at this
          obtain ⟨v, hv⟩ := this
          cases hv

/-- Finishing a record of which nothing was read stops at a property whose default fails when
the properties before it, at smaller positions, all have theirs. -/
theorem finish_unread_first (hwf : u.descriptor.WellFormed)
    (hdesc : Strategy.described u.descriptor = true)
    (hlen : u.slots.length = Uninit.fieldCount u.descriptor)
    (hslot : ∀ p ∈ u.descriptor.properties, u.slots[p.position]? = some none)
    (hwritten : ∀ p ∈ u.descriptor.properties, u.written.contains p.index = false)
    (hsorted : (u.descriptor.properties.map (·.position)).Pairwise (· < ·))
    {p : PropertyInfo} (hp : p ∈ u.descriptor.properties) {s : AllocStop}
    (hstop : p.ops.makeDefault S = .error s)
    (hbefore : ∀ q ∈ u.descriptor.properties, q.position < p.position →
      ∃ v, q.ops.makeDefault S = .ok v) :
    u.finish S =
      .error (s.toError u.descriptor.typeName "an absent property has no default value") := by
  have hfin := (finish_cases (S := S) hwf hdesc hlen (fun _ => none) hslot
    (fun q hq => (hwritten q hq).trans rfl)).1 s
  simp only [Option.isSome_none, Bool.false_eq_true, if_false] at hfin
  refine hfin ?_
  obtain ⟨pre, post, hsplit⟩ := List.append_of_mem hp
  rw [hsplit, List.map_append, List.pairwise_append] at hsorted
  -- the properties before `p` stand at smaller positions, and their defaults succeed
  have hpre : pre.findSome? (·.ops.defaultStop? S) = none :=
    List.findSome?_eq_none_iff.mpr fun q hq => TypeOps.defaultStop?_eq_none.mpr
      (hbefore q (by rw [hsplit]; simp [hq])
        (hsorted.2.2 _ (List.mem_map_of_mem hq) _ (by simp)))
  rw [hsplit, List.findSome?_append, hpre, Option.none_or, List.findSome?_cons,
    TypeOps.defaultStop?_eq_some.mpr hstop]

end Uninit


namespace Mapper

/-- Nothing is read from a map with no entries. -/
theorem run_mapM_readPresent_empty (depth : Nat) (owner : String) (g : Factory) :
    ∀ ps : List MappedProperty, Factory.run (ps.mapM (readPresent depth owner .empty)) g =
      (.ok (ps.map fun _ => none), g)
  | [] => rfl
  | p :: ps => by
    have hp : readPresent depth owner .empty p = pure none := rfl
    rw [List.mapM_cons, hp, pure_bind, Factory.run_bind_ok (run_mapM_readPresent_empty _ _ _ ps)]
    rfl

end Mapper

end ObjectMapping
