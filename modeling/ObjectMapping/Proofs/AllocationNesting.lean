import ObjectMapping.Proofs.FactoryRun

/-!
# How an allocation default depends on its fuel and the records open

`Schema.allocIn` computes an allocation default with the records whose defaults are being
computed, one inside another, and a fuel of records that may still open below. A record asked
for again inside itself is cut as a computation that never returns, and so is one past the
fuel. Neither changes a default that is computed:

* `Schema.allocIn_weaken`: a default that ends is the same with fewer records open and more fuel.
* `Schema.allocIn_stable`: when the records a type asks for nest within the fuel
  (`Schema.nestsWithin`), more fuel changes nothing at all.
* `Schema.allocIn_absorb`: a type whose default ends, but is cut once `t` is open as well, asks
  for `t` along the way, and then `t`'s own default ends.
-/

namespace ObjectMapping

section Traversal

variable {α ε β : Type}

/-- A traversal that fails stops at the first element that fails, every element before it
having a result. -/
theorem mapM_eq_error {F : α → Except ε β} {e : ε} :
    ∀ {xs : List α}, xs.mapM F = .error e →
      ∃ pre x post, xs = pre ++ x :: post ∧ (∀ y ∈ pre, ∃ b, F y = .ok b) ∧ F x = .error e
  | [], h => by cases h
  | x :: xs, h => by
    rw [List.mapM_cons] at h
    cases hx : F x with
    | error e' =>
      rw [hx] at h
      cases h
      exact ⟨[], x, xs, rfl, by simp, hx⟩
    | ok b =>
      rw [hx] at h
      cases hrest : xs.mapM F with
      | ok bs => rw [hrest] at h; cases h
      | error e' =>
        rw [hrest] at h
        cases h
        obtain ⟨pre, y, post, rfl, hpre, hy⟩ := mapM_eq_error hrest
        refine ⟨x :: pre, y, post, rfl, fun z hz => ?_, hy⟩
        rcases List.mem_cons.mp hz with rfl | hz
        · exact ⟨b, hx⟩
        · exact hpre z hz

/-- A traversal whose elements before `x` all have results fails with `x`'s error. -/
theorem mapM_append_error {F : α → Except ε β} {e : ε} {x : α} {post : List α} :
    ∀ {pre : List α}, (∀ y ∈ pre, ∃ b, F y = .ok b) → F x = .error e →
      (pre ++ x :: post).mapM F = .error e
  | [], _, hx => by rw [List.nil_append, List.mapM_cons, hx]; rfl
  | y :: pre, hpre, hx => by
    obtain ⟨b, hy⟩ := hpre y List.mem_cons_self
    rw [List.cons_append, List.mapM_cons, hy,
      mapM_append_error (fun z hz => hpre z (List.mem_cons_of_mem y hz)) hx]
    rfl

end Traversal

namespace Schema

variable {S : Schema}

/-- A traversal whose result ends keeps it when each element's result that ends is kept. -/
theorem mapM_weaken {α : Type} {F G : α → Except AllocStop Datum} :
    ∀ {xs : List α}, (∀ x ∈ xs, F x ≠ .error .endless → G x = F x) →
      xs.mapM F ≠ .error .endless → xs.mapM G = xs.mapM F
  | [], _, _ => rfl
  | x :: xs, h, hend => by
    rw [List.mapM_cons] at hend
    rw [List.mapM_cons, List.mapM_cons]
    cases hF : F x with
    | error e =>
      rw [hF] at hend
      have he : e ≠ .endless := by
        rintro rfl
        exact hend rfl
      rw [h x List.mem_cons_self (by rw [hF]; exact fun h' => he (by injection h')), hF]
      rfl
    | ok a =>
      rw [hF] at hend
      rw [h x List.mem_cons_self (by rw [hF]; intro h'; cases h'), hF]
      have htail : xs.mapM F ≠ .error .endless := fun h' => hend (by rw [h']; rfl)
      rw [mapM_weaken (fun y hy => h y (List.mem_cons_of_mem x hy)) htail]

/-! ## One field -/

section Field

variable {k k' : Ty → Except AllocStop Datum} {fd : FieldDecl}

/-- The default the derived allocation default gives one field, `k` giving the field's type its
own: the type's default for a skipped field and for one marked default. -/
def derivedField (S : Schema) (k : Ty → Except AllocStop Datum) (fd : FieldDecl) :
    Except AllocStop Datum :=
  if fd.skip || fd.useDefault then (S.default? fd.ty).elim (throw .none) pure else k fd.ty

/-- A declared default is there or not: it never fails to return. -/
theorem declaredDefault_ne_endless (u : Ty) :
    ((S.default? u).elim (throw .none) pure : Except AllocStop Datum) ≠ .error .endless := by
  cases S.default? u <;> intro h <;> cases h

theorem derivedField_of_alloc (hd : (fd.skip || fd.useDefault) = false) :
    S.derivedField k fd = k fd.ty := by
  rw [derivedField, hd, if_neg Bool.false_ne_true]

theorem derivedField_congr (h : (fd.skip || fd.useDefault) = false → k' fd.ty = k fd.ty) :
    S.derivedField k' fd = S.derivedField k fd := by
  cases hd : (fd.skip || fd.useDefault)
  · rw [derivedField_of_alloc hd, derivedField_of_alloc hd, h hd]
  · simp only [derivedField, hd, if_true]

/-- A field's default that never returns is its type's. -/
theorem derivedField_endless (h : S.derivedField k fd = .error .endless) :
    (fd.skip || fd.useDefault) = false ∧ k fd.ty = .error .endless := by
  cases hd : (fd.skip || fd.useDefault)
  · rw [derivedField_of_alloc hd] at h
    exact ⟨rfl, h⟩
  · simp only [derivedField, hd, if_true] at h
    exact absurd h (declaredDefault_ne_endless fd.ty)

end Field

/-! ## One layer at a declared type -/

section Declared

variable {next : Option (List Ty → Ty → Except AllocStop Datum)} {opened : List Ty} {t : Ty}

/-- A type the schema names or applies. -/
def Declared (t : Ty) : Prop := (∃ p, t = .named p) ∨ ∃ g a, t = .apply g a

theorem allocLayer_scalar {s : ScalarDecl} (hs : S.scalar? t = some s) :
    S.allocLayer next opened t = pure (.int s.allocDefault) := by
  cases t <;> first
    | (simp [Schema.scalar?] at hs; done)
    | simp only [Schema.allocLayer, hs]

theorem allocLayer_undeclared (ht : Declared t) (hs : S.scalar? t = none)
    (hr : S.record? t = none) : S.allocLayer next opened t = throw .none := by
  rcases ht with ⟨p, rfl⟩ | ⟨g, a, rfl⟩ <;> simp only [Schema.allocLayer, hs, hr]

theorem allocLayer_record {r : RecordDecl} {args : List Ty} (hs : S.scalar? t = none)
    (hrec : S.record? t = some (r, args)) :
    S.allocLayer next opened t =
      if (r.fieldsAt args).any (fun f => f.isProperty && f.adapted && !f.useDefault) then
        throw .none
      else if t ∈ opened then throw .endless
      else
        next.elim (throw .endless) fun fieldDefault =>
          .record <$> (r.fieldsAt args).mapM (S.derivedField (fieldDefault (t :: opened))) := by
  cases t <;> first
    | (simp [Schema.record?, Ty.head?] at hrec; done)
    | (simp only [Schema.allocLayer, hs, hrec]; cases next <;> rfl)

theorem nestsLayer_record {nests : Option (List Ty → Ty → Bool)} {r : RecordDecl}
    {args : List Ty} (hs : S.scalar? t = none) (hrec : S.record? t = some (r, args)) :
    S.nestsLayer nests opened t =
      ((r.fieldsAt args).any (fun f => f.isProperty && f.adapted && !f.useDefault) ||
        t ∈ opened ||
        nests.elim false fun nests => (r.fieldsAt args).all fun f =>
          f.skip || f.useDefault || nests (t :: opened) f.ty) := by
  cases t <;> first
    | (simp [Schema.record?, Ty.head?] at hrec; done)
    | (simp only [Schema.nestsLayer, hs, hrec]; cases nests <;> rfl)

end Declared

/-! ## Fewer records open and more fuel -/

section Weaken

variable {next next' : Option (List Ty → Ty → Except AllocStop Datum)}

/-- At a declared type, a layer that ends is the same with fewer records open, as long as the
fields' defaults that end are. -/
theorem allocLayer_weaken_declared
    (hnext : ∀ k, next = some k → ∃ k', next' = some k' ∧
      ∀ O O' u, O' ⊆ O → k O u ≠ .error .endless → k' O' u = k O u)
    {t : Ty} (ht : Declared t) {O O' : List Ty} (hO : O' ⊆ O)
    (h : S.allocLayer next O t ≠ .error .endless) :
    S.allocLayer next' O' t = S.allocLayer next O t := by
  rcases hs : S.scalar? t with _ | s
  · rcases hr : S.record? t with _ | ⟨r, args⟩
    · rw [allocLayer_undeclared ht hs hr, allocLayer_undeclared ht hs hr]
    · rw [allocLayer_record hs hr] at h ⊢
      rw [allocLayer_record hs hr]
      by_cases hblock : ((r.fieldsAt args).any fun f => f.isProperty && f.adapted && !f.useDefault)
      · rw [if_pos hblock, if_pos hblock]
      · have hnotO : t ∉ O := fun hm => h (by rw [if_neg hblock, if_pos hm]; rfl)
        rw [if_neg hblock, if_neg hnotO] at h ⊢
        rw [if_neg hblock, if_neg fun hm => hnotO (hO hm)]
        cases hk : next with
        | none => rw [hk] at h; exact absurd rfl h
        | some k =>
          obtain ⟨k', hk', hkk⟩ := hnext k hk
          rw [hk] at h
          rw [hk']
          simp only [Option.elim_some] at h ⊢
          have hfields : (r.fieldsAt args).mapM (S.derivedField (k' (t :: O'))) =
              (r.fieldsAt args).mapM (S.derivedField (k (t :: O))) :=
            mapM_weaken (fun f _ hf => derivedField_congr fun hd =>
                hkk _ _ _ (List.cons_subset_cons t hO) (by rwa [derivedField_of_alloc hd] at hf))
              fun hm => h (by rw [hm]; rfl)
          rw [hfields]
  · rw [allocLayer_scalar hs, allocLayer_scalar hs]

/-- A layer that ends is the same with fewer records open, as long as the fields' defaults that
end are. -/
theorem allocLayer_weaken
    (hnext : ∀ k, next = some k → ∃ k', next' = some k' ∧
      ∀ O O' u, O' ⊆ O → k O u ≠ .error .endless → k' O' u = k O u) (t : Ty) :
    ∀ {O O' : List Ty}, O' ⊆ O → S.allocLayer next O t ≠ .error .endless →
      S.allocLayer next' O' t = S.allocLayer next O t := by
  induction t with
  | boxed t ih => exact ih
  | array t n ih =>
    intro O O' hO h
    simp only [allocLayer] at h ⊢
    split
    · rfl
    · rename_i hn
      rw [if_neg hn] at h
      rw [ih hO fun h' => h (by rw [h']; rfl)]
  | named p => exact fun hO h => allocLayer_weaken_declared hnext (.inl ⟨p, rfl⟩) hO h
  | apply g a _ _ => exact fun hO h => allocLayer_weaken_declared hnext (.inr ⟨g, a, rfl⟩) hO h
  | int w => exact fun _ _ => by cases w <;> rfl
  | _ => exact fun _ _ => rfl

/-- An allocation default that ends is the same with fewer records open and more fuel. -/
theorem allocIn_weaken : ∀ {f f' : Nat}, f ≤ f' → ∀ {O O' : List Ty} {t : Ty}, O' ⊆ O →
    S.allocIn f O t ≠ .error .endless → S.allocIn f' O' t = S.allocIn f O t
  | 0, f', _, O, O', t, hO, h => by
    cases f' with
    | zero => exact allocLayer_weaken (fun k hk => by cases hk) t hO h
    | succ g' => exact allocLayer_weaken (fun k hk => by cases hk) t hO h
  | g + 1, f', hf, O, O', t, hO, h => by
    obtain ⟨g', rfl⟩ : ∃ g', f' = g' + 1 := ⟨f' - 1, by omega⟩
    exact allocLayer_weaken (fun k hk => ⟨S.allocIn g', rfl, by
      cases hk
      exact fun O O' u hO' hu => allocIn_weaken (by omega) hO' hu⟩) t hO h

end Weaken

/-! ## Enough fuel -/

section Stable

variable {next next' : Option (List Ty → Ty → Except AllocStop Datum)}
  {nests : Option (List Ty → Ty → Bool)}

/-- At a declared type whose records nest within the layer, the layer does not depend on which
of two field defaults it is given, as long as they agree where the fields nest. -/
theorem allocLayer_stable_declared
    (hnext : ∀ n, nests = some n → ∃ k k', next = some k ∧ next' = some k' ∧
      ∀ O u, n O u = true → k' O u = k O u)
    {t : Ty} (ht : Declared t) {O : List Ty} (h : S.nestsLayer nests O t = true) :
    S.allocLayer next' O t = S.allocLayer next O t := by
  rcases hs : S.scalar? t with _ | s
  · rcases hr : S.record? t with _ | ⟨r, args⟩
    · rw [allocLayer_undeclared ht hs hr, allocLayer_undeclared ht hs hr]
    · rw [nestsLayer_record hs hr] at h
      rw [allocLayer_record hs hr, allocLayer_record hs hr]
      by_cases hblock : ((r.fieldsAt args).any fun f => f.isProperty && f.adapted && !f.useDefault)
      · rw [if_pos hblock, if_pos hblock]
      · by_cases hmem : t ∈ O
        · rw [if_neg hblock, if_pos hmem, if_neg hblock, if_pos hmem]
        rw [if_neg hblock, if_neg hmem, if_neg hblock, if_neg hmem]
        cases hn : nests with
        | none => simp [hn, hblock, hmem] at h
        | some n =>
          obtain ⟨k, k', hk, hk', hkk⟩ := hnext n hn
          have hall : ∀ f ∈ r.fieldsAt args, (f.skip || f.useDefault || n (t :: O) f.ty) = true := by
            simpa [hn, hblock, hmem] using h
          rw [hk, hk']
          simp only [Option.elim_some]
          refine congrArg _ (mapM_congr_mem fun f hf => derivedField_congr fun hd => hkk _ _ ?_)
          simpa only [hd, Bool.false_or] using hall f hf
  · rw [allocLayer_scalar hs, allocLayer_scalar hs]

theorem allocLayer_stable
    (hnext : ∀ n, nests = some n → ∃ k k', next = some k ∧ next' = some k' ∧
      ∀ O u, n O u = true → k' O u = k O u) (t : Ty) :
    ∀ {O : List Ty}, S.nestsLayer nests O t = true → S.allocLayer next' O t = S.allocLayer next O t := by
  induction t with
  | boxed t ih => exact ih
  | array t n ih =>
    intro O h
    simp only [allocLayer, nestsLayer, Bool.or_eq_true, beq_iff_eq] at h ⊢
    split
    · rfl
    · rename_i hn
      rw [ih (h.resolve_left hn)]
  | named p => exact allocLayer_stable_declared hnext (.inl ⟨p, rfl⟩)
  | apply g a _ _ => exact allocLayer_stable_declared hnext (.inr ⟨g, a, rfl⟩)
  | int w => exact fun _ => by cases w <;> rfl
  | _ => exact fun _ => rfl

/-- When the records a type asks for nest within `k` openings, any more fuel gives the same
default. -/
theorem allocIn_stable : ∀ {k : Nat} {O : List Ty} {t : Ty}, S.nestsWithin k O t = true →
    ∀ {f : Nat}, k ≤ f → S.allocIn f O t = S.allocIn k O t
  | 0, O, t, h, f, _ => by
    cases f with
    | zero => rfl
    | succ g => exact allocLayer_stable (fun n hn => by cases hn) t h
  | j + 1, O, t, h, f, hf => by
    obtain ⟨g, rfl⟩ : ∃ g, f = g + 1 := ⟨f - 1, by omega⟩
    exact allocLayer_stable (fun n hn => ⟨S.allocIn j, S.allocIn g, rfl, rfl, by
      cases hn
      exact fun O u hu => allocIn_stable hu (by omega)⟩) t h

end Stable

/-! ## A record cut as open -/

section Absorb

variable {next : Option (List Ty → Ty → Except AllocStop Datum)} {t : Ty} {O O₁ : List Ty}

/-- At a declared type `u`, a layer that ends with the records `O` open but is cut with `t` open as
well reaches `t`: either `u` is `t`, or a field of `u` is cut the same way one record deeper. -/
theorem allocLayer_absorb_declared (htO : t ∉ O) (hO₁ : ∀ x, x ∈ O₁ ↔ x = t ∨ x ∈ O)
    (hweak : ∀ k, next = some k → ∀ v x, k (v :: O₁) x ≠ .error .endless →
      k (v :: O) x = k (v :: O₁) x)
    (hstep : ∀ k, next = some k → ∀ v x, v ≠ t → k (v :: O₁) x = .error .endless →
      k (v :: O) x ≠ .error .endless → S.allocLayer next O t ≠ .error .endless)
    {u : Ty} (hu : Declared u) (h₁ : S.allocLayer next O₁ u = .error .endless)
    (h : S.allocLayer next O u ≠ .error .endless) : S.allocLayer next O t ≠ .error .endless := by
  rcases hs : S.scalar? u with _ | s
  · rcases hr : S.record? u with _ | ⟨r, args⟩
    · rw [allocLayer_undeclared hu hs hr] at h₁
      cases h₁
    · rw [allocLayer_record hs hr] at h₁ h
      by_cases hblock : ((r.fieldsAt args).any fun f => f.isProperty && f.adapted && !f.useDefault)
      · rw [if_pos hblock] at h₁
        cases h₁
      rw [if_neg hblock] at h₁ h
      by_cases hmem : u ∈ O
      · exact absurd (by rw [if_pos hmem]; rfl) h
      rw [if_neg hmem] at h
      by_cases hmem₁ : u ∈ O₁
      · -- `u` is open with `t` but not without it: it is `t`
        obtain rfl : u = t := ((hO₁ u).mp hmem₁).resolve_right hmem
        rw [allocLayer_record hs hr, if_neg hblock, if_neg hmem]
        exact h
      rw [if_neg hmem₁] at h₁
      cases hn : next with
      | none => rw [hn] at h; exact absurd rfl h
      | some k =>
        rw [hn] at h₁ h
        simp only [Option.elim_some] at h₁ h
        have hut : u ≠ t := fun hut => hmem₁ ((hO₁ u).mpr (.inl hut))
        -- the first field cut with `t` open
        have hcut : (r.fieldsAt args).mapM (S.derivedField (k (u :: O₁))) = .error .endless := by
          cases hm : (r.fieldsAt args).mapM (S.derivedField (k (u :: O₁))) with
          | ok _ => rw [hm] at h₁; cases h₁
          | error e => rw [hm] at h₁; cases h₁; rfl
        obtain ⟨pre, x, post, hfields, hpre, hx⟩ := mapM_eq_error hcut
        obtain ⟨hd, hx⟩ := derivedField_endless hx
        rw [← hn]
        refine hstep k hn u x.ty hut hx fun hx' => h ?_
        -- the fields before it end, and end alike without `t`
        have hpre' : ∀ y ∈ pre, ∃ b, S.derivedField (k (u :: O)) y = .ok b := by
          intro y hy
          obtain ⟨b, hb⟩ := hpre y hy
          refine ⟨b, (derivedField_congr fun hdy => hweak k hn u y.ty ?_).trans hb⟩
          rw [derivedField_of_alloc hdy] at hb
          rw [hb]
          intro h'
          cases h'
        rw [hfields, mapM_append_error hpre' (by rw [derivedField_of_alloc hd]; exact hx')]
        rfl
  · rw [allocLayer_scalar hs] at h₁
    cases h₁

theorem allocLayer_absorb (htO : t ∉ O) (hO₁ : ∀ x, x ∈ O₁ ↔ x = t ∨ x ∈ O)
    (hweak : ∀ k, next = some k → ∀ v x, k (v :: O₁) x ≠ .error .endless →
      k (v :: O) x = k (v :: O₁) x)
    (hstep : ∀ k, next = some k → ∀ v x, v ≠ t → k (v :: O₁) x = .error .endless →
      k (v :: O) x ≠ .error .endless → S.allocLayer next O t ≠ .error .endless) (u : Ty) :
    S.allocLayer next O₁ u = .error .endless → S.allocLayer next O u ≠ .error .endless →
      S.allocLayer next O t ≠ .error .endless := by
  induction u with
  | boxed u ih => exact ih
  | array u n ih =>
    intro h₁ h
    simp only [allocLayer] at h₁ h
    split at h₁
    · cases h₁
    · rename_i hn
      rw [if_neg hn] at h
      cases hu : S.allocLayer next O₁ u with
      | ok _ => rw [hu] at h₁; cases h₁
      | error e =>
        rw [hu] at h₁
        cases h₁
        exact ih hu fun h' => h (by rw [h']; rfl)
  | named p => exact allocLayer_absorb_declared htO hO₁ hweak hstep (.inl ⟨p, rfl⟩)
  | apply g a _ _ => exact allocLayer_absorb_declared htO hO₁ hweak hstep (.inr ⟨g, a, rfl⟩)
  | int w => exact fun h₁ => by cases w <;> cases h₁
  | _ => exact fun h₁ => by cases h₁

/-- A default that ends with the records `O` open but is cut once `t` is open as well asks for
`t` on the way, and then `t`'s own default ends. -/
theorem allocIn_absorb : ∀ {f : Nat} {O O₁ : List Ty} {u : Ty}, t ∉ O →
    (∀ x, x ∈ O₁ ↔ x = t ∨ x ∈ O) → S.allocIn f O₁ u = .error .endless →
    S.allocIn f O u ≠ .error .endless → S.allocIn f O t ≠ .error .endless
  | 0, O, O₁, u, htO, hO₁, h₁, h =>
    allocLayer_absorb htO hO₁ (fun k hk => by cases hk) (fun k hk => by cases hk) u h₁ h
  | g + 1, O, O₁, u, htO, hO₁, h₁, h =>
    allocLayer_absorb htO hO₁
      (fun k hk v x hx => by
        cases hk
        exact allocIn_weaken (Nat.le_refl g) (List.cons_subset_cons v fun y hy => (hO₁ y).mpr (.inr hy)) hx)
      (fun k hk v x hvt hx₁ hx => by
        cases hk
        have hinner : S.allocIn g (v :: O) t ≠ .error .endless := allocIn_absorb
          (by simp only [List.mem_cons, not_or]; exact ⟨fun htv => hvt htv.symm, htO⟩)
          (fun y => by rw [List.mem_cons, List.mem_cons, hO₁, or_left_comm]) hx₁ hx
        show S.allocIn (g + 1) O t ≠ .error .endless
        rw [allocIn_weaken (Nat.le_succ g) (List.subset_cons_self v O) hinner]
        exact hinner)
      u h₁ h

end Absorb

end Schema

end ObjectMapping
