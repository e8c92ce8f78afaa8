import ObjectMapping.Proofs.ReadDepth
import ObjectMapping.Proofs.PropertyChecks
import ObjectMapping.Proofs.FactoryRuns
import ObjectMapping.Proofs.FormatCalls

/-!
# Property paths of errors raised by the reader

An error raised inside a property is attributed to it by `MapError.within`, which puts the
property in front of the chain of an error that already has one, so chains never nest. This
module states that shape and shows that the reader keeps to it.

* `MapError.under base segs`: the bare error `base` attributed to the properties `segs`,
  outermost first. When `base` carries no chain, its root is `base`, it is `base` itself for no
  property, and otherwise one `inProperty` error whose message starts with `at` and the chain.
* `Adapter.PathFree`, `Mapper.PathFree`, `Factory.PathFree`: the conversions of adapters, the
  only code a mapper runs that it does not own, fail without a chain of properties. Building
  mappers keeps the factory so.
* `Value.ReadPath S T t v segs`: `segs` are record properties that reading `v` as `t` passes
  through, one level of records at a time, each written as the owner's descriptor name and the
  field's declared name. Options, boxes, lists, arrays, maps and adapters add none.
* `Raises S P x`: every error `x` raises satisfies `P`, judged with the mappers kept when it
  stops; the rules follow how operations are put together.
* `Mapper.readValue_raises`, `Mapper.readValueInto_keeps`: every error of a read is a bare
  error under a path of the value read. `Mapper.readMapWith_attributes` and
  `Mapper.readMapIntoWith_keeps`: a record's read puts the failing property in front of the
  error of that property.
-/

namespace ObjectMapping

/-! ## Errors under a chain of properties -/

namespace MapError

/-- The error `base` attributed to the properties `segs`, the outermost first. -/
def under (base : MapError) (segs : List (String × String)) : MapError :=
  segs.foldr (fun s e => e.within s.1 s.2) base

@[simp] theorem under_nil (base : MapError) : base.under [] = base := rfl

@[simp] theorem under_cons (base : MapError) (s : String × String) (segs : List (String × String)) :
    base.under (s :: segs) = (base.under segs).within s.1 s.2 :=
  rfl

/-- A bare error under properties is one `inProperty` error: the chain is flat. -/
theorem under_of_path?_eq_none {base : MapError} (h : base.path? = none) :
    ∀ {segs : List (String × String)}, segs ≠ [] → base.under segs = .inProperty ⟨segs⟩ base
  | [], hs => absurd rfl hs
  | [s], _ => by
    cases base <;> first | (simp [path?] at h; done) | rfl
  | s :: s' :: segs, _ => by
    rw [under_cons, under_of_path?_eq_none h (List.cons_ne_nil s' segs)]
    rfl

theorem root_under {base : MapError} (h : base.path? = none) (segs : List (String × String)) :
    (base.under segs).root = base := by
  induction segs with
  | nil => cases base <;> first | (simp [path?] at h; done) | rfl
  | cons s segs ih => rw [under_cons, root_within, ih]

theorem path?_under {base : MapError} (h : base.path? = none) (segs : List (String × String)) :
    (base.under segs).path? = if segs = [] then none else some ⟨segs⟩ := by
  by_cases hs : segs = []
  · subst hs
    simpa using h
  · rw [under_of_path?_eq_none h hs, if_neg hs]
    rfl

/-- The message of an error attributed to properties: `at`, the chain, then the cause. -/
theorem message_under {base : MapError} (h : base.path? = none) {segs : List (String × String)}
    (hs : segs ≠ []) :
    (base.under segs).message = "at " ++ " -> ".intercalate
      (segs.map fun s => "`" ++ s.1 ++ "::" ++ s.2 ++ "`") ++ ": " ++ base.message := by
  rw [under_of_path?_eq_none h hs]
  rfl

/-- `e` is a bare error under a chain of properties that `path` allows. -/
def Along (path : List (String × String) → Prop) (e : MapError) : Prop :=
  ∃ (base : MapError) (segs : List (String × String)),
    e = base.under segs ∧ base.path? = none ∧ path segs

namespace Along

variable {path path' : List (String × String) → Prop} {e : MapError}

theorem bare (h : e.path? = none) (hnil : path []) : Along path e := ⟨e, [], rfl, h, hnil⟩

theorem mono (h : Along path e) (hp : ∀ segs, path segs → path' segs) : Along path' e := by
  obtain ⟨base, segs, rfl, hbase, hsegs⟩ := h
  exact ⟨base, segs, rfl, hbase, hp segs hsegs⟩

/-- Attributing an error to one more property puts it in front of the chain. -/
theorem within (h : Along path e) (owner property : String) :
    Along (fun segs => ∃ rest, segs = (owner, property) :: rest ∧ path rest)
      (e.within owner property) := by
  obtain ⟨base, segs, rfl, hbase, hsegs⟩ := h
  exact ⟨base, (owner, property) :: segs, rfl, hbase, segs, rfl, hsegs⟩

end Along

end MapError

/-! ## Code that fails without a chain of properties -/

/-- The conversions of an adapter fail, if at all, with errors that carry no property. -/
def Adapter.PathFree (a : Adapter) : Prop :=
  (∀ d e, a.adapt d = .error e → e.path? = none) ∧ ∀ d e, a.restore d = .error e → e.path? = none

/-- Every adapter of every property of the mapper is path-free. -/
def Mapper.PathFree (m : Mapper) : Prop :=
  ∀ p ∈ m.properties, ∀ a ∈ p.chain.adapters, a.PathFree

/-- The registered adapters and the mappers kept are path-free. -/
def Factory.PathFree (f : Factory) : Prop :=
  (∀ a ∈ f.adapters.entries, a.PathFree) ∧ ∀ km ∈ f.cache, km.2.PathFree

/-- An error of a fold in `Except` is the error of one of its steps. -/
theorem foldlM_error_step {ε α β : Type} {g : β → α → Except ε β} :
    ∀ {xs : List α} {b : β} {e : ε}, xs.foldlM g b = .error e → ∃ a ∈ xs, ∃ b', g b' a = .error e
  | [], _, _, h => by cases h
  | a :: xs, b, e, h => by
    rw [List.foldlM_cons] at h
    rcases hg : g b a with e' | b'
    · rw [hg] at h
      cases h
      exact ⟨a, List.mem_cons_self, b, hg⟩
    · rw [hg] at h
      obtain ⟨a', ha', b'', h'⟩ := foldlM_error_step h
      exact ⟨a', List.mem_cons_of_mem a ha', b'', h'⟩

/-- An error of a sequence in `Except` is the error of its first part, or of the rest after a
first part that succeeded. -/
theorem bind_eq_error_cases {ε α β : Type} {x : Except ε α} {f : α → Except ε β} {e : ε}
    (h : (x >>= f) = .error e) : x = .error e ∨ ∃ a, x = .ok a ∧ f a = .error e := by
  cases x with
  | error e' =>
    cases h
    exact .inl rfl
  | ok a => exact .inr ⟨a, rfl, h⟩

namespace Adapter

variable {a : Adapter} {x : Instance} {e : MapError}

theorem adaptInstance_path?_eq_none (ha : a.PathFree) (h : a.adaptInstance x = .error e) :
    e.path? = none := by
  unfold adaptInstance at h
  split at h
  · rcases hd : a.adapt x.datum with e' | d <;> rw [hd] at h <;> cases h
    exact ha.1 _ _ hd
  · cases h
    rfl

theorem restoreInstance_path?_eq_none (ha : a.PathFree) (h : a.restoreInstance x = .error e) :
    e.path? = none := by
  unfold restoreInstance at h
  split at h
  · rcases hd : a.restore x.datum with e' | d <;> rw [hd] at h <;> cases h
    exact ha.2 _ _ hd
  · cases h
    rfl

end Adapter

namespace Chain

variable {c : Chain} {x : Instance} {e : MapError}

theorem adapt_path?_eq_none (hc : ∀ a ∈ c.adapters, a.PathFree) (h : c.adapt x = .error e) :
    e.path? = none := by
  unfold adapt at h
  split at h
  · cases h
    rfl
  · rename_i a as has
    rcases hfirst : a.adaptInstance x with e' | y
    · rw [hfirst] at h
      cases h
      exact Adapter.adaptInstance_path?_eq_none (hc a (by simp [has])) hfirst
    · rw [hfirst] at h
      obtain ⟨b, hb, y', hy⟩ := foldlM_error_step h
      exact Adapter.adaptInstance_path?_eq_none (hc b (by simp [has, hb])) hy

theorem restore_path?_eq_none (hc : ∀ a ∈ c.adapters, a.PathFree) (h : c.restore x = .error e) :
    e.path? = none := by
  obtain ⟨a, ha, y, hy⟩ := foldlM_error_step h
  exact Adapter.restoreInstance_path?_eq_none (hc a (List.mem_reverse.mp ha)) hy

end Chain

/-- A mapper whose chains a registry of path-free adapters resolves is path-free: a resolved chain
is a walk through the registry. -/
theorem Mapper.pathFree_of_resolvedBy {m : Mapper} {S : Schema} {r : Registry}
    (hm : m.ResolvedBy S r) (hr : ∀ a ∈ r.entries, a.PathFree) : m.PathFree := by
  intro p hp a ha
  obtain ⟨u, hwalk, -⟩ := Registry.resolve_eq_ok S r p.info.ops (hm p hp)
  exact hr a (hwalk.mem_entries a ha)

namespace Factory

variable {d : Descriptor} {f : Factory}

/-- Looking up or building the mapper of a record keeps the factory path-free, and the mapper
it gives is path-free. -/
theorem mapperFor_pathFree (hf : f.PathFree) :
    (run (mapperFor d) f).2.PathFree ∧ ∀ m, (run (mapperFor d) f).1 = .ok m → m.PathFree := by
  unfold mapperFor cachedOrBuild
  rw [run_bind_ok (run_get f)]
  split
  · rename_i m hfound
    refine ⟨hf, fun m' hm' => ?_⟩
    cases hm'
    exact hf.2 _ (mem_of_lookup_eq_some hfound)
  · -- a build keeps the registry and the kept mappers, and resolves with the registry
    obtain ⟨hlock, hbuilt⟩ := build_run d.ops (some d) f
    have hkept : (run (build d.ops (some d)) f).2.PathFree := by
      refine ⟨?_, ?_⟩ <;> simp only [hlock.adapters, hlock.cache]
      exacts [hf.1, hf.2]
    rcases hb : run (build d.ops (some d)) f with ⟨e | m, g⟩
    · rw [run_bind_error hb]
      rw [hb] at hkept
      exact ⟨hkept, fun _ h => by cases h⟩
    · rw [run_bind_ok hb, run_bind_ok (run_modify _ g), run_pure]
      have hm : m.PathFree :=
        Mapper.pathFree_of_resolvedBy (hbuilt m (by rw [hb])).2.2.2 hf.1
      rw [hb] at hkept
      refine ⟨⟨hkept.1, fun km hkm => ?_⟩, fun m' hm' => ?_⟩
      · rcases List.mem_append.mp hkm with hkm | hkm
        · exact hkept.2 km hkm
        · rw [List.mem_singleton.mp hkm]
          exact hm
      · cases hm'
        exact hm

/-- Looking up or building the mapper of a record fails only with a configuration error. -/
theorem mapperFor_error {e : MapError} (h : (run (mapperFor d) f).1 = .error e) :
    ∃ c, e = .config c := by
  unfold mapperFor cachedOrBuild at h
  rw [run_bind_ok (run_get f)] at h
  split at h
  · cases h
  · rcases hb : run (build d.ops (some d)) f with ⟨e' | m, g⟩
    · rw [run_bind_error hb] at h
      cases h
      obtain ⟨serial, hrun⟩ := build_some_run d.ops d f
      rw [hb] at hrun
      rcases hfold : (run (d.properties.foldlM (fun done p => do
          let mp ← compileProperty f.strategy d done p
          pure (done ++ [mp])) []) { f with locked := true }).1 with e'' | props
      · rw [hfold] at hrun
        cases hrun
        obtain ⟨c, -, rfl⟩ :=
          ((compileAll_outcome d d.properties [] _ (Locked.self f)).2 _).mp hfold
        exact ⟨c, rfl⟩
      · rw [hfold] at hrun
        cases hrun
    · rw [run_bind_ok hb, run_bind_ok (run_modify _ g), run_pure] at h
      cases h

end Factory

/-! ## Paths through a value -/

/-- Reading `v` as `t` passes through the record properties `segs`, outermost first: a record read
from a map passes through one of the properties present in the map, read with the mapper kept in
`T` for the record's type, and then through what reading that property's value passes through.
Options, boxes, lists, arrays and the values of maps add no property, nor do adapters: a property
with adapters is read as their terminal type. A path may stop at any level. -/
inductive Value.ReadPath (S : Schema) (T : List (Ty × Mapper)) :
    Ty → Value → List (String × String) → Prop
  | nil {t : Ty} {v : Value} : Value.ReadPath S T t v []
  | option {t : Ty} {v : Value} {segs : List (String × String)} :
      v ≠ .null → Value.ReadPath S T t v segs → Value.ReadPath S T (.option t) v segs
  | boxed {t : Ty} {v : Value} {segs : List (String × String)} :
      Value.ReadPath S T t v segs → Value.ReadPath S T (.boxed t) v segs
  | vec {t : Ty} {items : List Value} {x : Value} {segs : List (String × String)} :
      x ∈ items → Value.ReadPath S T t x segs → Value.ReadPath S T (.vec t) (.array items) segs
  | array {t : Ty} {n : Nat} {items : List Value} {x : Value} {segs : List (String × String)} :
      x ∈ items → Value.ReadPath S T t x segs → Value.ReadPath S T (.array t n) (.array items) segs
  | sortedMap {e : Ty} {m : ValueMap} {kx : String × Value} {segs : List (String × String)} :
      kx ∈ m.entries → Value.ReadPath S T e kx.2 segs →
      Value.ReadPath S T (.sortedMap e) (.map m) segs
  | hashMap {e : Ty} {m : ValueMap} {kx : String × Value} {segs : List (String × String)} :
      kx ∈ m.entries → Value.ReadPath S T e kx.2 segs → Value.ReadPath S T (.hashMap e) (.map m) segs
  | fixedMap {e : Ty} {m : ValueMap} {kx : String × Value} {segs : List (String × String)} :
      kx ∈ m.entries → Value.ReadPath S T e kx.2 segs →
      Value.ReadPath S T (.fixedMap e) (.map m) segs
  | property {t : Ty} {vm : ValueMap} {d : Descriptor} {m : Mapper} {p : MappedProperty}
      {x : Value} {segs : List (String × String)} :
      S.nestedRecord? t = some d → T.lookup d.ops.ty = some m → m.descriptor.isSome →
      p ∈ m.properties → Mapper.take vm p = some x → Value.ReadPath S T p.readTy x segs →
      Value.ReadPath S T t (.map vm) ((m.ownerName, p.info.name) :: segs)

/-- Reading the map `vm` with the mapper `m` of a record passes through `segs`: no property, or
one of its properties present in the map and then what reading that property's value passes
through. -/
def Mapper.MapPath (S : Schema) (T : List (Ty × Mapper)) (m : Mapper) (vm : ValueMap)
    (segs : List (String × String)) : Prop :=
  segs = [] ∨ m.descriptor.isSome ∧ ∃ p ∈ m.properties, ∃ x rest, Mapper.take vm p = some x ∧
    Value.ReadPath S T p.readTy x rest ∧ segs = (m.ownerName, p.info.name) :: rest

/-- Reading the value `v` with the mapper `m` passes through `segs`: for a record, what reading
the map passes through; for any other type, what reading the value passes through. -/
def Mapper.ReadPath (S : Schema) (T : List (Ty × Mapper)) (m : Mapper) (v : Value)
    (segs : List (String × String)) : Prop :=
  if m.descriptor.isSome then segs = [] ∨ ∃ vm, v = .map vm ∧ m.MapPath S T vm segs
  else Value.ReadPath S T m.ops.ty v segs

section Paths

variable {S : Schema} {T T' : List (Ty × Mapper)}

theorem Mapper.MapPath.nil {m : Mapper} {vm : ValueMap} : m.MapPath S T vm [] := .inl rfl

/-- A path through the values of a map: sorted, hashed and fixed maps read their values alike. -/
theorem Value.ReadPath.entry {t e : Ty} (ht : t = .sortedMap e ∨ t = .hashMap e ∨ t = .fixedMap e)
    {m : ValueMap} {kx : String × Value} {segs : List (String × String)} (hkx : kx ∈ m.entries)
    (h : Value.ReadPath S T e kx.2 segs) : Value.ReadPath S T t (.map m) segs := by
  rcases ht with rfl | rfl | rfl
  · exact .sortedMap hkx h
  · exact .hashMap hkx h
  · exact .fixedMap hkx h

/-- More mappers kept after those of a path keep the path. -/
theorem Value.ReadPath.mono (hT : T <+: T') {t : Ty} {v : Value} {segs : List (String × String)}
    (h : Value.ReadPath S T t v segs) : Value.ReadPath S T' t v segs := by
  induction h with
  | nil => exact .nil
  | option hv _ ih => exact .option hv ih
  | boxed _ ih => exact .boxed ih
  | vec hx _ ih => exact .vec hx ih
  | array hx _ ih => exact .array hx ih
  | sortedMap hkx _ ih => exact .sortedMap hkx ih
  | hashMap hkx _ ih => exact .hashMap hkx ih
  | fixedMap hkx _ ih => exact .fixedMap hkx ih
  | property hrec hm hd hp hx _ ih =>
    exact .property hrec (Factory.lookup_of_prefix hT hm) hd hp hx ih

theorem Mapper.MapPath.mono (hT : T <+: T') {m : Mapper} {vm : ValueMap}
    {segs : List (String × String)} (h : m.MapPath S T vm segs) : m.MapPath S T' vm segs := by
  rcases h with rfl | ⟨hd, p, hp, x, rest, hx, hpath, rfl⟩
  · exact .inl rfl
  · exact .inr ⟨hd, p, hp, x, rest, hx, hpath.mono hT, rfl⟩

/-- A record read from a map through the mapper kept for it passes through what that mapper's
reading of the map passes through. -/
theorem Value.readPath_of_mapPath {t : Ty} {vm : ValueMap} {d : Descriptor} {m : Mapper}
    {segs : List (String × String)} (hrec : S.nestedRecord? t = some d)
    (hm : T.lookup d.ops.ty = some m) (h : m.MapPath S T vm segs) :
    Value.ReadPath S T t (.map vm) segs := by
  rcases h with rfl | ⟨hd, p, hp, x, rest, hx, hpath, rfl⟩
  · exact .nil
  · exact .property hrec hm hd hp hx hpath

end Paths

/-! ## What an operation raises -/

section Raises

open HoldsFactory

variable {ω : Type} [HoldsFactory ω] (S : Schema) {α β : Type}

/-- Run from a state whose factory has the schema `S` and is path-free, `x` keeps the schema and
the mappers kept before it and leaves the factory path-free, and every error it raises satisfies
`P`, judged with the mappers kept when it stops. -/
def Raises (P : List (Ty × Mapper) → MapError → Prop) (x : ExceptT MapError (StateM ω) α) :
    Prop :=
  ∀ s, (factory s).schema = S → (factory s).PathFree →
    (factory s).Grows (factory (run x s).2) ∧ (factory (run x s).2).PathFree ∧
      ∀ e, (run x s).1 = .error e → P (factory (run x s).2).cache e

namespace Raises

variable {S} {P Q : List (Ty × Mapper) → MapError → Prop}

theorem mono {x : ExceptT MapError (StateM ω) α} (hx : Raises S P x)
    (h : ∀ T e, P T e → Q T e) : Raises S Q x := by
  intro s hS hf
  obtain ⟨hg, hf', he⟩ := hx s hS hf
  exact ⟨hg, hf', fun e he' => h _ e (he e he')⟩

theorem pure (a : α) : Raises S P (Pure.pure a : ExceptT MapError (StateM ω) α) := by
  intro s _ hf
  refine ⟨Factory.Grows.refl _, hf, fun e he => ?_⟩
  rw [run_pure] at he
  cases he

theorem throw {e : MapError} (h : ∀ T, P T e) :
    Raises S P (MonadExcept.throw e : ExceptT MapError (StateM ω) α) := by
  intro s _ hf
  refine ⟨Factory.Grows.refl _, hf, fun e' he => ?_⟩
  rw [run_throw] at he
  cases he
  exact h _

theorem throw_bind {e : MapError} {k : α → ExceptT MapError (StateM ω) β} (h : ∀ T, P T e) :
    Raises S P (MonadExcept.throw e >>= k) := by
  intro s _ hf
  rw [run_bind_error (run_throw e s)]
  exact ⟨Factory.Grows.refl _, hf, fun e' he => by cases he; exact h _⟩

theorem bind {x : ExceptT MapError (StateM ω) α} {k : α → ExceptT MapError (StateM ω) β}
    (hx : Raises S P x) (hk : ∀ a, Raises S P (k a)) : Raises S P (x >>= k) := by
  intro s hS hf
  obtain ⟨hg₁, hf₁, he₁⟩ := hx s hS hf
  rcases h₁ : run x s with ⟨e | a, s₁⟩
  · rw [h₁] at hg₁ hf₁ he₁
    rw [run_bind_error h₁]
    refine ⟨hg₁, hf₁, fun e' he => ?_⟩
    cases he
    exact he₁ e rfl
  · rw [h₁] at hg₁ hf₁
    rw [run_bind_ok h₁]
    obtain ⟨hg₂, hf₂, he₂⟩ := hk a s₁ (hg₁.schema.trans hS) hf₁
    exact ⟨hg₁.trans hg₂, hf₂, he₂⟩

theorem map {x : ExceptT MapError (StateM ω) α} (g : α → β) (hx : Raises S P x) :
    Raises S P (g <$> x) := by
  intro s hS hf
  obtain ⟨hg, hf', he⟩ := hx s hS hf
  rw [run_map]
  rcases h₁ : run x s with ⟨e | a, s₁⟩
  · rw [h₁] at hg hf' he
    refine ⟨hg, hf', fun e' he' => ?_⟩
    cases he'
    exact he e rfl
  · rw [h₁] at hg hf'
    exact ⟨hg, hf', fun e he' => by cases he'⟩

/-- A failure attributed to a property is the failure of the property, with the property in
front. -/
theorem tryCatch_within {x : ExceptT MapError (StateM ω) α} (hx : Raises S P x)
    (owner property : String) :
    Raises S (fun T e => ∃ e', P T e' ∧ e = e'.within owner property)
      (tryCatch x fun e => MonadExcept.throw (e.within owner property)) := by
  intro s hS hf
  obtain ⟨hg, hf', he⟩ := hx s hS hf
  rcases h₁ : run x s with ⟨e | a, s₁⟩
  · rw [h₁] at hg hf' he
    rw [run_tryCatch_error h₁, run_throw]
    refine ⟨hg, hf', fun e' he' => ?_⟩
    cases he'
    exact ⟨e, he e rfl, rfl⟩
  · rw [h₁] at hg hf'
    rw [run_tryCatch_ok h₁]
    exact ⟨hg, hf', fun e he' => by cases he'⟩

theorem mapM {γ : Type} {g : γ → ExceptT MapError (StateM ω) β} :
    ∀ (cs : List γ), (∀ c ∈ cs, Raises S P (g c)) → Raises S P (cs.mapM g)
  | [], _ => pure []
  | c :: cs, h => by
    rw [List.mapM_cons]
    exact bind (h c List.mem_cons_self) fun b =>
      bind (mapM cs fun c' hc' => h c' (List.mem_cons_of_mem c hc')) fun bs => pure (b :: bs)

theorem foldlM {γ : Type} {step : β → γ → ExceptT MapError (StateM ω) β} :
    ∀ (cs : List γ) (init : β), (∀ b, ∀ c ∈ cs, Raises S P (step b c)) →
      Raises S P (cs.foldlM step init)
  | [], init, _ => pure init
  | c :: cs, init, h => by
    rw [List.foldlM_cons]
    exact bind (h init c List.mem_cons_self) fun b =>
      foldlM cs b fun b' c' hc' => h b' c' (List.mem_cons_of_mem c hc')

end Raises

end Raises

/-! ### The factory's operations -/

namespace Raises

open HoldsFactory

variable {S : Schema} {α : Type} {P : List (Ty × Mapper) → MapError → Prop}

theorem lift {r : Except MapError α} (h : ∀ e, r = .error e → ∀ T, P T e) :
    Raises S P (Mapper.lift r) := by
  cases r with
  | error e => exact throw (h e rfl)
  | ok a => exact pure a

theorem schemaM_bind {k : Schema → FactoryM α} (hk : Raises S P (k S)) :
    Raises S P (Factory.schemaM >>= k) := by
  intro f hS hf
  have hschema : run Factory.schemaM f = (.ok f.schema, f) := rfl
  rw [run_bind_ok hschema]
  rw [factory_factory] at hS
  rw [hS]
  exact hk f hS hf

theorem freshIdentity_bind {k : Identity → FactoryM α} (hk : ∀ i, Raises S P (k i)) :
    Raises S P (Factory.freshIdentity >>= k) := by
  intro f hS hf
  have hfresh : run Factory.freshIdentity f =
      (.ok (.created f.instances), { f with instances := f.instances + 1 }) := rfl
  rw [run_bind_ok hfresh]
  have hgrow : f.Grows { f with instances := f.instances + 1 } := ⟨rfl, List.prefix_refl _⟩
  obtain ⟨hg, hf', he⟩ := hk _ { f with instances := f.instances + 1 } hS hf
  exact ⟨hgrow.trans hg, hf', he⟩

/-- Entering a level of nesting fails only at the limit. -/
theorem enter_bind {depth : Nat} {k : Nat → FactoryM α} (hlimit : ∀ T n, P T (.depthExceeded n))
    (hk : Raises S P (k (depth + 1))) : Raises S P (Factory.enter depth >>= k) := by
  intro f hS hf
  rw [run_factoryM, Factory.run_bind, LimitAgrees.run_enter]
  by_cases hover : depth + 1 > f.config.maxDepth
  · rw [if_pos hover]
    exact ⟨Factory.Grows.refl f, hf, fun e he => by cases he; exact hlimit _ _⟩
  · rw [if_neg hover]
    exact hk f hS hf

/-- Looking up or building the mapper of a record fails with a configuration error only, and what
follows is judged with that mapper kept for the record's type. -/
theorem mapperFor_bind {d : Descriptor} {k : Mapper → FactoryM α}
    (hconfig : ∀ T c, P T (.config c))
    (hk : ∀ m, m.PathFree → Raises S (fun T e => T.lookup d.ops.ty = some m → P T e) (k m)) :
    Raises S P (Factory.mapperFor d >>= k) := by
  intro f hS hf
  simp only [factory_factory, run_factoryM] at hS hf ⊢
  obtain ⟨hf₁, hm⟩ := Factory.mapperFor_pathFree (d := d) hf
  rcases h₁ : Factory.run (Factory.mapperFor d) f with ⟨e | m, f₁⟩
  · obtain ⟨hcache, -, hschema⟩ := Factory.mapperFor_failed h₁
    obtain ⟨c, rfl⟩ := Factory.mapperFor_error (by rw [h₁])
    rw [h₁] at hf₁
    rw [Factory.run_bind_error h₁]
    refine ⟨⟨hschema, hcache ▸ List.prefix_refl _⟩, hf₁, fun e he => ?_⟩
    cases he
    exact hconfig _ c
  · obtain ⟨hg₁, hkept, -⟩ := LimitAgrees.mapperFor_run h₁
    rw [h₁] at hf₁
    rw [Factory.run_bind_ok h₁]
    obtain ⟨hg₂, hf₂, he₂⟩ := hk m (hm m (by rw [h₁])) f₁ (hg₁.schema.trans hS) hf₁
    exact ⟨hg₁.trans hg₂, hf₂, fun e he => he₂ e he (hkept _ hg₂.cache)⟩

/-- A run that fails at once, as the reader does when its fuel is spent. -/
theorem get_throw (e : Factory → MapError) (h : ∀ f T, P T (e f)) :
    Raises S P (get >>= fun f => MonadExcept.throw (e f) : FactoryM α) := by
  intro f _ hf
  rw [run_factoryM, Factory.run_bind_ok (Factory.run_get f)]
  exact ⟨Factory.Grows.refl f, hf, fun e' he => by cases he; exact h f _⟩

end Raises

/-! ## The reader's own failures -/

namespace Mapper

variable {w : IntType} {v : Value} {e : MapError}

theorem readInteger_path?_eq_none (h : readInteger w v = .error e) : e.path? = none := by
  unfold readInteger at h
  split at h
  · cases h
    rfl
  · split at h
    · cases h
    · cases h
      rfl

theorem readF32_path?_eq_none (h : readF32 v = .error e) : e.path? = none := by
  unfold readF32 at h
  repeat' split at h
  all_goals first | (cases h; done) | (cases h; rfl)

theorem readChar_path?_eq_none (h : readChar v = .error e) : e.path? = none := by
  unfold readChar at h
  repeat' split at h
  all_goals first | (cases h; done) | (cases h; rfl)

end Mapper

/-- A fresh record fails to be made only for want of a layout or a default. -/
theorem Strategy.allocate_eq_error {S : Schema} {s : Strategy} {d : Descriptor} {place : Identity}
    {e : MapError} (h : s.allocate S d place = .error e) : ∃ reason, e = .allocation d.typeName reason := by
  cases s <;> simp only [Strategy.allocate] at h
  · split at h
    · cases h
    · cases h
      exact ⟨_, rfl⟩
  · split at h
    · cases h
    · cases h
      exact ⟨_, rfl⟩

/-- What stops a default is an allocation failure of the record, or a run that never returns. -/
theorem AllocStop.toError_cases (typeName reason : String) (s : AllocStop) :
    (∃ reason', s.toError typeName reason = .allocation typeName reason') ∨
      s.toError typeName reason = .endless := by
  cases s with
  | none => exact .inl ⟨reason, rfl⟩
  | endless => exact .inr rfl

/-- A record fails to be finished only for a field with no default or whose default never
returns. -/
theorem Uninit.finish_eq_error {S : Schema} {u : Uninit} {e : MapError} (h : u.finish S = .error e) :
    (∃ reason, e = .allocation u.descriptor.typeName reason) ∨ e = .endless := by
  unfold Uninit.finish at h
  -- the properties not written are filled first, then the skipped fields
  rcases bind_eq_error_cases h with hp | ⟨slots, -, h⟩
  · obtain ⟨p, -, b, hstep⟩ := foldlM_error_step hp
    split at hstep
    · cases hstep
    · split at hstep
      · cases hstep
      · cases hstep
        exact .inl ⟨_, rfl⟩
      · cases hstep
        exact AllocStop.toError_cases _ _ _
  · rcases bind_eq_error_cases h with hx | ⟨slots', -, h⟩
    · obtain ⟨f, -, b, hstep⟩ := foldlM_error_step hx
      split at hstep
      · cases hstep
      · cases hstep
        exact .inl ⟨_, rfl⟩
      · cases hstep
        exact AllocStop.toError_cases _ _ _
    · cases h

theorem Strategy.finish_eq_error {S : Schema} {a : Allocation} {e : MapError}
    (h : Strategy.finish S a = .error e) : (∃ name reason, e = .allocation name reason) ∨
      e = .endless := by
  cases a with
  | constructed x => cases h
  | uninit u =>
    rcases Uninit.finish_eq_error h with ⟨reason, rfl⟩ | rfl
    · exact .inl ⟨_, reason, rfl⟩
    · exact .inr rfl

/-! ## The reader -/

namespace Mapper

section Reader

open MapError

variable {S : Schema}

theorem checkRaw_path?_eq_none {loc : Location} {e : MapError} (h : Strategy.checkRaw loc = .error e) :
    e.path? = none := by
  unfold Strategy.checkRaw at h
  split at h
  · cases h
  · cases h
    rfl

theorem store_path?_eq_none {loc : Location} {target : Target} {x : Instance} {e : MapError}
    (h : Strategy.store loc target x = .error e) : e.path? = none := by
  cases target <;> simp only [Strategy.store] at h <;> repeat' split at h
  all_goals first | (cases h; done) | (cases h; rfl)

theorem intoBoxed_raises {P : List (Ty × Mapper) → MapError → Prop}
    {dec : Ty → Value → FactoryM Datum} {ops : TypeOps} {place : Identity} {v : Value}
    (hdec : Raises S P (dec ops.ty v)) (hbare : ∀ T e, e.path? = none → P T e) :
    Raises S P (Strategy.intoBoxed dec ops place (.wire v) : FactoryM Instance) := by
  simp only [Strategy.intoBoxed]
  split
  · exact Raises.bind hdec fun _ => Raises.pure _
  · exact Raises.throw fun T => hbare T _ rfl

/-- A setter reads a value from the wire as the type of the field it writes; its own checks fail
without a property. -/
theorem setter_raises {P : List (Ty × Mapper) → MapError → Prop}
    {dec : Ty → Value → FactoryM Datum} (s : Strategy) (loc : Location) (target : Target)
    {v : Value} (hdec : Raises S P (dec loc.property.ops.ty v))
    (hbare : ∀ T e, e.path? = none → P T e) : Raises S P (s.setter dec loc target (.wire v)) := by
  cases s with
  | raw =>
    simp only [Strategy.setter]
    split
    · rename_i e he
      exact Raises.throw fun T => hbare T e (checkRaw_path?_eq_none he)
    · refine Raises.bind (intoBoxed_raises hdec hbare) fun x => ?_
      split
      · exact Raises.pure _
      · rename_i e he
        exact Raises.throw fun T => hbare T e (store_path?_eq_none he)
  | checked =>
    simp only [Strategy.setter]
    split
    · exact Raises.throw fun T => hbare T _ rfl
    · split
      · exact Raises.throw_bind fun T => hbare T _ rfl
      · refine Raises.bind (intoBoxed_raises hdec hbare) fun x => ?_
        split
        · exact Raises.throw_bind fun T => hbare T _ rfl
        · exact Raises.pure _

/-- A setter given an instance reads nothing, and fails only in its own checks. -/
theorem setter_boxed_raises {P : List (Ty × Mapper) → MapError → Prop}
    {dec : Ty → Value → FactoryM Datum} (s : Strategy) (loc : Location) (target : Target)
    (x : Instance) (hbare : ∀ T e, e.path? = none → P T e) :
    Raises S P (s.setter dec loc target (.boxed x)) := by
  cases s with
  | raw =>
    simp only [Strategy.setter, Strategy.intoBoxed]
    split
    · rename_i e he
      exact Raises.throw fun T => hbare T e (checkRaw_path?_eq_none he)
    · refine Raises.bind (Raises.pure _) fun y => ?_
      split
      · exact Raises.pure _
      · rename_i e he
        exact Raises.throw fun T => hbare T e (store_path?_eq_none he)
  | checked =>
    simp only [Strategy.setter, Strategy.intoBoxed]
    split
    · exact Raises.throw fun T => hbare T _ rfl
    · split
      · exact Raises.throw_bind fun T => hbare T _ rfl
      · refine Raises.bind (Raises.pure _) fun y => ?_
        split
        · exact Raises.throw_bind fun T => hbare T _ rfl
        · exact Raises.pure _

/-- One level of the reader: a failure inside an element of a list or an array, a value of a map,
an option or a box is that element's failure, with no property added; the level's own checks
fail without a property. -/
theorem decodeWith_raises {inner nested : Ty → Value → FactoryM Datum}
    (hinner : ∀ t x, Raises S (fun T => Along (Value.ReadPath S T t x)) (inner t x))
    (hnested : ∀ t x, S.nestedRecord? t = Factory.descriptorOf S t →
      Raises S (fun T => Along (Value.ReadPath S T t x)) (nested t x)) :
    ∀ t v, Raises S (fun T => Along (Value.ReadPath S T t v)) (decodeWith S inner nested t v) := by
  intro t
  induction t with
  | option t ih =>
    intro v
    simp only [decodeWith]
    split
    · exact Raises.pure _
    · rename_i hv
      exact (Raises.map _ (ih v)).mono fun T e h => h.mono fun segs hs => .option hv hs
  | boxed t ih =>
    intro v
    exact (ih v).mono fun T e h => h.mono fun segs hs => .boxed hs
  | vec t =>
    intro v
    simp only [decodeWith]
    split
    · exact Raises.map _ (Raises.mapM _ fun x hx =>
        (hinner t x).mono fun T e h => h.mono fun segs hs => .vec hx hs)
    · exact Raises.throw fun T => .bare rfl .nil
  | array t n =>
    intro v
    simp only [decodeWith]
    split
    · refine Raises.bind (Raises.mapM _ fun x hx =>
        (hinner t x).mono fun T e h => h.mono fun segs hs => .array hx hs) fun ds => ?_
      split
      · exact Raises.pure _
      · exact Raises.throw fun T => .bare rfl .nil
    · exact Raises.throw fun T => .bare rfl .nil
  | sortedMap e | hashMap e | fixedMap e =>
    intro v
    simp only [decodeWith]
    split
    · refine Raises.bind (Raises.mapM _ fun kx hkx => ?_) fun _ => Raises.pure _
      exact (Raises.bind (hinner e kx.2) fun _ => Raises.pure _).mono fun T e' h =>
        h.mono fun segs hs => Value.ReadPath.entry (by simp) hkx hs
    · exact Raises.throw fun T => .bare rfl .nil
  | named p | apply g a =>
    intro v
    simp only [decodeWith]
    split
    · -- a scalar of the schema is read as its integer, which the scalar may refuse
      refine Raises.bind (Raises.lift fun e he T => .bare (readInteger_path?_eq_none he) .nil)
        fun n => ?_
      split
      · exact Raises.throw fun T => .bare rfl .nil
      · exact Raises.pure _
    · rename_i hs
      exact hnested _ v (by simp [Schema.nestedRecord?, hs])
  | _ =>
    -- the remaining types are read from one value, by checks of their own
    intro v
    simp only [decodeWith]
    repeat' split
    all_goals first
      | exact Raises.pure _
      | exact Raises.throw fun T => .bare rfl .nil
      | exact Raises.map _ (Raises.lift fun e he T => .bare (readInteger_path?_eq_none he) .nil)
      | exact Raises.map _ (Raises.lift fun e he T => .bare (readF32_path?_eq_none he) .nil)
      | exact Raises.map _ (Raises.lift fun e he T => .bare (readChar_path?_eq_none he) .nil)
      | exact Raises.bind (Raises.lift fun e he T => .bare (readInteger_path?_eq_none he) .nil)
          fun n => by
            split
            · exact Raises.throw fun T => .bare rfl .nil
            · exact Raises.pure _

/-- Writing a present value to a property: a failure reading the value is its failure, through
the adapters too, with no property added; restoring through path-free adapters and the setter's
own checks fail without a property. -/
theorem setPropertyWith_raises {dec : Ty → Value → FactoryM Datum} (m : Mapper)
    (p : MappedProperty) (target : Target) {v : Value} (hp : ∀ a ∈ p.chain.adapters, a.PathFree)
    (hdec : ∀ t, Raises S (fun T => Along (Value.ReadPath S T t v)) (dec t v)) :
    Raises S (fun T => Along (Value.ReadPath S T p.readTy v)) (setPropertyWith dec m p target v) := by
  unfold setPropertyWith
  split
  · rename_i hempty
    rw [show p.readTy = p.location.property.ops.ty by simp [MappedProperty.readTy, hempty]]
    exact setter_raises _ _ _ (hdec _) fun T e he => .bare he .nil
  · rename_i hadapted
    rw [show p.readTy = p.chain.terminal.ty by simp [MappedProperty.readTy, hadapted]]
    refine Raises.bind (hdec _) fun _ => Raises.bind
      (Raises.lift fun e he T => .bare (Chain.restore_path?_eq_none hp he) .nil) fun _ => ?_
    exact setter_boxed_raises _ _ _ _ fun T e he => .bare he .nil

/-- Reading a fresh record from a map: a failure setting a present property is that property's
failure with the property in front; allocating and finishing fail without a property. -/
theorem readMapWith_raises {set : MappedProperty → Target → Value → FactoryM Target}
    (m : Mapper) (vm : ValueMap)
    (hset : ∀ p ∈ m.properties, ∀ target x, take vm p = some x →
      Raises S (fun T => Along (Value.ReadPath S T p.readTy x)) (set p target x)) :
    Raises S (fun T => Along (m.MapPath S T vm)) (readMapWith set m vm) := by
  unfold readMapWith
  refine Raises.schemaM_bind ?_
  split
  · rename_i d hd
    refine Raises.freshIdentity_bind fun place => ?_
    refine Raises.bind (Raises.lift fun e he T => .bare ?_ .nil) fun allocation => ?_
    · obtain ⟨reason, rfl⟩ := Strategy.allocate_eq_error he
      rfl
    refine Raises.bind (Raises.foldlM _ _ fun target p hp => ?_) fun target =>
      Raises.lift fun e he T => .bare ?_ .nil
    · split
      · exact Raises.pure _
      · rename_i x hx
        refine (Raises.tryCatch_within (hset p hp target x hx) _ _).mono ?_
        rintro T e ⟨e', he', rfl⟩
        refine (he'.within _ _).mono ?_
        rintro segs ⟨rest, rfl, hrest⟩
        exact .inr ⟨by simp [hd], p, hp, x, rest, hx, hrest, by simp [Mapper.ownerName, hd]⟩
    · rcases Strategy.finish_eq_error he with ⟨name, reason, rfl⟩ | rfl <;> rfl
  · exact Raises.throw fun T => .bare rfl .nil

/-- Reading a record nested in a value: a failure reading the map is judged with the mapper kept
for the record; finding the record, entering a level and building its mapper fail without a
property. -/
theorem nestedWith_raises {read : Nat → Mapper → ValueMap → FactoryM Instance} {depth : Nat}
    (hread : ∀ m, m.PathFree → ∀ vm,
      Raises S (fun T => Along (m.MapPath S T vm)) (read (depth + 1) m vm))
    {t : Ty} (hrec : S.nestedRecord? t = Factory.descriptorOf S t) (v : Value) :
    Raises S (fun T => Along (Value.ReadPath S T t v)) (nestedWith read depth t v) := by
  unfold nestedWith
  refine Raises.schemaM_bind ?_
  split
  · rename_i vm
    split
    · exact Raises.throw fun T => .bare rfl .nil
    · rename_i d hd
      refine Raises.enter_bind (fun T n => .bare rfl .nil)
        (Raises.mapperFor_bind (fun T c => .bare rfl .nil) fun mapper hmapper => ?_)
      refine Raises.bind ((hread mapper hmapper vm).mono fun T e h hlookup =>
        h.mono fun segs hs => Value.readPath_of_mapPath (hrec.trans hd) hlookup hs) fun x => ?_
      split
      · exact Raises.pure _
      · exact Raises.throw fun T _ => .bare rfl .nil
  · split
    · exact Raises.pure _
    · exact Raises.throw fun T => .bare rfl .nil
  · exact Raises.throw fun T => .bare rfl .nil

/-- Every part of the reader, with any fuel, fails with a bare error under a path of what it
reads. The induction is on the fuel: each part is its one-level lemma with the parts one unit of
fuel below as the readings it calls. -/
theorem reader_raises : ∀ fuel : Nat,
    (∀ depth t v, Raises S (fun T => Along (Value.ReadPath S T t v)) (decode fuel depth t v)) ∧
    (∀ depth t v, S.nestedRecord? t = Factory.descriptorOf S t →
      Raises S (fun T => Along (Value.ReadPath S T t v)) (deserializeNested fuel depth t v)) ∧
    (∀ depth m vm, m.PathFree →
      Raises S (fun T => Along (m.MapPath S T vm)) (readMap fuel depth m vm)) ∧
    (∀ depth m p target v, (∀ a ∈ p.chain.adapters, a.PathFree) →
      Raises S (fun T => Along (Value.ReadPath S T p.readTy v)) (setProperty fuel depth m p target v))
  | 0 => by
    -- with no fuel left every part fails at once, at the limit
    refine ⟨fun _ _ _ => ?_, fun _ _ _ _ => ?_, fun _ _ _ _ => ?_, fun _ _ _ _ _ _ => ?_⟩ <;>
      simp only [decode, deserializeNested, readMap, setProperty] <;>
      exact Raises.get_throw _ fun _ _ => .bare rfl .nil
  | fuel + 1 => by
    obtain ⟨hdec, hnest, hmap, hset⟩ := reader_raises fuel
    refine ⟨fun depth t v => ?_, fun depth t v hrec => ?_, fun depth m vm hm => ?_,
      fun depth m p target v hp => ?_⟩
    · rw [decode]
      exact Raises.schemaM_bind (decodeWith_raises (hdec depth) (hnest depth) t v)
    · rw [deserializeNested]
      exact nestedWith_raises (fun m hm vm => hmap (depth + 1) m vm hm) hrec v
    · rw [readMap]
      exact readMapWith_raises m vm fun p hp target x _ => hset depth m p target x (hm p hp)
    · rw [setProperty]
      exact setPropertyWith_raises m p target hp fun t => hdec depth t v

/-- Reading a value with a path-free mapper fails with a bare error under a path of the value. -/
theorem readValue_raises {m : Mapper} (hm : m.PathFree) (v : Value) :
    Raises S (fun T => Along (m.ReadPath S T v)) (readValue m v) := by
  unfold readValue
  split
  · rename_i d hd
    split
    · rename_i vm
      refine ((reader_raises _).2.2.1 0 m vm hm).mono fun T e h => h.mono fun segs hs => ?_
      simp only [Mapper.ReadPath, hd, Option.isSome_some, if_true]
      exact .inr ⟨vm, rfl, hs⟩
    · exact Raises.throw fun T => .bare rfl (by simp [Mapper.ReadPath, hd])
  · rename_i hd
    have hpath : ∀ T segs, m.ReadPath S T v segs = Value.ReadPath S T m.ops.ty v segs := by
      simp [Mapper.ReadPath, hd]
    split
    · exact Raises.throw fun T => .bare rfl ((hpath T []).mpr .nil)
    · refine Raises.bind (((reader_raises _).1 0 m.ops.ty v).mono fun T e h =>
        h.mono fun segs hs => (hpath T segs).mpr hs) fun _ => ?_
      exact Raises.freshIdentity_bind fun _ => Raises.pure _

/-! ### Where a record's read fails -/

/-- `e` is the failure of setting, by `set`, one of the properties of `m` present in `vm`, with
the property in front: the owner's descriptor name and the field's declared name. -/
def SetFailure (m : Mapper) (set : MappedProperty → Target → Value → FactoryM Target)
    (vm : ValueMap) (e : MapError) : Prop :=
  ∃ p ∈ m.properties, ∃ v, take vm p = some v ∧ ∃ e', e = e'.within m.ownerName p.info.name ∧
    ∃ target g g', Factory.run (set p target v) g = (.error e', g')

theorem run_lift_error {α : Type} {r : Except MapError α} {f f' : Factory} {e : MapError}
    (h : Factory.run (lift r) f = (.error e, f')) : r = .error e := by
  cases r with
  | error e' => cases h; rfl
  | ok a => cases h

/-- A sequence fails in its first part, or in the rest after the first part succeeded. -/
theorem run_bind_error_cases {α β : Type} {x : FactoryM α} {k : α → FactoryM β} {f : Factory}
    {e : MapError} (h : (Factory.run (x >>= k) f).1 = .error e) :
    (∃ f', Factory.run x f = (.error e, f')) ∨
      ∃ a f₁, Factory.run x f = (.ok a, f₁) ∧ (Factory.run (k a) f₁).1 = .error e := by
  rcases h₁ : Factory.run x f with ⟨e' | a, f₁⟩
  · rw [Factory.run_bind_error h₁] at h
    cases h
    exact .inl ⟨f₁, rfl⟩
  · rw [Factory.run_bind_ok h₁] at h
    exact .inr ⟨a, f₁, rfl, h⟩

/-- A fold fails in one of its steps. -/
theorem run_foldlM_error {γ β : Type} {step : β → γ → FactoryM β} :
    ∀ {cs : List γ} {init : β} {f : Factory} {e : MapError},
      (Factory.run (cs.foldlM step init) f).1 = .error e →
        ∃ c ∈ cs, ∃ b g g', Factory.run (step b c) g = (.error e, g')
  | [], _, _, _, h => by cases h
  | c :: cs, init, f, e, h => by
    rw [List.foldlM_cons] at h
    rcases run_bind_error_cases h with ⟨f', h₁⟩ | ⟨b, f₁, -, h₂⟩
    · exact ⟨c, List.mem_cons_self, init, f, f', h₁⟩
    · obtain ⟨c', hc', b', g, g', h'⟩ := run_foldlM_error h₂
      exact ⟨c', List.mem_cons_of_mem c hc', b', g, g', h'⟩

/-- A record read from a map fails in allocating or finishing the record, or in setting one of
the properties present in the map; then the error is that property's error with the property in
front, named by the record's descriptor and the field's declared name. -/
theorem readMapWith_attributes {set : MappedProperty → Target → Value → FactoryM Target}
    {m : Mapper} {vm : ValueMap} {f : Factory} {e : MapError}
    (h : (Factory.run (readMapWith set m vm) f).1 = .error e) :
    e = .shape (.wrongType m.typeName) ∨ (∃ name reason, e = .allocation name reason) ∨
      e = .endless ∨ m.SetFailure set vm e := by
  unfold readMapWith at h
  rw [Factory.run_bind_ok (rfl : Factory.run Factory.schemaM f = (.ok f.schema, f))] at h
  rcases hd : m.descriptor with _ | d
  · simp only [hd] at h
    cases h
    exact .inl rfl
  simp only [hd] at h
  rw [Factory.run_bind_ok (rfl : Factory.run Factory.freshIdentity f =
    (.ok (.created f.instances), { f with instances := f.instances + 1 }))] at h
  rcases run_bind_error_cases h with ⟨f', halloc⟩ | ⟨allocation, f₁, -, h⟩
  · obtain ⟨reason, rfl⟩ := Strategy.allocate_eq_error (run_lift_error halloc)
    exact .inr (.inl ⟨_, reason, rfl⟩)
  rcases run_bind_error_cases h with ⟨f', hfold⟩ | ⟨target, f₂, -, hfinish⟩
  · -- the failing step sets a property present in the map
    right; right; right
    obtain ⟨p, hp, target, g, g', hstep⟩ := run_foldlM_error (by rw [hfold])
    have howner : m.ownerName = d.ident := by simp [Mapper.ownerName, hd]
    refine ⟨p, hp, ?_⟩
    rw [howner]
    revert hstep
    split
    · intro hstep
      cases hstep
    · rename_i v hv
      intro hstep
      rcases hset : Factory.run (set p target v) g with ⟨e' | t, g₁⟩
      · rw [Factory.run_tryCatch_error hset] at hstep
        cases hstep
        exact ⟨v, hv, e', rfl, target, g, _, hset⟩
      · rw [Factory.run_tryCatch_ok hset] at hstep
        cases hstep
  · rcases hrun : Factory.run (lift (Strategy.finish f.schema (Allocation.ofTarget target))) f₂
      with ⟨e' | x, f₃⟩
    · rw [hrun] at hfinish
      cases hfinish
      rcases Strategy.finish_eq_error (run_lift_error hrun) with hname | rfl
      · exact .inr (.inl hname)
      · exact .inr (.inr (.inl rfl))
    · rw [hrun] at hfinish
      cases hfinish

/-! ### Reading into an instance

Reading into an instance never fails: an error is handed back beside the instance. -/

/-- From a factory with the schema `S`, path-free, whose kept mappers satisfy `pre`, `x` keeps the
schema and the mappers kept before it and leaves the factory path-free, and it succeeds with a
result that satisfies `I`, judged with the mappers kept at the end. -/
def Keeps {β : Type} (S : Schema) (I : List (Ty × Mapper) → β → Prop)
    (pre : List (Ty × Mapper) → Prop) (x : FactoryM β) : Prop :=
  ∀ g : Factory, g.schema = S → g.PathFree → pre g.cache →
    g.Grows (Factory.run x g).2 ∧ (Factory.run x g).2.PathFree ∧
      ∃ b, (Factory.run x g).1 = .ok b ∧ I (Factory.run x g).2.cache b

/-- A fold whose every step keeps `I` of what it carries keeps it to the end. -/
theorem foldlM_keeps {γ β : Type} {step : β → γ → FactoryM β} {I : List (Ty × Mapper) → β → Prop} :
    ∀ {cs : List γ}, (∀ b, ∀ c ∈ cs, Keeps S I (I · b) (step b c)) →
      ∀ init, Keeps S I (I · init) (cs.foldlM step init)
  | [], _, init => fun g _ hf hi => ⟨Factory.Grows.refl g, hf, init, rfl, hi⟩
  | c :: cs, hstep, init => by
    intro g hS hf hi
    rw [List.foldlM_cons]
    obtain ⟨hg₁, hf₁, b, hb, hi₁⟩ := hstep init c List.mem_cons_self g hS hf hi
    rcases h₁ : Factory.run (step init c) g with ⟨e | b', g₁⟩
    · rw [h₁] at hb
      cases hb
    rw [h₁] at hb hg₁ hf₁ hi₁
    cases hb
    rw [Factory.run_bind_ok h₁]
    obtain ⟨hg₂, hrest⟩ := foldlM_keeps (fun b' c' hc' => hstep b' c' (List.mem_cons_of_mem c hc'))
      b g₁ (hg₁.schema.trans hS) hf₁ hi₁
    exact ⟨hg₁.trans hg₂, hrest⟩

/-- Reading a map into an instance: an error handed back is the error of setting a property
present in the map, with the property in front, or the instance's or the mapper's mismatch. -/
theorem readMapIntoWith_keeps {set : MappedProperty → Target → Value → FactoryM Target}
    (m : Mapper) (vm : ValueMap) (x : Instance)
    (hset : ∀ p ∈ m.properties, ∀ target v, take vm p = some v →
      Raises S (fun T => Along (Value.ReadPath S T p.readTy v)) (set p target v)) :
    Keeps S (fun T r => ∀ e, r.2 = some e → Along (m.MapPath S T vm) e ∧
        (e = .shape (.wrongType m.typeName) ∨ m.SetFailure set vm e)) (fun _ => True)
      (readMapIntoWith set m vm x) := by
  intro g hS hf _
  unfold readMapIntoWith
  split
  · rename_i d hd
    have howner : m.ownerName = d.ident := by simp [Mapper.ownerName, hd]
    split
    · exact ⟨Factory.Grows.refl g, hf, _, rfl, fun e he => by
        cases he
        exact ⟨.bare rfl .nil, .inl rfl⟩⟩
    · refine foldlM_keeps (I := fun T (r : Instance × Option MapError) =>
        ∀ e, r.2 = some e → Along (m.MapPath S T vm) e ∧
          (e = .shape (.wrongType m.typeName) ∨ m.SetFailure set vm e)) (fun acc p hp => ?_)
        (x, none) g hS hf (fun e he => by cases he)
      intro g₀ hS₀ hf₀ hacc
      obtain ⟨cur, _ | e₀⟩ := acc
      · dsimp only
        split
        · exact ⟨Factory.Grows.refl g₀, hf₀, _, rfl, hacc⟩
        · rename_i v hv
          obtain ⟨hg₁, hf₁, he₁⟩ := hset p hp (.existing cur) v hv g₀ hS₀ hf₀
          simp only [HoldsFactory.run_factoryM, HoldsFactory.factory_factory] at hg₁ hf₁ he₁
          rcases h₁ : Factory.run (set p (.existing cur) v) g₀ with ⟨e | t, g₁⟩
          · -- the property fails: its error, with the property in front, is kept
            rw [h₁] at hg₁ hf₁ he₁
            rw [Factory.run_tryCatch_error (Factory.run_bind_error h₁ _)]
            refine ⟨hg₁, hf₁, _, rfl, fun e' he' => ?_⟩
            cases he'
            refine ⟨((he₁ e rfl).within _ _).mono ?_, .inr ⟨p, hp, v, hv, e, by rw [howner], _, _, _, h₁⟩⟩
            rintro segs ⟨rest, rfl, hrest⟩
            exact .inr ⟨by simp [hd], p, hp, v, rest, hv, hrest, by rw [howner]⟩
          · -- the property is set: no error is kept
            rw [h₁] at hg₁ hf₁
            cases t with
            | existing y =>
              rw [Factory.run_tryCatch_ok (by rw [Factory.run_bind_ok h₁]; rfl)]
              exact ⟨hg₁, hf₁, _, rfl, fun e he => by cases he⟩
            | uninit u =>
              rw [Factory.run_tryCatch_ok (by rw [Factory.run_bind_ok h₁]; rfl)]
              exact ⟨hg₁, hf₁, _, rfl, fun e he => by cases he⟩
      · exact ⟨Factory.Grows.refl g₀, hf₀, _, rfl, hacc⟩
  · exact ⟨Factory.Grows.refl g, hf, _, rfl, fun e he => by
      cases he
      exact ⟨.bare rfl .nil, .inl rfl⟩⟩

/-- Reading a value into an instance with a path-free mapper: an error handed back is a bare
error under a path of the value. -/
theorem readValueInto_keeps {m : Mapper} (hm : m.PathFree) (v : Value) (x : Instance) :
    Keeps S (fun T r => ∀ e, r.2 = some e → Along (m.ReadPath S T v) e) (fun _ => True)
      (readValueInto m v x) := by
  intro g hS hf _
  unfold readValueInto
  split
  · rename_i d hd
    have hpath : ∀ T vm segs, m.MapPath S T vm segs → m.ReadPath S T (.map vm) segs := by
      intro T vm segs h
      simp only [Mapper.ReadPath, hd, Option.isSome_some, if_true]
      exact .inr ⟨vm, rfl, h⟩
    split
    · rename_i vm
      obtain ⟨hg, hf', r, hr, hI⟩ := readMapIntoWith_keeps m vm x (fun p hp target w _ =>
        (reader_raises _).2.2.2 0 m p target w (hm p hp)) g hS hf trivial
      exact ⟨hg, hf', r, hr, fun e he => (hI e he).1.mono fun segs hs => hpath _ vm segs hs⟩
    · exact ⟨Factory.Grows.refl g, hf, _, rfl, fun e he => by
        cases he
        exact .bare rfl (by simp [Mapper.ReadPath, hd])⟩
  · rename_i hd
    have hpath : ∀ T segs, m.ReadPath S T v segs = Value.ReadPath S T m.ops.ty v segs := by
      simp [Mapper.ReadPath, hd]
    split
    · exact ⟨Factory.Grows.refl g, hf, _, rfl, fun e he => by
        cases he
        exact .bare rfl ((hpath _ []).mpr .nil)⟩
    · -- a failure reading the value is handed back as it is
      obtain ⟨hg, hf', he⟩ := (reader_raises v.fuel).1 0 m.ops.ty v g hS hf
      simp only [HoldsFactory.run_factoryM, HoldsFactory.factory_factory] at hg hf' he
      rcases h₁ : Factory.run (decode v.fuel 0 m.ops.ty v) g with ⟨e | dat, g₁⟩
      · rw [h₁] at hg hf' he
        rw [Factory.run_tryCatch_error (Factory.run_bind_error h₁ _)]
        refine ⟨hg, hf', _, rfl, fun e' he' => ?_⟩
        cases he'
        exact (he e rfl).mono fun segs hs => (hpath _ segs).mpr hs
      · -- the value is read; an instance of another type is handed back as a mismatch
        rw [h₁] at hg hf'
        by_cases hty : (x.ty != m.ops.ty) = true
        · rw [Factory.run_tryCatch_ok
            (by rw [Factory.run_bind_ok h₁]; simp only [hty, ↓reduceIte]; rfl)]
          exact ⟨hg, hf', _, rfl, fun e he => by
            cases he
            exact .bare rfl ((hpath _ []).mpr .nil)⟩
        · rw [Factory.run_tryCatch_ok
            (by rw [Factory.run_bind_ok h₁]; simp only [hty, Bool.false_eq_true, ↓reduceIte]; rfl)]
          exact ⟨hg, hf', _, rfl, fun e he => by cases he⟩

end Reader

end Mapper

end ObjectMapping
