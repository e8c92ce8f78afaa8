import ObjectMapping.Adapter
import Mathlib.Data.List.Nodup
import Mathlib.Data.List.Perm.Subperm

/-!
# Resolving adapter chains

`Registry.resolve` follows a declared type through the registry: it takes the first adapter
that consumes the current type, moves to that adapter's output, and repeats, with the types
reached so far kept to catch a cycle. This module states the walk on its own and shows that
resolution is exactly that walk, never cut short by its fuel.

* `Registry.Walk r t as u`: from `t`, taking at each type the first adapter of `r` that consumes
  it, the adapters `as` are taken in order and `u` is reached.
* `Registry.Settles r t as u`: the walk has ended (its types are all different and no adapter
  consumes `u`) or its last step reached a type it had reached before.
* `Walk.settles`: from every type the walk settles after at most as many adapters as the
  registry holds, since the adapters of a walk whose types are different are different entries.
* `walk_of_ends`, `walk_of_repeats`: the resolution loop, started anywhere along a walk with
  enough fuel left, returns the chain of a walk that ends and the cycle of one that repeats.
* `resolve_follows_walk`: the chain of a declared type is the settled walk from it: the adapters
  along it with the type it ends at as terminal (the declared type itself when it takes no
  adapter), or an `adapterCycle` naming the declared type and the first type reached twice.
  Resolution makes at most one lookup more than the registry has adapters.
-/

namespace ObjectMapping

namespace Registry

/-- `r.Walk t as u`: from `t`, taking at each type the first adapter of `r` that consumes it,
the adapters `as` are taken in order and `u` is reached. -/
def Walk (r : Registry) : Ty → List Adapter → Ty → Prop
  | t, [], u => u = t
  | t, a :: as, u => r.find? t = some a ∧ r.Walk a.output as u

/-- The walk from `t` through `as` has settled at `u`: its types are all different and no
adapter consumes `u`, or its last step reached a type it had reached before. -/
def Settles (r : Registry) (t : Ty) (as : List Adapter) (u : Ty) : Prop :=
  ((t :: as.map (·.output)).Nodup ∧ r.find? u = none) ∨
    ∃ bs a, as = bs ++ [a] ∧ (t :: bs.map (·.output)).Nodup ∧
      a.output ∈ t :: bs.map (·.output)

variable {r : Registry}

@[simp] theorem walk_nil {t u : Ty} : r.Walk t [] u ↔ u = t := Iff.rfl

@[simp] theorem walk_cons {t u : Ty} {a : Adapter} {as : List Adapter} :
    r.Walk t (a :: as) u ↔ r.find? t = some a ∧ r.Walk a.output as u := Iff.rfl

/-- The adapter found for a type consumes it and is one of the registry's. -/
theorem find?_some {t : Ty} {a : Adapter} (h : r.find? t = some a) :
    a.input = t ∧ a ∈ r.entries :=
  ⟨by simpa using List.find?_some h, List.mem_of_find?_eq_some h⟩

namespace Walk

theorem append {t u : Ty} {as bs : List Adapter} :
    r.Walk t (as ++ bs) u ↔ ∃ v, r.Walk t as v ∧ r.Walk v bs u := by
  induction as generalizing t with
  | nil => simp
  | cons a as ih => simp [ih, and_assoc]

/-- A walk goes on by the adapter found for the type it reached. -/
theorem snoc {t v : Ty} {as : List Adapter} {a : Adapter} (hw : r.Walk t as v)
    (ha : r.find? v = some a) : r.Walk t (as ++ [a]) a.output :=
  append.mpr ⟨v, hw, by simpa using ha⟩

/-- The types a walk consumes, followed by the type it reaches, are the types it passes. -/
theorem inputs {t u : Ty} {as : List Adapter} (hw : r.Walk t as u) :
    as.map (·.input) ++ [u] = t :: as.map (·.output) := by
  induction as generalizing t with
  | nil => simpa using hw
  | cons a as ih =>
    obtain ⟨ha, hrest⟩ := walk_cons.mp hw
    rw [List.map_cons, List.cons_append, ih hrest, (find?_some ha).1, List.map_cons]

theorem mem_entries {t u : Ty} {as : List Adapter} (hw : r.Walk t as u) :
    ∀ a ∈ as, a ∈ r.entries := by
  induction as generalizing t with
  | nil => simp
  | cons b as ih =>
    obtain ⟨hb, hrest⟩ := walk_cons.mp hw
    intro a ha
    rcases List.mem_cons.mp ha with rfl | ha
    · exact (find?_some hb).2
    · exact ih hrest a ha

/-- A walk that consumes different types takes different adapters of the registry, so it is no
longer than the registry. -/
theorem length_le {t u : Ty} {as : List Adapter} (hw : r.Walk t as u)
    (hnd : (as.map (·.input)).Nodup) : as.length ≤ r.size :=
  ((List.Nodup.of_map _ hnd).subperm hw.mem_entries).length_le

/-- A walk whose types are all different is no longer than the registry. -/
theorem length_le_of_nodup {t u : Ty} {as : List Adapter} (hw : r.Walk t as u)
    (hnd : (t :: as.map (·.output)).Nodup) : as.length ≤ r.size := by
  rw [← hw.inputs] at hnd
  exact hw.length_le (List.nodup_append.mp hnd).1

/-- A settled walk consumes different types: those it passed before its last step. -/
theorem inputs_nodup_of_settles {t u : Ty} {as : List Adapter} (hw : r.Walk t as u)
    (hs : r.Settles t as u) : (as.map (·.input)).Nodup := by
  rcases hs with ⟨hnd, -⟩ | ⟨bs, a, rfl, hnd, -⟩
  · rw [← hw.inputs] at hnd
    exact (List.nodup_append.mp hnd).1
  · -- the last adapter consumes the type the walk through `bs` reached
    obtain ⟨v, hbs, ha⟩ := append.mp hw
    have hin : a.input = v := (find?_some (walk_cons.mp ha).1).1
    rw [List.map_append, List.map_singleton, hin, hbs.inputs]
    exact hnd

/-- From every type the walk settles, after at most as many adapters as the registry holds. -/
theorem settles (t : Ty) : ∃ as u, r.Walk t as u ∧ as.length ≤ r.size ∧ r.Settles t as u := by
  -- after `k` steps the walk has settled, or it has gone `k` steps through different types
  have grow : ∀ k, (∃ as u, r.Walk t as u ∧ r.Settles t as u) ∨
      ∃ as u, r.Walk t as u ∧ (t :: as.map (·.output)).Nodup ∧ as.length = k := by
    intro k
    induction k with
    | zero => exact .inr ⟨[], t, rfl, by simp, rfl⟩
    | succ k ih =>
      rcases ih with hdone | ⟨as, u, hw, hnd, hlen⟩
      · exact .inl hdone
      · cases hfind : r.find? u with
        | none => exact .inl ⟨as, u, hw, .inl ⟨hnd, hfind⟩⟩
        | some a =>
          by_cases hrep : a.output ∈ t :: as.map (·.output)
          · exact .inl ⟨as ++ [a], a.output, hw.snoc hfind, .inr ⟨as, a, rfl, hnd, hrep⟩⟩
          · refine .inr ⟨as ++ [a], a.output, hw.snoc hfind, ?_, by simp [hlen]⟩
            rw [List.map_append, List.map_singleton, ← List.cons_append]
            exact List.nodup_append.mpr ⟨hnd, List.nodup_singleton _,
              fun x hx y hy => by rw [List.mem_singleton.mp hy]; exact fun h => hrep (h ▸ hx)⟩
  rcases grow (r.size + 1) with ⟨as, u, hw, hs⟩ | ⟨as, u, hw, hnd, hlen⟩
  · exact ⟨as, u, hw, hw.length_le (hw.inputs_nodup_of_settles hs), hs⟩
  · -- `size + 1` steps through different types would take more adapters than there are
    have := hw.length_le_of_nodup hnd
    omega

end Walk

section Loop

variable (S : Schema) (r : Registry) (start : TypeOps)

/-- Along a walk whose types are different from each other and from those reached before, the
loop ends with the walk's adapters once no adapter consumes the type it reached. -/
theorem walk_of_ends {as : List Adapter} {u : Ty} {fuel : Nat} {current : TypeOps}
    {seen : List Ty} {acc : List Adapter} (hw : r.Walk current.ty as u)
    (hnd : (as.map (·.output)).Nodup) (hfresh : ∀ x ∈ as.map (·.output), x ∉ seen)
    (hend : r.find? u = none) (hlen : as.length < fuel) :
    walk S r start fuel current seen acc =
      .ok ⟨acc ++ as, if as.isEmpty then current else S.typeOps u⟩ := by
  induction as generalizing fuel current seen acc with
  | nil =>
    obtain ⟨fuel, rfl⟩ : ∃ k, fuel = k + 1 := ⟨fuel - 1, by simp at hlen; omega⟩
    rw [walk_nil.mp hw] at hend
    simp [walk, hend]
    rfl
  | cons a as ih =>
    obtain ⟨fuel, rfl⟩ : ∃ k, fuel = k + 1 := ⟨fuel - 1, by simp at hlen; omega⟩
    obtain ⟨ha, hrest⟩ := walk_cons.mp hw
    obtain ⟨hnew, hnd'⟩ := List.nodup_cons.mp hnd
    have hunseen : a.output ∉ seen := hfresh a.output (by simp)
    -- the types the rest of the walk reaches are new also after `a.output` is seen
    have hfresh' : ∀ x ∈ as.map (·.output), x ∉ a.output :: seen := by
      intro x hx hmem
      rcases List.mem_cons.mp hmem with rfl | hmem
      · exact hnew hx
      · exact hfresh x (List.mem_cons_of_mem _ hx) hmem
    have hnext : (S.typeOps a.output).ty = a.output := rfl
    have hrest' : r.Walk (S.typeOps a.output).ty as u := hrest
    have hstep : walk S r start (fuel + 1) current seen acc =
        walk S r start fuel (S.typeOps a.output) (a.output :: seen) (acc ++ [a]) := by
      simp only [walk, ha, hnext, List.contains_iff_mem, hunseen, if_false]
    rw [hstep, ih hrest' hnd' hfresh' (by simpa using hlen), List.append_assoc,
      List.singleton_append]
    cases as with
    | nil => rw [walk_nil.mp hrest]; rfl
    | cons b bs => rfl

/-- Along a walk whose types are different from each other and from those reached before, the
loop fails with a cycle when the walk's last step reaches one of them again. -/
theorem walk_of_repeats {as : List Adapter} {a : Adapter} {u : Ty} {fuel : Nat}
    {current : TypeOps} {seen : List Ty} {acc : List Adapter}
    (hw : r.Walk current.ty (as ++ [a]) u) (hnd : (as.map (·.output)).Nodup)
    (hfresh : ∀ x ∈ as.map (·.output), x ∉ seen) (hrep : a.output ∈ seen ++ as.map (·.output))
    (hlen : as.length < fuel) :
    walk S r start fuel current seen acc =
      .error (.adapterCycle start.typeName a.output.typeName) := by
  induction as generalizing fuel current seen acc with
  | nil =>
    obtain ⟨fuel, rfl⟩ : ∃ k, fuel = k + 1 := ⟨fuel - 1, by simp at hlen; omega⟩
    obtain ⟨ha, -⟩ := walk_cons.mp hw
    have hseen : a.output ∈ seen := by simpa using hrep
    have hnext : (S.typeOps a.output).ty = a.output := rfl
    simp only [walk, ha, hnext, List.contains_iff_mem, hseen, if_true]
    rfl
  | cons b as ih =>
    obtain ⟨fuel, rfl⟩ : ∃ k, fuel = k + 1 := ⟨fuel - 1, by simp at hlen; omega⟩
    obtain ⟨hb, hrest⟩ := walk_cons.mp hw
    obtain ⟨hnew, hnd'⟩ := List.nodup_cons.mp hnd
    have hunseen : b.output ∉ seen := hfresh b.output (by simp)
    have hfresh' : ∀ x ∈ as.map (·.output), x ∉ b.output :: seen := by
      intro x hx hmem
      rcases List.mem_cons.mp hmem with rfl | hmem
      · exact hnew hx
      · exact hfresh x (List.mem_cons_of_mem _ hx) hmem
    -- the repeated type is still among those seen once `b.output` joins them
    have hrep' : a.output ∈ (b.output :: seen) ++ as.map (·.output) := by
      simp only [List.map_cons, List.mem_append, List.mem_cons] at hrep ⊢
      tauto
    have hnext : (S.typeOps b.output).ty = b.output := rfl
    have hstep : walk S r start (fuel + 1) current seen acc =
        walk S r start fuel (S.typeOps b.output) (b.output :: seen) (acc ++ [b]) := by
      simp only [walk, hb, hnext, List.contains_iff_mem, hunseen, if_false]
    rw [hstep]
    exact ih hrest hnd' hfresh' hrep' (by simpa using hlen)

end Loop

section Resolve

variable (S : Schema) (r : Registry) (declared : TypeOps)

/-- A walk from the declared type whose types are all different and that ends where no adapter
consumes its type is the resolved chain; its terminal is the type it ends at, or the declared
type itself when it takes no adapter. -/
theorem resolve_of_ends {as : List Adapter} {u : Ty} (hw : r.Walk declared.ty as u)
    (hnd : (declared.ty :: as.map (·.output)).Nodup) (hend : r.find? u = none) :
    r.resolve S declared = .ok ⟨as, if as.isEmpty then declared else S.typeOps u⟩ := by
  obtain ⟨hout, hnd'⟩ := List.nodup_cons.mp hnd
  have hlen := hw.length_le_of_nodup hnd
  -- the resolver's loop starts at the declared type, with only that type seen
  have hloop : walk S r declared (r.size + 1) declared [declared.ty] [] = _ :=
    walk_of_ends S r declared hw hnd' (fun x hx hmem => hout (List.mem_singleton.mp hmem ▸ hx))
      hend (by omega)
  simpa [resolve] using hloop

/-- A walk from the declared type whose last step reaches a type it had reached is a cycle,
named by the declared type and the type reached twice. -/
theorem resolve_of_repeats {as : List Adapter} {a : Adapter} {u : Ty}
    (hw : r.Walk declared.ty (as ++ [a]) u) (hnd : (declared.ty :: as.map (·.output)).Nodup)
    (hrep : a.output ∈ declared.ty :: as.map (·.output)) :
    r.resolve S declared = .error (.adapterCycle declared.typeName a.output.typeName) := by
  obtain ⟨hout, hnd'⟩ := List.nodup_cons.mp hnd
  obtain ⟨v, hbs, -⟩ := Walk.append.mp hw
  have hlen := hbs.length_le_of_nodup hnd
  have hloop : walk S r declared (r.size + 1) declared [declared.ty] [] = _ :=
    walk_of_repeats S r declared hw hnd' (fun x hx hmem => hout (List.mem_singleton.mp hmem ▸ hx))
      (by simpa using hrep) (by omega)
  exact hloop

/-- A resolved chain is the walk from the declared type, ended where no adapter consumes its
type. -/
theorem resolve_eq_ok {c : Chain} (hc : r.resolve S declared = .ok c) :
    ∃ u, r.Walk declared.ty c.adapters u ∧ (declared.ty :: c.adapters.map (·.output)).Nodup ∧
      r.find? u = none ∧ c.terminal = if c.adapters.isEmpty then declared else S.typeOps u := by
  obtain ⟨as, u, hw, -, hs⟩ := Walk.settles (r := r) declared.ty
  rcases hs with ⟨hnd, hend⟩ | ⟨bs, a, rfl, hnd, hrep⟩
  · rw [resolve_of_ends S r declared hw hnd hend, Except.ok.injEq] at hc
    subst hc
    exact ⟨u, hw, hnd, hend, rfl⟩
  · rw [resolve_of_repeats S r declared hw hnd hrep] at hc
    cases hc

end Resolve

/-- Resolution follows the successor walk of the registry from the declared type. A walk whose
types are all different and that ends where no adapter consumes its type is the chain, with
that type as terminal (the declared type when no adapter is taken); a walk whose last step
reaches a type it had reached is an `adapterCycle` naming the declared type and that type. The
walk settles one way or the other within as many adapters as the registry holds, so resolution
makes at most one lookup more than that. -/
theorem resolve_follows_walk (S : Schema) (r : Registry) (declared : TypeOps) :
    (∀ as u, r.Walk declared.ty as u → (declared.ty :: as.map (·.output)).Nodup →
        r.find? u = none →
        r.resolve S declared = .ok ⟨as, if as.isEmpty then declared else S.typeOps u⟩) ∧
      (∀ as a u, r.Walk declared.ty (as ++ [a]) u → (declared.ty :: as.map (·.output)).Nodup →
        a.output ∈ declared.ty :: as.map (·.output) →
        r.resolve S declared = .error (.adapterCycle declared.typeName a.output.typeName)) ∧
      ∃ as u, r.Walk declared.ty as u ∧ as.length ≤ r.size ∧ r.Settles declared.ty as u :=
  ⟨fun _ _ hw hnd hend => resolve_of_ends S r declared hw hnd hend,
    fun _ _ _ hw hnd hrep => resolve_of_repeats S r declared hw hnd hrep,
    Walk.settles declared.ty⟩

end Registry

end ObjectMapping
