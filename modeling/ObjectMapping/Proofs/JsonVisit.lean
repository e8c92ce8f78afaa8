import ObjectMapping.Proofs.JsonRead
import ObjectMapping.Json.Tree

/-!
# Reading with a visitor is folding a tree

The reader hands what it reads to a `Visitor` value by value, children first, and stops at the
first callback that refuses. That is the same as reading the document as a `Tree` first and then
folding the visitor over it (`Tree.fold`): both read the same text, stop at the same place and,
where the visitor accepts everything, agree on the result.

* `ValueFolds`, `ItemsFold`, `MembersFold`: the simulation, one statement for each of the three
  mutually recursive readers, at one fuel. `folds_all` proves all three at every fuel by one
  induction on the fuel, from one step lemma each.
* `readDocument_folds`: a whole document read with a visitor is the fold of its tree.
* `keys_of_foldsMember`, `lookup_of_foldsMember`: the members of an object keep their names and
  order through the fold.
-/

namespace ObjectMapping.Json

namespace Tree

variable {α : Type} (V : Visitor α)

mutual

/-- What a visitor builds from a document: the callbacks applied children first, up to the
first refusal. -/
def fold : Tree → Except String α
  | .null => V.null
  | .bool b => V.bool b
  | .number n => V.number n
  | .string s => V.string s
  | .array items => (foldItems items).map V.array
  | .object members => (foldMembers members).map V.object

def foldItems : List Tree → Except String (List α)
  | [] => .ok []
  | t :: ts => do return (← fold t) :: (← foldItems ts)

def foldMembers : List (String × Tree) → Except String (List (String × α))
  | [] => .ok []
  | (k, t) :: rest => do return (k, ← fold t) :: (← foldMembers rest)

end

/-- A document and what the visitor builds from it. -/
def Folds (t : Tree) (a : α) : Prop := t.fold V = .ok a

/-- A member and what the visitor builds from it, under the same name. -/
def FoldsMember (m : String × Tree) (e : String × α) : Prop := m.1 = e.1 ∧ Folds V m.2 e.2

variable {V}

theorem foldItems_eq_ok_iff {ts : List Tree} {as : List α} :
    foldItems V ts = .ok as ↔ List.Forall₂ (Folds V) ts as := by
  induction ts generalizing as with
  | nil =>
    rw [List.forall₂_nil_left_iff]
    simp [foldItems, eq_comm]
  | cons t ts ih =>
    rw [List.forall₂_cons_left_iff]
    simp only [foldItems, bind_eq_ok, pure_eq_ok, Except.ok.injEq, ih, Folds]
    constructor
    · rintro ⟨a, ha, as', has', rfl⟩
      exact ⟨a, as', ha, has', rfl⟩
    · rintro ⟨a, as', ha, has', rfl⟩
      exact ⟨a, ha, as', has', rfl⟩

theorem foldMembers_eq_ok_iff {ms : List (String × Tree)} {es : List (String × α)} :
    foldMembers V ms = .ok es ↔ List.Forall₂ (FoldsMember V) ms es := by
  induction ms generalizing es with
  | nil =>
    rw [List.forall₂_nil_left_iff]
    simp [foldMembers, eq_comm]
  | cons m ms ih =>
    obtain ⟨k, t⟩ := m
    rw [List.forall₂_cons_left_iff]
    simp only [foldMembers, bind_eq_ok, pure_eq_ok, Except.ok.injEq, ih, FoldsMember, Folds]
    constructor
    · rintro ⟨a, ha, es', hes', rfl⟩
      exact ⟨(k, a), es', ⟨rfl, ha⟩, hes', rfl⟩
    · rintro ⟨⟨k', a⟩, es', ⟨rfl, ha⟩, hes', rfl⟩
      exact ⟨a, ha, es', hes', rfl⟩

/-- Folding keeps the members' names, in order. -/
theorem keys_of_foldsMember {ms : List (String × Tree)} {es : List (String × α)}
    (h : List.Forall₂ (FoldsMember V) ms es) : ms.map Prod.fst = es.map Prod.fst := by
  induction h with
  | nil => rfl
  | cons hm _ ih => simp [hm.1, ih]

/-- Looking a name up among the members and among what they fold to finds a member and its
fold, or nothing in both. -/
theorem lookup_of_foldsMember {ms : List (String × Tree)} {es : List (String × α)}
    (h : List.Forall₂ (FoldsMember V) ms es) (k : String) :
    Option.Rel (Folds V) (ms.lookup k) (es.lookup k) := by
  induction h with
  | nil => exact .none
  | @cons m e _ _ hm _ ih =>
    obtain ⟨j, t⟩ := m
    obtain ⟨j', a⟩ := e
    obtain ⟨hname, hfold⟩ := hm
    simp only at hname hfold
    subst hname
    by_cases hk : k = j
    · subst hk
      simpa using Option.Rel.some hfold
    · simpa [List.lookup_cons, beq_eq_false_iff_ne.mpr hk] using ih

end Tree

open ObjectMapping.Json.Tree

section

variable {α : Type} (V : Visitor α) (fuel : Nat)

/-- Reading a value with `V` succeeds only where reading its document succeeds, and stops at the
same place, with what `V` builds from that document. -/
def ValueFolds : Prop :=
  ∀ depth c a c', readValue V fuel depth c = .ok (a, c') →
    ∃ t, readValue Tree.visitor fuel depth c = .ok (t, c') ∧ Folds V t a

/-- The same for the items of an array, from accumulators that already agree. -/
def ItemsFold : Prop :=
  ∀ depth first (acc : List α) accT c as c', readElements V fuel depth first acc c = .ok (as, c') →
    List.Forall₂ (Folds V) accT acc →
    ∃ ts, readElements Tree.visitor fuel depth first accT c = .ok (ts, c') ∧
      List.Forall₂ (Folds V) ts as

/-- The same for the entries of an object. -/
def MembersFold : Prop :=
  ∀ depth first (acc : List (String × α)) accT c es c',
    readEntries V fuel depth first acc c = .ok (es, c') →
    List.Forall₂ (FoldsMember V) accT acc →
    ∃ ms, readEntries Tree.visitor fuel depth first accT c = .ok (ms, c') ∧
      List.Forall₂ (FoldsMember V) ms es

variable {V fuel}

theorem valueFolds_succ (hitems : ItemsFold V fuel) (hmembers : MembersFold V fuel) :
    ValueFolds V (fuel + 1) := by
  intro depth c a c' h
  rw [readValue] at h ⊢
  split at h
  · cases h
  · -- `null`
    obtain ⟨c₁, hident, hacc⟩ := bind_eq_ok.mp h
    obtain ⟨hnull, rfl⟩ := Visitor.accept_eq_ok.mp hacc
    exact ⟨.null, by rw [hident]; simp [Tree.visitor], hnull⟩
  · obtain ⟨c₁, hident, hacc⟩ := bind_eq_ok.mp h
    obtain ⟨hbool, rfl⟩ := Visitor.accept_eq_ok.mp hacc
    exact ⟨.bool true, by rw [hident]; simp [Tree.visitor], hbool⟩
  · obtain ⟨c₁, hident, hacc⟩ := bind_eq_ok.mp h
    obtain ⟨hbool, rfl⟩ := Visitor.accept_eq_ok.mp hacc
    exact ⟨.bool false, by rw [hident]; simp [Tree.visitor], hbool⟩
  · -- a negative number
    obtain ⟨⟨n, c₁⟩, hnum, hacc⟩ := bind_eq_ok.mp h
    obtain ⟨hnumber, rfl⟩ := Visitor.accept_eq_ok.mp hacc
    exact ⟨.number n, by rw [hnum]; simp [Tree.visitor], hnumber⟩
  · -- a string
    obtain ⟨⟨s, c₁⟩, hstr, hacc⟩ := bind_eq_ok.mp h
    obtain ⟨hstring, rfl⟩ := Visitor.accept_eq_ok.mp hacc
    exact ⟨.string s, by rw [hstr]; simp [Tree.visitor], hstring⟩
  · -- an array: its items agree, so the arrays do
    split at h
    · cases h
    · rename_i hdeep
      obtain ⟨⟨items, c₁⟩, hread, hret⟩ := bind_eq_ok.mp h
      simp only [pure_eq_ok, Except.ok.injEq, Prod.mk.injEq] at hret
      obtain ⟨rfl, rfl⟩ := hret
      obtain ⟨ts, hts, hfold⟩ := hitems _ _ [] [] _ _ _ hread List.Forall₂.nil
      refine ⟨.array ts, by rw [if_neg hdeep, hts]; simp [Tree.visitor], ?_⟩
      simp [Folds, fold, foldItems_eq_ok_iff.mpr hfold, Except.map]
  · split at h
    · cases h
    · rename_i hdeep
      obtain ⟨⟨entries, c₁⟩, hread, hret⟩ := bind_eq_ok.mp h
      simp only [pure_eq_ok, Except.ok.injEq, Prod.mk.injEq] at hret
      obtain ⟨rfl, rfl⟩ := hret
      obtain ⟨ms, hms, hfold⟩ := hmembers _ _ [] [] _ _ _ hread List.Forall₂.nil
      refine ⟨.object ms, by rw [if_neg hdeep, hms]; simp [Tree.visitor], ?_⟩
      simp [Folds, fold, foldMembers_eq_ok_iff.mpr hfold, Except.map]
  · -- a digit: a number
    split at h
    · rename_i hdigit
      obtain ⟨⟨n, c₁⟩, hnum, hacc⟩ := bind_eq_ok.mp h
      obtain ⟨hnumber, rfl⟩ := Visitor.accept_eq_ok.mp hacc
      exact ⟨.number n, by rw [if_pos hdigit, hnum]; simp [Tree.visitor], hnumber⟩
    · cases h

theorem itemsFold_succ (hvalue : ValueFolds V fuel) (hitems : ItemsFold V fuel) :
    ItemsFold V (fuel + 1) := by
  intro depth first acc accT c as c' h hacc
  rw [readElements] at h ⊢
  split at h
  · cases h
  · -- the closing bracket: both accumulators, in order
    simp only [Except.ok.injEq, Prod.mk.injEq] at h
    obtain ⟨rfl, rfl⟩ := h
    exact ⟨accT.reverse, rfl, List.forall₂_reverse_iff.mpr hacc⟩
  · -- an item: past the same separator, read alike, then the rest
    split at h
    · cases h
    · split at h
      · cases h
      · rename_i item c₁ hitem
        obtain ⟨t, ht, hfold⟩ := hvalue _ _ _ _ hitem
        simp only [ht]
        exact hitems _ _ _ _ _ _ _ h (List.Forall₂.cons hfold hacc)

theorem membersFold_succ (hvalue : ValueFolds V fuel) (hmembers : MembersFold V fuel) :
    MembersFold V (fuel + 1) := by
  intro depth first acc accT c es c' h hacc
  rw [readEntries] at h ⊢
  split at h
  · cases h
  · simp only [Except.ok.injEq, Prod.mk.injEq] at h
    obtain ⟨rfl, rfl⟩ := h
    exact ⟨accT.reverse, rfl, List.forall₂_reverse_iff.mpr hacc⟩
  · split at h
    · cases h
    · split at h
      · cases h
      · split at h
        · cases h
        · rename_i item c₂ hitem
          obtain ⟨t, ht, hfold⟩ := hvalue _ _ _ _ hitem
          simp only [ht]
          exact hmembers _ _ _ _ _ _ _ h (List.Forall₂.cons ⟨rfl, hfold⟩ hacc)

/-- At every fuel, reading with a visitor is folding the document read with the same fuel. -/
theorem folds_all : ∀ fuel, ValueFolds V fuel ∧ ItemsFold V fuel ∧ MembersFold V fuel
  | 0 => by
    refine ⟨?_, ?_, ?_⟩
    · intro depth c a c' h
      simp [readValue] at h
    · intro depth first acc accT c as c' h
      simp [readElements] at h
    · intro depth first acc accT c es c' h
      simp [readEntries] at h
  | fuel + 1 => by
    obtain ⟨hvalue, hitems, hmembers⟩ := folds_all fuel
    exact ⟨valueFolds_succ hitems hmembers, itemsFold_succ hvalue hitems,
      membersFold_succ hvalue hmembers⟩

/-- A document is read when its value is followed by nothing but blanks. -/
theorem finish_eq_ok {r : Except ReadError (α × Cursor)} {a : α} :
    finish r = .ok a ↔ ∃ c, r = .ok (a, c) ∧ c.skipWhitespace.peek = none := by
  cases r with
  | error e => simp [finish]
  | ok p =>
    obtain ⟨a', c⟩ := p
    simp only [finish, ok_bind, Except.ok.injEq, Prod.mk.injEq]
    split <;> simp_all

/-- A whole document read with a visitor is what the visitor builds from its tree. -/
theorem readDocument_folds {s : String} {a : α} (h : readDocument V s = .ok a) :
    ∃ t, Tree.ofText s = .ok t ∧ Folds V t a := by
  obtain ⟨c, hread, hend⟩ := finish_eq_ok.mp h
  obtain ⟨t, htree, hfold⟩ := (folds_all (fuelFor s)).1 _ _ _ _ hread
  exact ⟨t, finish_eq_ok.mpr ⟨c, htree, hend⟩, hfold⟩

end

end ObjectMapping.Json