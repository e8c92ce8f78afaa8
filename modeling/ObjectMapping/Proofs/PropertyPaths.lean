import ObjectMapping.Proofs.ErrorPaths
import ObjectMapping.Format.Json
import ObjectMapping.Catalogue.Types

/-!
# Property paths of the errors of every mapping operation

The writer attributes an error to a property as the reader does: the getter's error and the
error of writing the property's value both get the property in front, by `MapError.within`.
A nested object is written by the mapper kept for its record, one level deeper, so its errors
come back with its own properties already in the chain.

* `MapError.Attributed path e`: `e` is bare and its own root, or one `inProperty` error over a
  bare source whose chain `path` allows; its root is that source and its message is `at`, the
  chain written `Owner::field` and joined by ` -> `, then the source's message.
* `Format.PathFree`: a format fails without a chain. The JSON format fails only at a number it
  cannot write (`JsonFormat.fail_mem_pieces`).
* `Mapper.FramePath F S T depth m x segs`: `segs` are the properties that writing the frame of
  `x` with `m` passes through, each written as the mapper's owner name and the field's declared
  name, then those of the object the property's value hands back.
* `Mapper.write_raises`: with a path-free format and mapper, every error of a write is a bare
  error under a path of the instance written. `Mapper.writeObject_attributes`: the property in
  front is the one whose getter or value failed.
* `errors_name_their_properties`: from a path-free factory and mapper, the errors of reading,
  reading into an instance and writing JSON all have the shape `Attributed` describes, along the
  value or the instance, and the property in front of a record's error is the one that failed.
-/

set_option autoImplicit false

namespace ObjectMapping

open HoldsFactory

/-! ## The shape of an attributed error -/

namespace MapError

/-- The shape of an error of a mapping: a bare error, which is its own root, or one
`inProperty` error over a bare source whose chain `path` allows. The root of the second is its
source, and its message is `at`, the chain with each segment written `Owner::field` and joined
by ` -> `, then `: ` and the source's message. -/
def Attributed (path : List (String × String) → Prop) (e : MapError) : Prop :=
  (e.path? = none ∧ e.root = e ∧ path []) ∨
    ∃ (segs : List (String × String)) (source : MapError), segs ≠ [] ∧ path segs ∧
      source.path? = none ∧ e = .inProperty ⟨segs⟩ source ∧ e.root = source ∧
      e.message = "at " ++ " -> ".intercalate
        (segs.map fun s => "`" ++ s.1 ++ "::" ++ s.2 ++ "`") ++ ": " ++ source.message

theorem Along.attributed {path : List (String × String) → Prop} {e : MapError}
    (h : Along path e) : Attributed path e := by
  obtain ⟨base, segs, rfl, hbase, hsegs⟩ := h
  by_cases hs : segs = []
  · subst hs
    exact .inl ⟨hbase, root_under hbase [], hsegs⟩
  · exact .inr ⟨segs, base, hs, hsegs, hbase, under_of_path?_eq_none hbase hs,
      root_under hbase segs, message_under hbase hs⟩

end MapError

/-! ## Formats and getters that fail without a chain -/

/-- `e` is an error the call `c` returns from some output. -/
def FormatCall.Fails {σ : Type} (c : FormatCall σ) (e : MapError) : Prop :=
  ∃ out, (c out).1 = .error e

theorem FormatCall.append_not_fails {σ : Type} (g : σ → σ) (e : MapError) :
    ¬ FormatCall.Fails (FormatCall.append g) e := by
  rintro ⟨_, h⟩
  cases h

/-- `e` is an error of one of the calls a frame makes of its own: opening the object, a
separator, closing the object. -/
def Format.FrameFails {σ : Type} (F : Format σ) (e : MapError) : Prop :=
  FormatCall.Fails F.writeBeginObject e ∨ (∃ first last, FormatCall.Fails (F.writeSeparator first last) e) ∨
    FormatCall.Fails F.writeEndObject e

/-- Every failure of a format carries no property: those it writes for a value, and those of
its calls that write no value. -/
structure Format.PathFree {σ : Type} (F : Format σ) : Prop where
  value : ∀ name kind v depth e, Piece.fail e ∈ F.writeValue name kind v depth → e.path? = none
  calls : ∀ e, FormatCall.Fails F.writeBegin e ∨ F.FrameFails e ∨ FormatCall.Fails F.writeEnd e →
    e.path? = none

theorem Format.PathFree.frame {σ : Type} {F : Format σ} (hF : F.PathFree) {e : MapError}
    (he : F.FrameFails e) : e.path? = none :=
  hF.calls e (.inr (.inl he))

namespace JsonFormat

mutual

/-- The JSON format fails only at a number it cannot write. -/
theorem fail_mem_pieces {e : MapError} : ∀ v : Value, Piece.fail e ∈ pieces v →
    ∃ text, e = .shape (.outOfRange text "JSON")
  | .null | .bool _ | .byte _ | .short _ | .int _ | .long _ | .char _ | .string _ => by
    simp [pieces]
  | .float x | .double x => by
    simp only [pieces]
    split
    · simp
    · simp only [List.mem_singleton, Piece.fail.injEq]
      rintro rfl
      exact ⟨_, rfl⟩
  | .array items => by
    simp only [pieces, List.cons_append, List.mem_cons, List.mem_append, List.not_mem_nil,
      reduceCtorEq, false_or, or_false]
    exact fail_mem_itemPieces true items
  | .map (.ofEntries es) => by
    simp only [pieces, List.cons_append, List.mem_cons, List.mem_append, List.not_mem_nil,
      reduceCtorEq, false_or, or_false]
    exact fail_mem_entryPieces true es
  | .object r => by simp [pieces]

theorem fail_mem_itemPieces {e : MapError} : ∀ (first : Bool) (items : List Value),
    Piece.fail e ∈ itemPieces first items → ∃ text, e = .shape (.outOfRange text "JSON")
  | _, [] => by simp [itemPieces]
  | first, v :: vs => by
    rw [itemPieces, List.mem_append, List.mem_append]
    rintro ((hsep | hv) | hrest)
    · cases first <;> simp at hsep
    · exact fail_mem_pieces v hv
    · exact fail_mem_itemPieces false vs hrest

theorem fail_mem_entryPieces {e : MapError} : ∀ (first : Bool) (es : List (String × Value)),
    Piece.fail e ∈ entryPieces first es → ∃ text, e = .shape (.outOfRange text "JSON")
  | _, [] => by simp [entryPieces]
  | first, (k, v) :: rest => by
    rw [entryPieces, List.mem_append, List.mem_append, List.mem_append]
    rintro (((hsep | hkey) | hv) | hrest)
    · cases first <;> simp at hsep
    · simp at hkey
    · exact fail_mem_pieces v hv
    · exact fail_mem_entryPieces false rest hrest

end

/-- The JSON format fails only at a number, without a chain; its other calls never fail. -/
theorem format_pathFree : format.PathFree where
  value name kind v depth e he := by
    have hv : Piece.fail e ∈ pieces v := by
      cases name <;> simpa [format] using he
    obtain ⟨text, rfl⟩ := fail_mem_pieces v hv
    rfl
  calls e he := by
    unfold Format.FrameFails at he
    rcases he with h | (h | ⟨_, _, h⟩ | h) | h <;> exact absurd h (FormatCall.append_not_fails _ e)

end JsonFormat

namespace Strategy

variable {s : Strategy} {loc : Location} {owner : Instance} {e : MapError}

theorem checkOwner_path?_eq_none (h : s.checkOwner loc owner = .error e) : e.path? = none := by
  cases s with
  | raw =>
    rcases bind_eq_error_cases h with h | ⟨_, -, h⟩
    · exact Mapper.checkRaw_path?_eq_none h
    · split at h <;> cases h
      rfl
  | checked =>
    simp only [checkOwner] at h
    split at h <;> cases h
    rfl

theorem reference_path?_eq_none (h : s.reference loc owner = .error e) : e.path? = none := by
  unfold reference at h
  rcases bind_eq_error_cases h with h | ⟨_, -, h⟩
  · exact checkOwner_path?_eq_none h
  · cases h

theorem getter_path?_eq_none {S : Schema} (h : s.getter S loc owner = .error e) :
    e.path? = none := by
  unfold getter at h
  rcases bind_eq_error_cases h with h | ⟨_, -, h⟩
  · exact reference_path?_eq_none h
  · split at h <;> cases h
    rfl

end Strategy

/-- A property's value is read without a chain: by the getter, or referred to and adapted
through path-free adapters. -/
theorem Mapper.readProperty_path?_eq_none {S : Schema} {m : Mapper} {p : MappedProperty}
    {x : Instance} {e : MapError} (hp : ∀ a ∈ p.chain.adapters, a.PathFree)
    (h : m.readProperty S p x = .error e) : e.path? = none := by
  unfold readProperty at h
  split at h
  · exact Strategy.getter_path?_eq_none h
  · rcases bind_eq_error_cases h with h | ⟨_, -, h⟩
    · exact Strategy.reference_path?_eq_none h
    · rcases bind_eq_error_cases h with h | ⟨_, -, h⟩
      · exact Chain.adapt_path?_eq_none hp h
      · cases h

/-! ## What a write raises -/

namespace HoldsFactory

variable {σ α β : Type}

theorem run_emit (g : σ → σ) (s : Factory × σ) :
    run (WriteM.emit g) s = (.ok (), (s.1, g s.2)) :=
  rfl

theorem run_call (c : FormatCall σ) (s : Factory × σ) :
    run (WriteM.call c) s = ((c s.2).1, (s.1, (c s.2).2)) :=
  WriteM.run_call c s.1 s.2

theorem run_get_write (s : Factory × σ) : run (get : WriteM σ (Factory × σ)) s = (.ok s, s) :=
  rfl

variable {ω : Type}

/-- A sequence fails in its first part, or in the rest after the first part succeeded. -/
theorem run_bind_error_cases {x : ExceptT MapError (StateM ω) α}
    {k : α → ExceptT MapError (StateM ω) β} {s : ω} {e : MapError}
    (h : (run (x >>= k) s).1 = .error e) :
    (∃ s', run x s = (.error e, s')) ∨ ∃ a s₁, run x s = (.ok a, s₁) ∧ (run (k a) s₁).1 = .error e := by
  rcases h₁ : run x s with ⟨e' | a, s₁⟩
  · rw [run_bind_error h₁] at h
    cases h
    exact .inl ⟨s₁, rfl⟩
  · rw [run_bind_ok h₁] at h
    exact .inr ⟨a, s₁, rfl, h⟩

/-- An error attributed to a property is the error of what it guards, with the property in
front. -/
theorem run_tryCatch_within_error {x : ExceptT MapError (StateM ω) α} {s s' : ω} {e : MapError}
    {owner property : String}
    (h : run (tryCatch x fun e => MonadExcept.throw (e.within owner property)) s = (.error e, s')) :
    ∃ e', (run x s).1 = .error e' ∧ e = e'.within owner property := by
  rcases h₁ : run x s with ⟨e' | a, s₁⟩
  · rw [run_tryCatch_error h₁, run_throw] at h
    cases h
    exact ⟨e', rfl, rfl⟩
  · rw [run_tryCatch_ok h₁] at h
    cases h

end HoldsFactory

namespace Raises

variable {S : Schema} {σ α : Type} {P : List (Ty × Mapper) → MapError → Prop}

theorem emit (g : σ → σ) : Raises S P (WriteM.emit g) := by
  intro s _ hf
  rw [run_emit]
  exact ⟨Factory.Grows.refl _, hf, fun e he => by cases he⟩

/-- A call of the format fails with one of its own errors. -/
theorem call {c : FormatCall σ} (hc : ∀ T e, FormatCall.Fails c e → P T e) :
    Raises S P (WriteM.call c) := by
  intro s _ hf
  rw [run_call]
  exact ⟨Factory.Grows.refl _, hf, fun e he => hc _ e ⟨s.2, he⟩⟩

theorem get_bind {k : Factory × σ → WriteM σ α}
    (hk : ∀ s : Factory × σ, s.1.schema = S → Raises S P (k s)) : Raises S P (get >>= k) := by
  intro s hS hf
  rw [run_bind_ok (run_get_write s)]
  exact hk s hS s hS hf

/-- Looking up or building the mapper of a record inside a write, as `mapperFor_bind`. -/
theorem factory_mapperFor_bind {d : Descriptor} {k : Mapper → WriteM σ α}
    (hconfig : ∀ T c, P T (.config c))
    (hk : ∀ m, m.PathFree → Raises S (fun T e => T.lookup d.ops.ty = some m → P T e) (k m)) :
    Raises S P (WriteM.factory (Factory.mapperFor d) >>= k) := by
  rintro ⟨f, out⟩ hS hf
  simp only [factory_write] at hS hf
  obtain ⟨hf₁, hm⟩ := Factory.mapperFor_pathFree (d := d) hf
  rcases h₁ : Factory.run (Factory.mapperFor d) f with ⟨e | m, f₁⟩
  · obtain ⟨hcache, -, hschema⟩ := Factory.mapperFor_failed h₁
    obtain ⟨c, rfl⟩ := Factory.mapperFor_error (by rw [h₁])
    rw [h₁] at hf₁
    have hrun : run (WriteM.factory (Factory.mapperFor d) >>= k) (f, out) =
        (.error (.config c), (f₁, out)) :=
      WriteM.run_bind_error (by rw [WriteM.run_factory, h₁]) k
    rw [hrun]
    exact ⟨⟨hschema, hcache ▸ List.prefix_refl _⟩, hf₁, fun e he => by cases he; exact hconfig _ c⟩
  · obtain ⟨hg₁, hkept, -⟩ := LimitAgrees.mapperFor_run h₁
    rw [h₁] at hf₁
    have hrun : run (WriteM.factory (Factory.mapperFor d) >>= k) (f, out) = run (k m) (f₁, out) :=
      WriteM.run_bind_ok (by rw [WriteM.run_factory, h₁]) k
    rw [hrun]
    obtain ⟨hg₂, hf₂, he₂⟩ := hk m (hm m (by rw [h₁])) (f₁, out) (hg₁.schema.trans hS) hf₁
    exact ⟨hg₁.trans hg₂, hf₂, fun e he => he₂ e he (hkept _ hg₂.cache)⟩

end Raises

/-! ## Paths through a write -/

/-- The properties that writing the frame of `x` with `m`, at depth `depth`, passes through: one
of the mapper's properties, then those of an object its value hands back, written one level
deeper by the mapper kept in `T` for the object's record. -/
inductive Mapper.FramePath {σ : Type} (F : Format σ) (S : Schema) (T : List (Ty × Mapper)) :
    Nat → Mapper → Instance → List (String × String) → Prop
  | nil {depth : Nat} {m : Mapper} {x : Instance} : Mapper.FramePath F S T depth m x []
  | property {depth : Nat} {m : Mapper} {x : Instance} {p : MappedProperty} :
      p ∈ m.properties → Mapper.FramePath F S T depth m x [(m.ownerName, p.info.name)]
  | nested {depth : Nat} {m m' : Mapper} {x : Instance} {p : MappedProperty} {raw : Value}
      {r : ObjectRef} {d : Descriptor} {segs : List (String × String)} :
      p ∈ m.properties → m.readProperty S p x = .ok raw →
      Piece.nested r ∈ F.writeValue (some p.name) (if raw.isNull then .null else p.kind) raw depth →
      S.descriptor? r.ty = some d → T.lookup d.ops.ty = some m' →
      Mapper.FramePath F S T (depth + 1) m' r.instance segs →
      Mapper.FramePath F S T depth m x ((m.ownerName, p.info.name) :: segs)

/-- The properties that writing an object handed back at depth `depth` passes through: those of
its frame, one level deeper, with the mapper kept for its record. -/
def ObjectRef.NestedPath {σ : Type} (F : Format σ) (S : Schema) (T : List (Ty × Mapper))
    (depth : Nat) (r : ObjectRef) (segs : List (String × String)) : Prop :=
  segs = [] ∨ ∃ d m, S.descriptor? r.ty = some d ∧ T.lookup d.ops.ty = some m ∧
    m.FramePath F S T (depth + 1) r.instance segs

/-- The properties that writing `x` with `m` passes through: those of its frame for a record,
and otherwise those of the objects its value hands back. -/
def Mapper.WritePath {σ : Type} (F : Format σ) (S : Schema) (T : List (Ty × Mapper)) (m : Mapper)
    (x : Instance) (segs : List (String × String)) : Prop :=
  if m.descriptor.isSome then m.FramePath F S T 0 x segs
  else segs = [] ∨ ∃ ops, m.ops.value = some ops ∧
    let v := S.valueOf false x.ty x.datum x.identity
    ∃ r, Piece.nested r ∈ F.writeValue none (if v.isNull then .null else ops.kind) v 0 ∧
      r.NestedPath F S T 0 segs

/-- A write may fail outside every property. -/
theorem Mapper.writePath_nil {σ : Type} (F : Format σ) (S : Schema) (T : List (Ty × Mapper))
    (m : Mapper) (x : Instance) : m.WritePath F S T x [] := by
  unfold Mapper.WritePath
  split
  · exact .nil
  · exact .inl rfl

namespace Mapper

section Writer

open MapError

variable {σ : Type} (F : Format σ) (S : Schema)

/-- Writing an object handed back at depth `depth`, under the limit `L`, fails with a bare error
under a path of the object. -/
def NestedRaises (L depth : Nat) : Prop :=
  ∀ r, Raises S (fun T => Along (r.NestedPath F S T depth)) (serializeNested F L depth r)

/-- Writing the frame of an instance with a path-free mapper at depth `depth`, under the limit
`L`, fails with a bare error under a path of the frame. -/
def ObjectRaises (L depth : Nat) : Prop :=
  ∀ m x, m.PathFree →
    Raises S (fun T => Along (m.FramePath F S T depth x)) (writeObject F L depth m x)

/-- Writing the property `p` of `x` with `m`, at depth `depth` under the limit `L`, fails with
`e`: its getter fails, or writing the pieces of its value does. -/
def WriteFailure (L depth : Nat) (m : Mapper) (x : Instance) (p : MappedProperty) (e : MapError) :
    Prop :=
  m.readProperty S p x = .error e ∨ ∃ raw, m.readProperty S p x = .ok raw ∧
    ∃ s : Factory × σ, (run (writePieces F L depth
      (F.writeValue (some p.name) (if raw.isNull then .null else p.kind) raw depth)) s).1 = .error e

variable {F S} {L depth : Nat}

/-- The pieces of a value fail with the format's own failure or in an object they hand back. -/
theorem writePieces_raises (hn : NestedRaises F S L depth) {qs : List (Piece σ)}
    (hfail : ∀ e, Piece.fail e ∈ qs → e.path? = none) : ∀ ps : List (Piece σ), ps ⊆ qs →
    Raises S (fun T => Along fun segs =>
        segs = [] ∨ ∃ r, Piece.nested r ∈ qs ∧ r.NestedPath F S T depth segs)
      (writePieces F L depth ps)
  | [], _ => by
    rw [writePieces]
    exact Raises.pure ()
  | .emit g :: ps, h => by
    rw [writePieces]
    exact Raises.bind (Raises.emit g) fun _ =>
      writePieces_raises hn hfail ps (List.cons_subset.mp h).2
  | .fail e :: _, h => by
    rw [writePieces]
    exact Raises.throw fun _ => .bare (hfail e (List.cons_subset.mp h).1) (.inl rfl)
  | .nested r :: ps, h => by
    obtain ⟨hr, hps⟩ := List.cons_subset.mp h
    rw [writePieces]
    exact Raises.bind ((hn r).mono fun T e he => he.mono fun segs hs => .inr ⟨r, hr, hs⟩)
      fun _ => writePieces_raises hn hfail ps hps

theorem writeProperties_raises (hF : F.PathFree) (hn : NestedRaises F S L depth) {m : Mapper}
    (hm : m.PathFree) (x : Instance) (last : Nat) :
    ∀ (i : Nat) (ps : List MappedProperty), ps ⊆ m.properties →
    Raises S (fun T => Along (m.FramePath F S T depth x))
      (writeProperties F L depth m x S last i ps)
  | i, [], _ => by
    rw [writeProperties]
    exact Raises.pure ()
  | i, p :: ps, h => by
    obtain ⟨hp, hps⟩ := List.cons_subset.mp h
    rw [writeProperties]
    split
    · rename_i raw hraw
      simp only [pure_bind]
      -- the value's pieces, attributed to the property, then its separator and the rest
      refine Raises.bind ((Raises.tryCatch_within (writePieces_raises hn (hF.value _ _ _ _) _
        (List.Subset.refl _)) _ _).mono ?_) fun _ =>
          Raises.bind (Raises.call fun _ e he => .bare (hF.frame (.inr (.inl ⟨_, _, he⟩))) .nil) fun _ =>
          writeProperties_raises hF hn hm x last (i + 1) ps hps
      rintro T _ ⟨e', he', rfl⟩
      refine (he'.within _ _).mono ?_
      rintro _ ⟨rest, rfl, rfl | ⟨r, hr, rfl | ⟨d, m', hd, hm', hframe⟩⟩⟩
      · exact .property hp
      · exact .property hp
      · exact .nested hp hraw hr hd hm' hframe
    · rename_i e he
      exact Raises.throw_bind fun _ =>
        ⟨e, [(m.ownerName, p.info.name)], rfl, readProperty_path?_eq_none (hm p hp) he, .property hp⟩

theorem objectRaises_of_nestedRaises (hF : F.PathFree) (hn : NestedRaises F S L depth) :
    ObjectRaises F S L depth := by
  intro m x hm
  rw [writeObject]
  split
  · exact Raises.throw_bind fun _ => .bare rfl .nil
  · refine Raises.get_bind fun s hS => ?_
    dsimp only
    rw [hS]
    exact Raises.bind (Raises.call fun _ e he => .bare (hF.frame (.inl he)) .nil) fun _ =>
      Raises.bind (writeProperties_raises hF hn hm x _ 0 _ (List.Subset.refl _)) fun _ =>
        Raises.call fun _ e he => .bare (hF.frame (.inr (.inr he))) .nil

theorem nestedRaises_of_objectRaises (ho : ¬ L < depth + 1 → ObjectRaises F S L (depth + 1)) :
    NestedRaises F S L depth := by
  intro r
  rw [serializeNested]
  by_cases hL : L < depth + 1
  · rw [dif_pos hL]
    exact Raises.throw fun _ => .bare rfl (.inl rfl)
  · rw [dif_neg hL]
    refine Raises.get_bind fun s hS => ?_
    dsimp only
    rw [hS]
    split
    · exact Raises.throw fun _ => .bare rfl (.inl rfl)
    · rename_i d hd
      refine Raises.factory_mapperFor_bind (fun _ _ => .bare rfl (.inl rfl)) fun m hm => ?_
      exact (ho hL m r.instance hm).mono fun T e he hlookup =>
        he.mono fun segs hs => .inr ⟨d, m, hd, hlookup, hs⟩

variable (F S) in
/-- Every frame fails along its own path, at every depth. The recursion goes one level deeper at
each object handed back and stops at the limit. -/
theorem objectRaises (hF : F.PathFree) (L depth : Nat) : ObjectRaises F S L depth :=
  objectRaises_of_nestedRaises hF <|
    nestedRaises_of_objectRaises fun _ => objectRaises hF L (depth + 1)
termination_by L - depth

/-- Writing with a path-free format and mapper fails with a bare error under a path of the
instance written. -/
theorem write_raises (hF : F.PathFree) {m : Mapper} (hm : m.PathFree) (x : Instance) :
    Raises S (fun T => Along (m.WritePath F S T x)) (write F m x) := by
  unfold write
  have hend : Raises S (fun T => Along (m.WritePath F S T x)) (WriteM.call F.writeEnd) :=
    Raises.call fun _ e he => .bare (hF.calls e (.inr (.inr he))) (writePath_nil F S _ m x)
  refine Raises.get_bind fun s _ =>
    Raises.bind (Raises.call fun _ e he => .bare (hF.calls e (.inl he)) (writePath_nil F S _ m x))
      fun _ => ?_
  dsimp only
  split
  · rename_i d hd
    refine Raises.bind ((objectRaises F S hF _ 0 m x hm).mono fun T e he => he.mono fun segs hs => ?_)
      fun _ => hend
    simp only [Mapper.WritePath, hd, Option.isSome_some, if_true]
    exact hs
  · rename_i hd
    have hpath : ∀ T segs, m.WritePath F S T x segs ↔ segs = [] ∨ ∃ ops, m.ops.value = some ops ∧
        ∃ r, Piece.nested r ∈ F.writeValue none
          (if (S.valueOf false x.ty x.datum x.identity).isNull then .null else ops.kind)
          (S.valueOf false x.ty x.datum x.identity) 0 ∧ r.NestedPath F S T 0 segs := by
      simp [Mapper.WritePath, hd]
    split
    · exact Raises.throw_bind fun T => .bare rfl ((hpath T []).mpr (.inl rfl))
    · rename_i ops hops
      refine Raises.get_bind fun s' hS => ?_
      rw [hS]
      split
      · exact Raises.throw_bind fun T => .bare rfl ((hpath T []).mpr (.inl rfl))
      · refine Raises.bind ((writePieces_raises
          (nestedRaises_of_objectRaises fun _ => objectRaises F S hF _ 1) (hF.value _ _ _ _) _
          (List.Subset.refl _)).mono fun T e he => he.mono fun segs hs => ?_) fun _ => hend
        rcases hs with rfl | ⟨r, hr, hpr⟩
        · exact (hpath T []).mpr (.inl rfl)
        · exact (hpath T segs).mpr (.inr ⟨ops, hops, r, hr, hpr⟩)

/-! ### Where a frame's write fails -/

theorem writeProperties_attributes {m : Mapper} {x : Instance} {last : Nat} :
    ∀ {i : Nat} {ps : List MappedProperty} {s : Factory × σ} {e : MapError},
      (run (writeProperties F L depth m x S last i ps) s).1 = .error e →
      (∃ p ∈ ps, ∃ e', e = e'.within m.ownerName p.info.name ∧ WriteFailure F S L depth m x p e') ∨
        ∃ first last, FormatCall.Fails (F.writeSeparator first last) e
  | i, [], s, e, h => by
    rw [writeProperties, run_pure] at h
    cases h
  | i, p :: ps, s, e, h => by
    rw [writeProperties] at h
    split at h
    · rename_i raw hraw
      simp only [pure_bind] at h
      rcases HoldsFactory.run_bind_error_cases h with ⟨s', hvalue⟩ | ⟨_, s₁, -, h⟩
      · obtain ⟨e', hpieces, rfl⟩ := run_tryCatch_within_error hvalue
        exact .inl ⟨p, List.mem_cons_self, e', rfl, .inr ⟨raw, hraw, s, hpieces⟩⟩
      · rcases HoldsFactory.run_bind_error_cases h with ⟨s', hsep⟩ | ⟨_, s₂, -, h⟩
        · rw [run_call] at hsep
          exact .inr ⟨_, _, s₁.2, congrArg Prod.fst hsep⟩
        · rcases writeProperties_attributes h with ⟨q, hq, e', he, hfail⟩ | hsep
          · exact .inl ⟨q, List.mem_cons_of_mem _ hq, e', he, hfail⟩
          · exact .inr hsep
    · rename_i e' he'
      rw [run_bind_error (run_throw _ s)] at h
      cases h
      exact .inl ⟨p, List.mem_cons_self, e', rfl, .inl he'⟩

variable (F) in
/-- A frame fails for an instance of another type, at one of the calls it makes of its own, or
in one of its properties: then the error is that property's failure with the property in front,
named by the mapper's owner name and the field's declared name. -/
theorem writeObject_attributes {m : Mapper} {x : Instance} {s : Factory × σ} {e : MapError}
    (h : (run (writeObject F L depth m x) s).1 = .error e) :
    e = .shape (.wrongType m.typeName) ∨ F.FrameFails e ∨
      ∃ p ∈ m.properties, ∃ e', e = e'.within m.ownerName p.info.name ∧
        WriteFailure F s.1.schema L depth m x p e' := by
  rw [writeObject] at h
  split at h
  · rw [run_bind_error (run_throw _ s)] at h
    cases h
    exact .inl rfl
  · right
    rw [run_bind_ok (run_get_write s)] at h
    rcases HoldsFactory.run_bind_error_cases h with ⟨s', hopen⟩ | ⟨_, s₁, hopen, h⟩
    · rw [run_call] at hopen
      exact .inl (.inl ⟨s.2, congrArg Prod.fst hopen⟩)
    · rcases HoldsFactory.run_bind_error_cases h with ⟨s', hprops⟩ | ⟨_, s₂, -, h⟩
      · rcases writeProperties_attributes (congrArg Prod.fst hprops) with hprop | ⟨first, last, hsep⟩
        · exact .inr hprop
        · exact .inl (.inr (.inl ⟨first, last, hsep⟩))
      · rw [run_call] at h
        exact .inl (.inr (.inr ⟨s₂.2, h⟩))

end Writer

end Mapper

/-! ## Every operation -/

/-- What the operations of the mapper `m`, run from the factory `f`, promise about the properties
their errors name, with the format `F` for writes. Reads, reads into an instance and writes fail
with an error of the shape `Attributed` gives, along the value read or the instance written.
The property in front of a record's error is the one whose setter, getter or value failed. -/
structure Mapper.NamesProperties {σ : Type} (F : Format σ) (f : Factory) (m : Mapper) : Prop where
  read : ∀ v e, (Factory.run (m.readValue v) f).1 = .error e →
    e.Attributed (m.ReadPath f.schema (Factory.run (m.readValue v) f).2.cache v)
  readInto : ∀ v x y e, (Factory.run (m.readValueInto v x) f).1 = .ok (y, some e) →
    e.Attributed (m.ReadPath f.schema (Factory.run (m.readValueInto v x) f).2.cache v)
  write : ∀ x out e, (WriteM.run (m.write F x) f out).1 = .error e →
    e.Attributed (m.WritePath F f.schema (WriteM.run (m.write F x) f out).2.1.cache x)
  readMap : ∀ fuel depth vm e, (Factory.run (m.readMap (fuel + 1) depth vm) f).1 = .error e →
    e = .shape (.wrongType m.typeName) ∨ (∃ name reason, e = .allocation name reason) ∨
      e = .endless ∨ m.SetFailure (m.setProperty fuel depth) vm e
  readMapInto : ∀ fuel depth vm x y e,
    (Factory.run (m.readMapInto fuel depth vm x) f).1 = .ok (y, some e) →
      e = .shape (.wrongType m.typeName) ∨ m.SetFailure (m.setProperty fuel depth) vm e
  writeObject : ∀ L depth x out e,
    (WriteM.run (m.writeObject F L depth x) f out).1 = .error e →
      e = .shape (.wrongType m.typeName) ∨ F.FrameFails e ∨ ∃ p ∈ m.properties, ∃ e',
        e = e'.within m.ownerName p.info.name ∧ Mapper.WriteFailure F f.schema L depth m x p e'

open Mapper in
/-- With a path-free format, from a factory whose adapters and kept mappers are path-free, every
operation of a path-free mapper names the properties of its errors as `NamesProperties` says. -/
theorem errors_name_their_properties {σ : Type} {F : Format σ} (hF : F.PathFree) {f : Factory}
    (hf : f.PathFree) {m : Mapper} (hm : m.PathFree) : m.NamesProperties F f where
  read v e he := ((readValue_raises hm v) f rfl hf).2.2 e he |>.attributed
  readInto v x y e he := by
    obtain ⟨-, -, r, hr, hI⟩ := readValueInto_keeps (S := f.schema) hm v x f rfl hf trivial
    rw [he] at hr
    cases hr
    exact (hI e rfl).attributed
  write x out e he :=
    ((write_raises hF hm x) (f, out) rfl hf).2.2 e he |>.attributed
  readMap fuel depth vm e he := by
    rw [Mapper.readMap] at he
    exact readMapWith_attributes he
  readMapInto fuel depth vm x y e he := by
    obtain ⟨-, -, r, hr, hI⟩ := readMapIntoWith_keeps (S := f.schema) m vm x
      (fun p hp target v _ => (reader_raises fuel).2.2.2 depth m p target v (hm p hp)) f rfl hf trivial
    rw [Mapper.readMapInto] at he
    rw [he] at hr
    cases hr
    exact (hI e rfl).2
  writeObject L depth x out e he := writeObject_attributes F he

/-- The catalogue's record `Top`, which holds a `Mid` that holds a `Leaf`: its mapper, built in a
fresh factory, names the properties of its errors. -/
theorem top_errors_name_their_properties :
    ∃ d m f₁, Catalogue.schema.descriptor? (Catalogue.declared "Top") = some d ∧
      Factory.run (Factory.mapperFor d) { schema := Catalogue.schema } = (.ok m, f₁) ∧
      JsonFormat.format.PathFree ∧ f₁.PathFree ∧ m.PathFree ∧
        m.NamesProperties JsonFormat.format f₁ := by
  have hbuilt : ((Catalogue.schema.descriptor? (Catalogue.declared "Top")).map fun d =>
      (Factory.run (Factory.mapperFor d) { schema := Catalogue.schema }).1.isOk) = some true := by
    decide +kernel
  rcases hd : Catalogue.schema.descriptor? (Catalogue.declared "Top") with _ | d
  · rw [hd] at hbuilt
    cases hbuilt
  rw [hd, Option.map_some, Option.some.injEq] at hbuilt
  rcases hrun : Factory.run (Factory.mapperFor d) { schema := Catalogue.schema } with ⟨_ | m, f₁⟩
  · rw [hrun] at hbuilt
    cases hbuilt
  -- a fresh factory has no adapters and keeps no mapper
  have hfresh : Factory.PathFree { schema := Catalogue.schema } := by
    refine ⟨fun a ha => ?_, fun km hkm => ?_⟩
    · cases ha
    · cases hkm
  obtain ⟨hf₁, hm⟩ := Factory.mapperFor_pathFree (d := d) hfresh
  rw [hrun] at hf₁ hm
  exact ⟨d, m, f₁, rfl, hrun, JsonFormat.format_pathFree, hf₁, hm m rfl,
    errors_name_their_properties JsonFormat.format_pathFree hf₁ (hm m rfl)⟩

end ObjectMapping
