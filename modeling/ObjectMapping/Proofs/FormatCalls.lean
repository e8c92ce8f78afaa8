import ObjectMapping.Proofs.UnderLimit
import ObjectMapping.Format.Trace

/-!
# The calls a mapper makes on a format

A write drives its format by calls: begin, then the frame of the instance, then end. A frame
opens an object, writes each property's value followed by a separator that knows whether the
property is the first and whether it is the last, and closes the object. The format may hand
back objects inside a value, and each is written as one frame of its own, one level deeper.
Any format can be watched: `Format.traced F` is `F` keeping the list of the calls it gets.

* `FrameCalls`, `PropertyCalls`, `PiecesCalls`, `NestedCalls`: the calls of a frame written to
  the end, as a grammar over the output each call is given and leaves. The mappers of nested
  objects are those the factory keeps.
* `FrameStop`, `PropertyStop`, `PiecesStop`, `NestedStop`: the calls of a frame that fails, up
  to the failing call or getter, with the error it gives. Any call of the format may fail, not
  only a value's.
* `Records S ok bad x y`: `y` is the write `x` with its calls recorded, and the calls satisfy
  `ok` or `bad`. Its rules follow how writes are put together, and `objectRecords` follows the
  writer's recursion, one level of nesting at a time.
* `write_calls`: for every format, writing with `Format.traced F` writes what `F` writes. The
  calls recorded are begin, frame, end for a record and begin, value, end for any other type.
  A failing write stops right after the failing call or getter and returns its error.
-/

set_option autoImplicit false

namespace ObjectMapping

/-! ## Recording the calls -/

namespace Piece

/-- A piece of output of a format, put to work on the first part of a pair. -/
def onFirst {σ τ : Type} : Piece σ → Piece (σ × τ)
  | emit g => emit fun s => (g s.1, s.2)
  | fail e => fail e
  | nested r => nested r

end Piece

namespace Format

/-- The call `c` keeping `entry` beside its output, whether or not it fails. -/
def tracedCall {σ : Type} (c : FormatCall σ) (entry : TraceEntry) :
    FormatCall (σ × List TraceEntry) :=
  fun s => ((c s.1).1, (c s.1).2, s.2 ++ [entry])

/-- The format `F` keeping, beside its output, the calls it receives in order. A value is
recorded before `F` writes it, so the frames of the objects `F` hands back come after it. -/
def traced {σ : Type} (F : Format σ) : Format (σ × List TraceEntry) where
  writeBegin := tracedCall F.writeBegin .begin
  writeValue name kind v depth :=
    .emit (fun s => (s.1, s.2 ++ [.value name kind depth v])) ::
      (F.writeValue name kind v depth).map Piece.onFirst
  writeBeginObject := tracedCall F.writeBeginObject .beginObject
  writeSeparator first last := tracedCall (F.writeSeparator first last) (.separator first last)
  writeEndObject := tracedCall F.writeEndObject .endObject
  writeEnd := tracedCall F.writeEnd .finish

theorem traced_writeValue {σ : Type} (F : Format σ) (name : Option String) (kind : Kind)
    (v : Value) (depth : Nat) :
    F.traced.writeValue name kind v depth =
      .emit (fun s => (s.1, s.2 ++ [.value name kind depth v])) ::
        (F.writeValue name kind v depth).map Piece.onFirst :=
  rfl

end Format

/-! ## The calls of a frame -/

section Calls

variable {σ : Type} (F : Format σ) (S : Schema) (T : List (Ty × Mapper))

mutual

/-- `PiecesCalls depth ps out t out'`: writing the pieces `ps` of a value at depth `depth` from the
output `out` makes the calls `t`, the frame of each object handed back in order, and leaves
`out'`; output of the format's own is no call. -/
inductive PiecesCalls : Nat → List (Piece σ) → σ → List TraceEntry → σ → Prop
  | nil (depth : Nat) (out : σ) : PiecesCalls depth [] out [] out
  | emit {depth : Nat} {g : σ → σ} {ps : List (Piece σ)} {out out' : σ} {t : List TraceEntry} :
      PiecesCalls depth ps (g out) t out' → PiecesCalls depth (.emit g :: ps) out t out'
  | nested {depth : Nat} {r : ObjectRef} {ps : List (Piece σ)} {out out₁ out₂ : σ}
      {t₁ t₂ : List TraceEntry} :
      NestedCalls depth r out t₁ out₁ → PiecesCalls depth ps out₁ t₂ out₂ →
      PiecesCalls depth (.nested r :: ps) out (t₁ ++ t₂) out₂

/-- `NestedCalls depth r out t out'`: an object handed back at depth `depth` is one frame, written
one level deeper with the mapper kept for its record. -/
inductive NestedCalls : Nat → ObjectRef → σ → List TraceEntry → σ → Prop
  | frame {depth : Nat} {r : ObjectRef} {d : Descriptor} {m : Mapper} {out out' : σ}
      {t : List TraceEntry} : S.descriptor? r.ty = some d → T.lookup d.ops.ty = some m →
      FrameCalls (depth + 1) m r.instance out t out' → NestedCalls depth r out t out'

/-- `FrameCalls depth m x out t out'`: the frame of `x` written with `m`: the object opens, each
property is written in declaration order, the object closes, and no call fails. -/
inductive FrameCalls : Nat → Mapper → Instance → σ → List TraceEntry → σ → Prop
  | mk {depth : Nat} {m : Mapper} {x : Instance} {out out₁ out₂ out₃ : σ} {t : List TraceEntry} :
      x.ty = m.ops.ty → F.writeBeginObject out = (.ok (), out₁) →
      PropertyCalls depth m x 0 m.properties out₁ t out₂ → F.writeEndObject out₂ = (.ok (), out₃) →
      FrameCalls depth m x out (.beginObject :: t ++ [.endObject]) out₃

/-- `PropertyCalls depth m x i ps out t out'`: the properties `ps`, numbered from `i`, each written
as its value under its external name, with the kind `null` for a null value, followed by the
frames the format asks for and a separator that tells the first and the last property. -/
inductive PropertyCalls : Nat → Mapper → Instance → Nat → List MappedProperty → σ →
    List TraceEntry → σ → Prop
  | nil {depth : Nat} {m : Mapper} {x : Instance} {i : Nat} {out : σ} :
      PropertyCalls depth m x i [] out [] out
  | cons {depth : Nat} {m : Mapper} {x : Instance} {i : Nat} {p : MappedProperty}
      {ps : List MappedProperty} {raw : Value} {out out₁ out₂ out₃ : σ}
      {t₁ t₂ : List TraceEntry} :
      Mapper.readProperty S m p x = .ok raw →
      PiecesCalls depth
        (F.writeValue (some p.name) (if raw.isNull then .null else p.kind) raw depth) out t₁ out₁ →
      F.writeSeparator (i == 0) (i == m.properties.length - 1) out₁ = (.ok (), out₂) →
      PropertyCalls depth m x (i + 1) ps out₂ t₂ out₃ →
      PropertyCalls depth m x i (p :: ps) out
        (.value (some p.name) (if raw.isNull then .null else p.kind) depth raw :: t₁ ++
          .separator (i == 0) (i == m.properties.length - 1) :: t₂) out₃

end

variable (L : Nat)

mutual

/-- `PiecesStop depth ps out t e`: writing the pieces `ps` from `out` makes the calls `t` and fails
with `e`: at a piece the format refuses, or in or before the frame of an object handed back. -/
inductive PiecesStop : Nat → List (Piece σ) → σ → List TraceEntry → MapError → Prop
  | fail {depth : Nat} {e : MapError} {ps : List (Piece σ)} {out : σ} :
      PiecesStop depth (.fail e :: ps) out [] e
  | emit {depth : Nat} {g : σ → σ} {ps : List (Piece σ)} {out : σ} {t : List TraceEntry}
      {e : MapError} : PiecesStop depth ps (g out) t e → PiecesStop depth (.emit g :: ps) out t e
  | nested {depth : Nat} {r : ObjectRef} {ps : List (Piece σ)} {out : σ} {t : List TraceEntry}
      {e : MapError} : NestedStop depth r out t e → PiecesStop depth (.nested r :: ps) out t e
  | after {depth : Nat} {r : ObjectRef} {ps : List (Piece σ)} {out out₁ : σ}
      {t₁ t₂ : List TraceEntry} {e : MapError} : NestedCalls F S T depth r out t₁ out₁ →
      PiecesStop depth ps out₁ t₂ e → PiecesStop depth (.nested r :: ps) out (t₁ ++ t₂) e

/-- `NestedStop depth r out t e`: the object `r` handed back at depth `depth` is not written to
the end: past the limit `L`, without a record, without a mapper, or failing inside its frame. -/
inductive NestedStop : Nat → ObjectRef → σ → List TraceEntry → MapError → Prop
  | limit {depth : Nat} {r : ObjectRef} {out : σ} : L < depth + 1 →
      NestedStop depth r out [] (.depthExceeded L)
  | undescribed {depth : Nat} {r : ObjectRef} {out : σ} : ¬ L < depth + 1 →
      S.descriptor? r.ty = none → NestedStop depth r out [] (.config (.missingMapper r.ty.typeName))
  | unbuilt {depth : Nat} {r : ObjectRef} {d : Descriptor} {out : σ} {e : MapError} :
      ¬ L < depth + 1 → S.descriptor? r.ty = some d → T.lookup d.ops.ty = none →
      NestedStop depth r out [] e
  | frame {depth : Nat} {r : ObjectRef} {d : Descriptor} {m : Mapper} {out : σ}
      {t : List TraceEntry} {e : MapError} : ¬ L < depth + 1 → S.descriptor? r.ty = some d →
      T.lookup d.ops.ty = some m → FrameStop (depth + 1) m r.instance out t e →
      NestedStop depth r out t e

/-- `FrameStop depth m x out t e`: the frame of `x` fails: at once for an instance of another type,
or at the call that opens the object, in its properties, or at the call that closes it. -/
inductive FrameStop : Nat → Mapper → Instance → σ → List TraceEntry → MapError → Prop
  | wrongType {depth : Nat} {m : Mapper} {x : Instance} {out : σ} : x.ty ≠ m.ops.ty →
      FrameStop depth m x out [] (.shape (.wrongType m.typeName))
  | opening {depth : Nat} {m : Mapper} {x : Instance} {out : σ} {e : MapError} :
      x.ty = m.ops.ty → (F.writeBeginObject out).1 = .error e →
      FrameStop depth m x out [.beginObject] e
  | properties {depth : Nat} {m : Mapper} {x : Instance} {out out₁ : σ} {t : List TraceEntry}
      {e : MapError} : x.ty = m.ops.ty → F.writeBeginObject out = (.ok (), out₁) →
      PropertyStop depth m x 0 m.properties out₁ t e → FrameStop depth m x out (.beginObject :: t) e
  | closing {depth : Nat} {m : Mapper} {x : Instance} {out out₁ out₂ : σ} {t : List TraceEntry}
      {e : MapError} : x.ty = m.ops.ty → F.writeBeginObject out = (.ok (), out₁) →
      PropertyCalls F S T depth m x 0 m.properties out₁ t out₂ →
      (F.writeEndObject out₂).1 = .error e →
      FrameStop depth m x out (.beginObject :: t ++ [.endObject]) e

/-- `PropertyStop depth m x i ps out t e`: the properties fail at one whose getter fails, before
its value is written, or whose value fails after it is written, and then the error names that
property; or at a separator, whose error names none. -/
inductive PropertyStop : Nat → Mapper → Instance → Nat → List MappedProperty → σ →
    List TraceEntry → MapError → Prop
  | getter {depth : Nat} {m : Mapper} {x : Instance} {i : Nat} {p : MappedProperty}
      {ps : List MappedProperty} {out : σ} {e : MapError} : Mapper.readProperty S m p x = .error e →
      PropertyStop depth m x i (p :: ps) out [] (e.within m.ownerName p.info.name)
  | value {depth : Nat} {m : Mapper} {x : Instance} {i : Nat} {p : MappedProperty}
      {ps : List MappedProperty} {raw : Value} {out : σ} {t : List TraceEntry} {e : MapError} :
      Mapper.readProperty S m p x = .ok raw →
      PiecesStop depth
        (F.writeValue (some p.name) (if raw.isNull then .null else p.kind) raw depth) out t e →
      PropertyStop depth m x i (p :: ps) out
        (.value (some p.name) (if raw.isNull then .null else p.kind) depth raw :: t)
        (e.within m.ownerName p.info.name)
  | separator {depth : Nat} {m : Mapper} {x : Instance} {i : Nat} {p : MappedProperty}
      {ps : List MappedProperty} {raw : Value} {out out₁ : σ} {t : List TraceEntry}
      {e : MapError} : Mapper.readProperty S m p x = .ok raw →
      PiecesCalls F S T depth
        (F.writeValue (some p.name) (if raw.isNull then .null else p.kind) raw depth) out t out₁ →
      (F.writeSeparator (i == 0) (i == m.properties.length - 1) out₁).1 = .error e →
      PropertyStop depth m x i (p :: ps) out
        (.value (some p.name) (if raw.isNull then .null else p.kind) depth raw :: t ++
          [.separator (i == 0) (i == m.properties.length - 1)]) e
  | later {depth : Nat} {m : Mapper} {x : Instance} {i : Nat} {p : MappedProperty}
      {ps : List MappedProperty} {raw : Value} {out out₁ out₂ : σ} {t₁ t₂ : List TraceEntry}
      {e : MapError} : Mapper.readProperty S m p x = .ok raw →
      PiecesCalls F S T depth
        (F.writeValue (some p.name) (if raw.isNull then .null else p.kind) raw depth) out t₁ out₁ →
      F.writeSeparator (i == 0) (i == m.properties.length - 1) out₁ = (.ok (), out₂) →
      PropertyStop depth m x (i + 1) ps out₂ t₂ e →
      PropertyStop depth m x i (p :: ps) out
        (.value (some p.name) (if raw.isNull then .null else p.kind) depth raw :: t₁ ++
          .separator (i == 0) (i == m.properties.length - 1) :: t₂) e

end

/-- The calls between the begin and the end of a write of `x` with `m` that succeeds: the frame
of a record, or the value of any other type with the frames the format asks for. -/
inductive BodyCalls (m : Mapper) (x : Instance) : σ → List TraceEntry → σ → Prop
  | record {out out' : σ} {t : List TraceEntry} : m.descriptor.isSome →
      FrameCalls F S T 0 m x out t out' → BodyCalls m x out t out'
  | value {ops : ValueOps} {out out' : σ} {t : List TraceEntry} : m.descriptor = none →
      m.ops.value = some ops → x.ty = m.ops.ty →
      PiecesCalls F S T 0 (F.writeValue none
          (if (S.valueOf false x.ty x.datum x.identity).isNull then .null else ops.kind)
          (S.valueOf false x.ty x.datum x.identity) 0) out t out' →
      BodyCalls m x out (.value none
          (if (S.valueOf false x.ty x.datum x.identity).isNull then .null else ops.kind) 0
          (S.valueOf false x.ty x.datum x.identity) :: t) out'

/-- The calls between the begin of a write of `x` with `m` and its failure with `e`, under the
limit `L`. -/
inductive BodyStop (m : Mapper) (x : Instance) : σ → List TraceEntry → MapError → Prop
  | record {out : σ} {t : List TraceEntry} {e : MapError} : m.descriptor.isSome →
      FrameStop F S T L 0 m x out t e → BodyStop m x out t e
  | valueless {out : σ} : m.descriptor = none → m.ops.value = none →
      BodyStop m x out [] (.shape (.wrongType m.typeName))
  | wrongType {ops : ValueOps} {out : σ} : m.descriptor = none → m.ops.value = some ops →
      x.ty ≠ m.ops.ty → BodyStop m x out [] (.shape (.wrongType ops.kind.name))
  | value {ops : ValueOps} {out : σ} {t : List TraceEntry} {e : MapError} : m.descriptor = none →
      m.ops.value = some ops → x.ty = m.ops.ty →
      PiecesStop F S T L 0 (F.writeValue none
          (if (S.valueOf false x.ty x.datum x.identity).isNull then .null else ops.kind)
          (S.valueOf false x.ty x.datum x.identity) 0) out t e →
      BodyStop m x out (.value none
          (if (S.valueOf false x.ty x.datum x.identity).isNull then .null else ops.kind) 0
          (S.valueOf false x.ty x.datum x.identity) :: t) e

/-- The calls of a write of `x` with `m` that succeeds: begin, the body, end. -/
inductive WriteCalls (m : Mapper) (x : Instance) : σ → List TraceEntry → σ → Prop
  | mk {out out₁ out₂ out₃ : σ} {t : List TraceEntry} : F.writeBegin out = (.ok (), out₁) →
      BodyCalls F S T m x out₁ t out₂ → F.writeEnd out₂ = (.ok (), out₃) →
      WriteCalls m x out (.begin :: t ++ [.finish]) out₃

/-- The calls of a write of `x` with `m` that fails with `e`, under the limit `L`: at the begin,
in the body, or at the end. -/
inductive WriteStop (m : Mapper) (x : Instance) : σ → List TraceEntry → MapError → Prop
  | begin {out : σ} {e : MapError} : (F.writeBegin out).1 = .error e → WriteStop m x out [.begin] e
  | body {out out₁ : σ} {t : List TraceEntry} {e : MapError} :
      F.writeBegin out = (.ok (), out₁) → BodyStop F S T L m x out₁ t e →
      WriteStop m x out (.begin :: t) e
  | finish {out out₁ out₂ : σ} {t : List TraceEntry} {e : MapError} :
      F.writeBegin out = (.ok (), out₁) → BodyCalls F S T m x out₁ t out₂ →
      (F.writeEnd out₂).1 = .error e → WriteStop m x out (.begin :: t ++ [.finish]) e

variable {F S T}

mutual

/-- A frame never begins or ends a document: begin and end belong to the write alone. -/
theorem PiecesCalls.within_frames {depth : Nat} {ps : List (Piece σ)} {out out' : σ}
    {t : List TraceEntry} : PiecesCalls F S T depth ps out t out' → .begin ∉ t ∧ .finish ∉ t
  | .nil _ _ => by simp
  | .emit h => h.within_frames
  | .nested h₁ h₂ => by
    have h₁ := h₁.within_frames
    have h₂ := h₂.within_frames
    simp_all

theorem NestedCalls.within_frames {depth : Nat} {r : ObjectRef} {out out' : σ}
    {t : List TraceEntry} : NestedCalls F S T depth r out t out' → .begin ∉ t ∧ .finish ∉ t
  | .frame _ _ h => h.within_frames

theorem FrameCalls.within_frames {depth : Nat} {m : Mapper} {x : Instance} {out out' : σ}
    {t : List TraceEntry} : FrameCalls F S T depth m x out t out' → .begin ∉ t ∧ .finish ∉ t
  | .mk _ _ h _ => by
    have h := h.within_frames
    simp_all

theorem PropertyCalls.within_frames {depth : Nat} {m : Mapper} {x : Instance} {i : Nat}
    {ps : List MappedProperty} {out out' : σ} {t : List TraceEntry} :
    PropertyCalls F S T depth m x i ps out t out' → .begin ∉ t ∧ .finish ∉ t
  | .nil => by simp
  | .cons _ h₁ _ h₂ => by
    have h₁ := h₁.within_frames
    have h₂ := h₂.within_frames
    simp_all

end

end Calls

/-! ## Writes with their calls recorded -/

/-- Looking up or building the mapper of a record fails only where no mapper is kept for it,
and then it keeps the mappers and the schema as they were. -/
theorem Factory.mapperFor_failed {d : Descriptor} {f f' : Factory} {e : MapError}
    (h : Factory.run (Factory.mapperFor d) f = (.error e, f')) :
    f'.cache = f.cache ∧ f.cache.lookup d.ops.ty = none ∧ f'.schema = f.schema := by
  have hschema := Factory.mapperFor_schema d f
  rw [h] at hschema
  unfold Factory.mapperFor Factory.cachedOrBuild at h
  rw [Factory.run_bind_ok (Factory.run_get f)] at h
  split at h
  · cases h
  · rename_i hnone
    rcases hb : Factory.run (Factory.build d.ops (some d)) f with ⟨e' | m, g⟩
    · rw [Factory.run_bind_error hb] at h
      cases h
      have hcache := Factory.build_cache d.ops (some d) f
      rw [hb] at hcache
      exact ⟨hcache, hnone, hschema⟩
    · rw [Factory.run_bind_ok hb] at h
      cases h

section Records

variable {σ α β : Type}

/-- `Records S ok bad x y`: `y` is the write `x` with its calls recorded. Run from a factory with
the schema `S` and an output `out`, `y` gives what `x` gives and adds the calls `t` to the record,
and the run keeps the schema and the mappers kept before it. Where `x` succeeds and leaves the
output `out'`, `ok T out a t out'` holds, judged with the mappers kept at the end or any list
that keeps more after them; where it fails, `bad T out e t` holds, judged with the mappers kept
at the end. -/
def Records (S : Schema) (ok : List (Ty × Mapper) → σ → α → List TraceEntry → σ → Prop)
    (bad : List (Ty × Mapper) → σ → MapError → List TraceEntry → Prop) (x : WriteM σ α)
    (y : WriteM (σ × List TraceEntry) α) : Prop :=
  ∀ f out tr, f.schema = S → ∃ t,
    WriteM.run y f (out, tr) =
      ((WriteM.run x f out).1, (WriteM.run x f out).2.1, (WriteM.run x f out).2.2, tr ++ t) ∧
    f.Grows (WriteM.run x f out).2.1 ∧
    (∀ a, (WriteM.run x f out).1 = .ok a → ∀ T, (WriteM.run x f out).2.1.cache <+: T →
      ok T out a t (WriteM.run x f out).2.2) ∧
    ∀ e, (WriteM.run x f out).1 = .error e → bad (WriteM.run x f out).2.1.cache out e t

namespace Records

variable {S : Schema} {ok ok' : List (Ty × Mapper) → σ → α → List TraceEntry → σ → Prop}
  {bad bad' : List (Ty × Mapper) → σ → MapError → List TraceEntry → Prop}

theorem mono {x : WriteM σ α} {y : WriteM (σ × List TraceEntry) α} (h : Records S ok bad x y)
    (hok : ∀ T o a t o', ok T o a t o' → ok' T o a t o')
    (hbad : ∀ T o e t, bad T o e t → bad' T o e t) : Records S ok' bad' x y := by
  intro f out tr hS
  obtain ⟨t, hy, hg, hgood, hfail⟩ := h f out tr hS
  exact ⟨t, hy, hg, fun a ha T hT => hok _ _ _ _ _ (hgood a ha T hT),
    fun e he => hbad _ _ _ _ (hfail e he)⟩

theorem pure (a : α) (h : ∀ T o, ok T o a [] o) :
    Records S ok bad (Pure.pure a : WriteM σ α) (Pure.pure a) := by
  intro f out tr _
  refine ⟨[], by simp, Factory.Grows.refl f, fun b hb T _ => ?_, fun e he => ?_⟩
  · simp only [WriteM.run_pure, Except.ok.injEq] at hb
    exact hb ▸ h T out
  · simp at he

theorem throw_bind {e : MapError} {k : α → WriteM σ β} {k' : α → WriteM (σ × List TraceEntry) β}
    {ok : List (Ty × Mapper) → σ → β → List TraceEntry → σ → Prop} (h : ∀ T o, bad T o e []) :
    Records S ok bad (MonadExcept.throw e >>= k) (MonadExcept.throw e >>= k') := by
  intro f out tr _
  have hx : WriteM.run (MonadExcept.throw e >>= k) f out = (.error e, f, out) :=
    WriteM.run_bind_error (WriteM.run_throw e f out) k
  have hy : WriteM.run (MonadExcept.throw e >>= k') f (out, tr) = (.error e, f, out, tr) :=
    WriteM.run_bind_error (WriteM.run_throw e f (out, tr)) k'
  refine ⟨[], by rw [hx, hy, List.append_nil], by rw [hx]; exact Factory.Grows.refl f,
    fun b hb => ?_, fun e' he' => ?_⟩
  · rw [hx] at hb
    cases hb
  · rw [hx] at he' ⊢
    cases he'
    exact h _ out

theorem throw (e : MapError) (h : ∀ T o, bad T o e []) :
    Records S ok bad (MonadExcept.throw e : WriteM σ α) (MonadExcept.throw e) := by
  intro f out tr _
  refine ⟨[], by simp, Factory.Grows.refl f, fun b hb => ?_, fun e' he' => ?_⟩
  · simp at hb
  · simp only [WriteM.run_throw, Except.error.injEq] at he' ⊢
    exact he' ▸ h _ out

/-- Output of the format, with the calls `es` recorded. -/
theorem emit {g : σ → σ} {g' : σ × List TraceEntry → σ × List TraceEntry} {es : List TraceEntry}
    (hg : ∀ s, g' s = (g s.1, s.2 ++ es)) :
    Records S (fun _ o _ t o' => t = es ∧ o' = g o) (fun _ _ _ _ => False) (WriteM.emit g)
      (WriteM.emit g') := by
  intro f out tr _
  refine ⟨es, by rw [WriteM.run_emit, WriteM.run_emit, hg], Factory.Grows.refl f,
    fun _ _ _ _ => ⟨rfl, rfl⟩, fun e he => ?_⟩
  simp at he

/-- A call of the format, recorded as `es` whether or not it fails. -/
theorem call {c : FormatCall σ} {c' : FormatCall (σ × List TraceEntry)} {es : List TraceEntry}
    (hc : ∀ s, c' s = ((c s.1).1, (c s.1).2, s.2 ++ es)) :
    Records S (fun _ o _ t o' => t = es ∧ c o = (.ok (), o'))
      (fun _ o e t => t = es ∧ (c o).1 = .error e) (WriteM.call c) (WriteM.call c') := by
  intro f out tr _
  refine ⟨es, by rw [WriteM.run_call, WriteM.run_call, hc],
    by rw [WriteM.run_call]; exact Factory.Grows.refl f, fun a ha _ _ => ⟨rfl, ?_⟩,
    fun e he => ⟨rfl, ?_⟩⟩
  · rw [WriteM.run_call] at ha ⊢
    exact Prod.ext ha rfl
  · rwa [WriteM.run_call] at he

/-- Calls recorded before a write. -/
theorem record_bind {g' : σ × List TraceEntry → σ × List TraceEntry} {es : List TraceEntry}
    (hg : ∀ s, g' s = (s.1, s.2 ++ es)) {x : WriteM σ α} {y : WriteM (σ × List TraceEntry) α}
    (h : Records S ok bad x y) :
    Records S (fun T o a t o' => ∃ t', t = es ++ t' ∧ ok T o a t' o')
      (fun T o e t => ∃ t', t = es ++ t' ∧ bad T o e t') x (WriteM.emit g' >>= fun _ => y) := by
  intro f out tr hS
  obtain ⟨t, hy, hg', hgood, hfail⟩ := h f out (tr ++ es) hS
  refine ⟨es ++ t, ?_, hg', fun a ha T hT => ⟨t, rfl, hgood a ha T hT⟩,
    fun e he => ⟨t, rfl, hfail e he⟩⟩
  rw [WriteM.run_bind_ok (WriteM.run_emit g' f (out, tr)), hg, hy, List.append_assoc]

theorem bind {x : WriteM σ α} {y : WriteM (σ × List TraceEntry) α} {k : α → WriteM σ β}
    {k' : α → WriteM (σ × List TraceEntry) β}
    {ok₂ : α → List (Ty × Mapper) → σ → β → List TraceEntry → σ → Prop}
    {bad₂ : α → List (Ty × Mapper) → σ → MapError → List TraceEntry → Prop}
    (hx : Records S ok bad x y) (hk : ∀ a, Records S (ok₂ a) (bad₂ a) (k a) (k' a)) :
    Records S (fun T o b t o₂ => ∃ a t₁ t₂ o₁, t = t₁ ++ t₂ ∧ ok T o a t₁ o₁ ∧ ok₂ a T o₁ b t₂ o₂)
      (fun T o e t => bad T o e t ∨
        ∃ a t₁ t₂ o₁, t = t₁ ++ t₂ ∧ ok T o a t₁ o₁ ∧ bad₂ a T o₁ e t₂)
      (x >>= k) (y >>= k') := by
  intro f out tr hS
  obtain ⟨t₁, hy, hg₁, hgood₁, hfail₁⟩ := hx f out tr hS
  rcases hxr : WriteM.run x f out with ⟨_ | a, f₁, o₁⟩
  · -- the first write fails, and the second is not run
    rw [hxr] at hy hg₁ hfail₁
    have hrun : WriteM.run (x >>= k) f out = (.error _, f₁, o₁) := WriteM.run_bind_error hxr k
    refine ⟨t₁, by rw [hrun, WriteM.run_bind_error hy k'], by rw [hrun]; exact hg₁,
      (fun b hb => by rw [hrun] at hb; cases hb), fun e he => ?_⟩
    rw [hrun] at he ⊢
    cases he
    exact .inl (hfail₁ _ rfl)
  · rw [hxr] at hy hg₁ hgood₁
    obtain ⟨t₂, hy₂, hg₂, hgood₂, hfail₂⟩ := hk a f₁ o₁ (tr ++ t₁) (hg₁.schema.trans hS)
    have hrun : WriteM.run (x >>= k) f out = WriteM.run (k a) f₁ o₁ := WriteM.run_bind_ok hxr k
    refine ⟨t₁ ++ t₂, ?_, ?_, fun b hb T hT => ?_, fun e he => ?_⟩
    · rw [hrun, WriteM.run_bind_ok hy k', hy₂, List.append_assoc]
    · rw [hrun]
      exact hg₁.trans hg₂
    · rw [hrun] at hb hT ⊢
      exact ⟨a, t₁, t₂, o₁, rfl, hgood₁ a rfl T (hg₂.cache.trans hT), hgood₂ b hb T hT⟩
    · rw [hrun] at he ⊢
      exact .inr ⟨a, t₁, t₂, o₁, rfl, hgood₁ a rfl _ hg₂.cache, hfail₂ e he⟩

/-- A write reads its factory; the record is not what it reads. -/
theorem get_bind {k : Factory × σ → WriteM σ α}
    {k' : Factory × (σ × List TraceEntry) → WriteM (σ × List TraceEntry) α}
    (hk : ∀ (f : Factory) (o : σ) (o' : σ × List TraceEntry), f.schema = S →
      Records S ok bad (k (f, o)) (k' (f, o'))) :
    Records S ok bad (get >>= k) (get >>= k') := by
  intro f out tr hS
  rw [WriteM.run_bind_ok (WriteM.run_get f out), WriteM.run_bind_ok (WriteM.run_get f (out, tr))]
  exact hk f out (out, tr) hS f out tr hS

/-- Attributing an error to a property keeps the calls made. -/
theorem tryCatch_within {x : WriteM σ α} {y : WriteM (σ × List TraceEntry) α}
    (h : Records S ok bad x y) (owner property : String) :
    Records S ok (fun T o e' t => ∃ e, e' = e.within owner property ∧ bad T o e t)
      (tryCatch x fun e => MonadExcept.throw (e.within owner property))
      (tryCatch y fun e => MonadExcept.throw (e.within owner property)) := by
  intro f out tr hS
  obtain ⟨t, hy, hg, hgood, hfail⟩ := h f out tr hS
  rcases hxr : WriteM.run x f out with ⟨e₀ | a, f₁, o₁⟩
  · rw [hxr] at hy hg hfail
    have hrun : WriteM.run (tryCatch x fun e => MonadExcept.throw (e.within owner property)) f out =
        (.error (e₀.within owner property), f₁, o₁) := by
      rw [WriteM.run_tryCatch_error hxr, WriteM.run_throw]
    refine ⟨t, by rw [hrun, WriteM.run_tryCatch_error hy, WriteM.run_throw],
      by rw [hrun]; exact hg, (fun b hb => by rw [hrun] at hb; cases hb), fun e he => ?_⟩
    rw [hrun] at he ⊢
    cases he
    exact ⟨_, rfl, hfail _ rfl⟩
  · rw [hxr] at hy hg hgood
    have hrun : WriteM.run (tryCatch x fun e => MonadExcept.throw (e.within owner property)) f out =
        (.ok a, f₁, o₁) := WriteM.run_tryCatch_ok hxr _
    refine ⟨t, by rw [hrun, WriteM.run_tryCatch_ok hy], by rw [hrun]; exact hg,
      fun b hb T hT => ?_, fun e he => by rw [hrun] at he; cases he⟩
    rw [hrun] at hb hT ⊢
    cases hb
    exact hgood a rfl T hT

/-- Looking up or building the mapper of a record inside a write: where it fails, no call is
made and no mapper is kept for the record; where it succeeds, what follows is judged with the
mapper kept for the record. -/
theorem factory_mapperFor_bind {d : Descriptor} {k : Mapper → WriteM σ β}
    {k' : Mapper → WriteM (σ × List TraceEntry) β}
    {ok₂ : Mapper → List (Ty × Mapper) → σ → β → List TraceEntry → σ → Prop}
    {bad₂ : Mapper → List (Ty × Mapper) → σ → MapError → List TraceEntry → Prop}
    (hk : ∀ m, Records S (ok₂ m) (bad₂ m) (k m) (k' m)) :
    Records S (fun T o b t o' => ∃ m, T.lookup d.ops.ty = some m ∧ ok₂ m T o b t o')
      (fun T o e t => (T.lookup d.ops.ty = none ∧ t = []) ∨
        ∃ m, T.lookup d.ops.ty = some m ∧ bad₂ m T o e t)
      (WriteM.factory (Factory.mapperFor d) >>= k)
      (WriteM.factory (Factory.mapperFor d) >>= k') := by
  intro f out tr hS
  rcases hmap : Factory.run (Factory.mapperFor d) f with ⟨e | m, f₁⟩
  · obtain ⟨hcache, hnone, hschema⟩ := Factory.mapperFor_failed hmap
    have hx : WriteM.run (WriteM.factory (Factory.mapperFor d) >>= k) f out = (.error e, f₁, out) :=
      WriteM.run_bind_error (by rw [WriteM.run_factory, hmap]) k
    have hy : WriteM.run (WriteM.factory (Factory.mapperFor d) >>= k') f (out, tr) =
        (.error e, f₁, out, tr) :=
      WriteM.run_bind_error (by rw [WriteM.run_factory, hmap]) k'
    refine ⟨[], by rw [hx, hy, List.append_nil], by rw [hx]; exact ⟨hschema, hcache ▸ List.prefix_refl _⟩,
      (fun b hb => by rw [hx] at hb; cases hb), fun e' he => ?_⟩
    rw [hx] at he ⊢
    cases he
    exact .inl ⟨hcache ▸ hnone, rfl⟩
  · obtain ⟨hg₁, hkept, -⟩ := LimitAgrees.mapperFor_run hmap
    have hx : WriteM.run (WriteM.factory (Factory.mapperFor d) >>= k) f out = WriteM.run (k m) f₁ out :=
      WriteM.run_bind_ok (by rw [WriteM.run_factory, hmap]) k
    have hy : WriteM.run (WriteM.factory (Factory.mapperFor d) >>= k') f (out, tr) =
        WriteM.run (k' m) f₁ (out, tr) :=
      WriteM.run_bind_ok (by rw [WriteM.run_factory, hmap]) k'
    obtain ⟨t, hy₂, hg₂, hgood, hfail⟩ := hk m f₁ out tr (hg₁.schema.trans hS)
    refine ⟨t, by rw [hx, hy, hy₂], by rw [hx]; exact hg₁.trans hg₂, fun b hb T hT => ?_,
      fun e he => ?_⟩
    · rw [hx] at hb hT ⊢
      exact ⟨m, hkept T (hg₂.cache.trans hT), hgood b hb T hT⟩
    · rw [hx] at he ⊢
      exact .inr ⟨m, hkept _ hg₂.cache, hfail e he⟩

end Records

end Records

/-! ## The calls of the writer -/

namespace Mapper

section

variable {σ : Type} (F : Format σ) (S : Schema)

/-- Writing an object handed back at depth `depth`, with the limit `L`, records one frame, or
the calls up to where it stops. -/
def NestedRecords (L depth : Nat) : Prop :=
  ∀ r, Records S (fun T o _ t o' => NestedCalls F S T depth r o t o')
    (fun T o e t => NestedStop F S T L depth r o t e) (serializeNested F L depth r)
    (serializeNested F.traced L depth r)

/-- Writing the frame of an object at depth `depth`, with the limit `L`, records its calls. -/
def ObjectRecords (L depth : Nat) : Prop :=
  ∀ m x, Records S (fun T o _ t o' => FrameCalls F S T depth m x o t o')
    (fun T o e t => FrameStop F S T L depth m x o t e) (writeObject F L depth m x)
    (writeObject F.traced L depth m x)

variable {F S} {L depth : Nat}

theorem writePieces_records (hn : NestedRecords F S L depth) : ∀ ps : List (Piece σ),
    Records S (fun T o _ t o' => PiecesCalls F S T depth ps o t o')
      (fun T o e t => PiecesStop F S T L depth ps o t e) (writePieces F L depth ps)
      (writePieces F.traced L depth (ps.map Piece.onFirst))
  | [] => by
    rw [List.map_nil, writePieces, writePieces]
    exact Records.pure () fun _ o => .nil depth o
  | .emit g :: ps => by
    rw [List.map_cons, Piece.onFirst, writePieces, writePieces]
    refine (Records.bind (Records.emit (show ∀ s : σ × List TraceEntry,
      (fun s => (g s.1, s.2)) s = (g s.1, s.2 ++ []) from fun s => by rw [List.append_nil]))
        fun _ => writePieces_records hn ps).mono ?_ ?_
    · rintro T o _ t o' ⟨_, t₁, t₂, o₁, rfl, ⟨rfl, rfl⟩, h⟩
      exact .emit h
    · rintro T o e t (h | ⟨_, t₁, t₂, o₁, rfl, ⟨rfl, rfl⟩, h⟩)
      · exact h.elim
      · exact .emit h
  | .fail e :: ps => by
    rw [List.map_cons, Piece.onFirst, writePieces, writePieces]
    exact Records.throw e fun _ _ => .fail
  | .nested r :: ps => by
    rw [List.map_cons, Piece.onFirst, writePieces, writePieces]
    refine (Records.bind (hn r) fun _ => writePieces_records hn ps).mono ?_ ?_
    · rintro T o _ t o' ⟨_, t₁, t₂, o₁, rfl, h₁, h₂⟩
      exact .nested h₁ h₂
    · rintro T o e t (h | ⟨_, t₁, t₂, o₁, rfl, h₁, h₂⟩)
      · exact .nested h
      · exact .after h₁ h₂

theorem writeProperties_records (hn : NestedRecords F S L depth) (m : Mapper) (x : Instance) :
    ∀ (i : Nat) (ps : List MappedProperty),
    Records S (fun T o _ t o' => PropertyCalls F S T depth m x i ps o t o')
      (fun T o e t => PropertyStop F S T L depth m x i ps o t e)
      (writeProperties F L depth m x S (m.properties.length - 1) i ps)
      (writeProperties F.traced L depth m x S (m.properties.length - 1) i ps)
  | i, [] => by
    rw [writeProperties, writeProperties]
    exact Records.pure () fun _ _ => .nil
  | i, p :: ps => by
    rw [writeProperties, writeProperties]
    split
    · rename_i raw hraw
      simp only [pure_bind]
      rw [Format.traced_writeValue, writePieces]
      -- the value is recorded and written, then its separator, then the other properties
      refine (Records.bind (Records.tryCatch_within
        (Records.record_bind (fun _ => rfl) (writePieces_records hn _)) _ _) fun _ =>
          Records.bind (Records.call fun _ => rfl) fun _ =>
            writeProperties_records hn m x (i + 1) ps).mono ?_ ?_
      · rintro T o _ t o' ⟨_, _, _, o₁, rfl, ⟨t₁, rfl, hpieces⟩, _, _, t₂, o₂, rfl, ⟨rfl, hsep⟩,
          hrest⟩
        simpa using PropertyCalls.cons hraw hpieces hsep hrest
      · rintro T o e t (⟨e', rfl, t₁, rfl, hpieces⟩ | ⟨_, _, _, o₁, rfl, ⟨t₁, rfl, hpieces⟩,
          ⟨rfl, hsep⟩ | ⟨_, _, t₂, o₂, rfl, ⟨rfl, hsep⟩, hrest⟩⟩)
        · simpa using PropertyStop.value hraw hpieces
        · simpa using PropertyStop.separator hraw hpieces hsep
        · simpa using PropertyStop.later hraw hpieces hsep hrest
    · rename_i e he
      exact Records.throw_bind fun _ _ => .getter he

theorem objectRecords_of_nestedRecords (hn : NestedRecords F S L depth) :
    ObjectRecords F S L depth := by
  intro m x
  rw [writeObject, writeObject]
  split
  · rename_i hty
    exact Records.throw_bind fun _ _ => .wrongType (by simpa using hty)
  · rename_i hty
    have hty : x.ty = m.ops.ty := by simpa using hty
    dsimp only
    refine Records.get_bind fun f _ _ hS => ?_
    dsimp only
    rw [hS]
    -- the object opens, its properties are written, it closes
    refine (Records.bind (Records.call fun _ => rfl) fun _ =>
      Records.bind (writeProperties_records hn m x 0 m.properties) fun _ =>
        Records.call fun _ => rfl).mono ?_ ?_
    · rintro T o _ t o' ⟨_, _, _, o₁, rfl, ⟨rfl, hopen⟩, _, t₁, _, o₂, rfl, hprops, rfl, hclose⟩
      simpa using FrameCalls.mk hty hopen hprops hclose
    · rintro T o e t (⟨rfl, hopen⟩ | ⟨_, _, _, o₁, rfl, ⟨rfl, hopen⟩,
        hprops | ⟨_, t₁, _, o₂, rfl, hprops, rfl, hclose⟩⟩)
      · exact .opening hty hopen
      · simpa using FrameStop.properties hty hopen hprops
      · simpa using FrameStop.closing hty hopen hprops hclose

theorem nestedRecords_of_objectRecords
    (ho : ¬ L < depth + 1 → ObjectRecords F S L (depth + 1)) : NestedRecords F S L depth := by
  intro r
  rw [serializeNested, serializeNested]
  by_cases hL : L < depth + 1
  · rw [dif_pos hL, dif_pos hL]
    exact Records.throw _ fun _ _ => .limit hL
  · rw [dif_neg hL, dif_neg hL]
    refine Records.get_bind fun f _ _ hS => ?_
    dsimp only
    rw [hS]
    split
    · rename_i hd
      exact Records.throw _ fun _ _ => .undescribed hL hd
    · rename_i d hd
      refine (Records.factory_mapperFor_bind fun mapper => ho hL mapper r.instance).mono ?_ ?_
      · rintro T o _ t o' ⟨mapper, hlookup, hframe⟩
        exact .frame hd hlookup hframe
      · rintro T o e t (⟨hnone, rfl⟩ | ⟨mapper, hlookup, hstop⟩)
        · exact .unbuilt hL hd hnone
        · exact .frame hL hd hlookup hstop

variable (F S) in
/-- Every frame's calls are recorded, at every depth. The recursion goes one level deeper at
each object handed back and stops at the limit. -/
theorem objectRecords (L depth : Nat) : ObjectRecords F S L depth :=
  objectRecords_of_nestedRecords <|
    nestedRecords_of_objectRecords fun _ => objectRecords L (depth + 1)
termination_by L - depth

end

section Write

variable {σ : Type} {F : Format σ} {S : Schema} {L : Nat} {m : Mapper} {x : Instance}

/-- The body of a write followed by the format's end, from the records of the body alone. -/
theorem Records.body_end {w : WriteM σ Unit} {w' : WriteM (σ × List TraceEntry) Unit}
    (h : Records S (fun T o _ t o' => BodyCalls F S T m x o t o')
      (fun T o e t => BodyStop F S T L m x o t e) w w') :
    Records S (fun T o _ t o' => ∃ t₁ o₁, t = t₁ ++ [.finish] ∧ BodyCalls F S T m x o t₁ o₁ ∧
        F.writeEnd o₁ = (.ok (), o'))
      (fun T o e t => BodyStop F S T L m x o t e ∨ ∃ t₁ o₁, t = t₁ ++ [.finish] ∧
        BodyCalls F S T m x o t₁ o₁ ∧ (F.writeEnd o₁).1 = .error e)
      (w >>= fun _ => WriteM.call F.writeEnd) (w' >>= fun _ => WriteM.call F.traced.writeEnd) := by
  refine (ObjectMapping.Records.bind h fun _ => ObjectMapping.Records.call fun _ => rfl).mono ?_ ?_
  · rintro T o _ t o' ⟨_, t₁, _, o₁, rfl, hbody, rfl, hend⟩
    exact ⟨t₁, o₁, rfl, hbody, hend⟩
  · rintro T o e t (hbody | ⟨_, t₁, _, o₁, rfl, hbody, rfl, hend⟩)
    · exact .inl hbody
    · exact .inr ⟨t₁, o₁, rfl, hbody, hend⟩

/-- A whole write: the format's begin, then a body followed by the format's end. -/
theorem Records.begin_body_end {w : WriteM σ Unit} {w' : WriteM (σ × List TraceEntry) Unit}
    (h : Records S (fun T o _ t o' => ∃ t₁ o₁, t = t₁ ++ [.finish] ∧ BodyCalls F S T m x o t₁ o₁ ∧
        F.writeEnd o₁ = (.ok (), o'))
      (fun T o e t => BodyStop F S T L m x o t e ∨ ∃ t₁ o₁, t = t₁ ++ [.finish] ∧
        BodyCalls F S T m x o t₁ o₁ ∧ (F.writeEnd o₁).1 = .error e) w w') :
    Records S (fun T o _ t o' => WriteCalls F S T m x o t o')
      (fun T o e t => WriteStop F S T L m x o t e)
      (WriteM.call F.writeBegin >>= fun _ => w) (WriteM.call F.traced.writeBegin >>= fun _ => w') := by
  refine (ObjectMapping.Records.bind (ObjectMapping.Records.call fun _ => rfl) fun _ => h).mono
    ?_ ?_
  · rintro T o _ t o' ⟨_, _, _, o₁, rfl, ⟨rfl, hbegin⟩, t₁, o₂, rfl, hbody, hend⟩
    exact .mk hbegin hbody hend
  · rintro T o e t (⟨rfl, hbegin⟩ | ⟨_, _, _, o₁, rfl, ⟨rfl, hbegin⟩, hbody | ⟨t₁, o₂, rfl, hbody,
      hend⟩⟩)
    · exact .begin hbegin
    · exact .body hbegin hbody
    · exact .finish hbegin hbody hend

end Write

/-- For every format, writing with `Format.traced F` writes what `F` writes and records its calls.
Those of a write that succeeds are begin, the frame of a record or the value of any other type,
then end, and the output is what they leave; those of a write that fails stop right after the
failing call or getter, and the write returns its error. -/
theorem write_calls {σ : Type} (F : Format σ) (m : Mapper) (x : Instance) (f : Factory) (out : σ) :
    ∃ t, WriteM.run (write F.traced m x) f (out, []) =
        ((WriteM.run (write F m x) f out).1, (WriteM.run (write F m x) f out).2.1,
          (WriteM.run (write F m x) f out).2.2, t) ∧
      ((WriteM.run (write F m x) f out).1 = .ok () →
        WriteCalls F f.schema (WriteM.run (write F m x) f out).2.1.cache m x out t
          (WriteM.run (write F m x) f out).2.2) ∧
      ∀ e, (WriteM.run (write F m x) f out).1 = .error e →
        WriteStop F f.schema (WriteM.run (write F m x) f out).2.1.cache f.config.maxDepth m x out
          t e := by
  unfold write
  rw [WriteM.run_bind_ok (WriteM.run_get f out), WriteM.run_bind_ok (WriteM.run_get f (out, []))]
  dsimp only
  suffices h : Records f.schema (fun T o _ t o' => WriteCalls F f.schema T m x o t o')
      (fun T o e t => WriteStop F f.schema T f.config.maxDepth m x o t e) _ _ by
    obtain ⟨t, hy, -, hok, hbad⟩ := h f out [] rfl
    exact ⟨t, hy, fun h => hok () h _ (List.prefix_refl _), hbad⟩
  refine Records.begin_body_end ?_
  -- the body: the frame of a record, or the value of any other type, each followed by end
  rcases hd : m.descriptor with _ | d
  · rcases hv : m.ops.value with _ | ops
    · exact Records.body_end (Records.throw _ fun _ _ => .valueless hd hv)
    · refine Records.get_bind fun g _ _ hS => ?_
      dsimp only
      rw [hS]
      split
      · rename_i hty
        exact Records.body_end (Records.throw _ fun _ _ => .wrongType hd hv (by simpa using hty))
      · rename_i hty
        have hty : x.ty = m.ops.ty := by simpa using hty
        rw [Format.traced_writeValue, writePieces]
        refine Records.body_end ((Records.record_bind (fun _ => rfl)
          (writePieces_records (nestedRecords_of_objectRecords fun _ =>
            objectRecords F f.schema f.config.maxDepth 1) _)).mono ?_ ?_)
        · rintro T o _ t o' ⟨t₁, rfl, hpieces⟩
          exact .value hd hv hty hpieces
        · rintro T o e t ⟨t₁, rfl, hpieces⟩
          exact .value hd hv hty hpieces
  · have hrecord : m.descriptor.isSome := by rw [hd]; rfl
    exact Records.body_end ((objectRecords F f.schema f.config.maxDepth 0 m x).mono
      (fun _ _ _ _ _ hframe => .record hrecord hframe) fun _ _ _ _ hstop => .record hrecord hstop)

end Mapper

end ObjectMapping
