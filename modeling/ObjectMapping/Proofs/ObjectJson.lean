import ObjectMapping.Proofs.JsonText
import ObjectMapping.Proofs.FactoryRun
import ObjectMapping.Catalogue.Types

/-!
# The JSON text of an object

A mapper writes an object as a frame: `{`, then each property as its external name and value,
each but the last followed by a comma, then `}`. The JSON format writes a value map the same
way, with the comma before each entry but the first. So an object is written as the value map
of its properties would be.

* `Mapper.expandObject` turns an instance into that value map: the properties in declaration
  order under their external names, and every object reached inside their values (in arrays,
  in maps, in what adapters give) expanded in its turn with the mapper of its type. It fails
  where the write would fail for other reasons than a float: a getter that fails, a mapper that
  cannot be built, objects nested deeper than the factory allows.
* `Writes`: what a write does from an output, given the text it should add and whether it
  should succeed.
* `writeObject_expands`: where the expansion succeeds, writing the object in JSON is writing
  the text of its expansion, and fails exactly when the expansion holds a NaN or an infinity.
-/

namespace ObjectMapping

namespace Mapper

mutual

/-- An instance as the value map of its properties, every object inside their values expanded
in turn. -/
def expandObject (limit depth : Nat) (m : Mapper) (x : Instance) : FactoryM Value := do
  if x.ty != m.ops.ty then throw (.shape (.wrongType m.typeName))
  let S := (← get).schema
  let entries ← expandProperties limit depth m x S m.properties
  pure (.map (.ofEntries entries))
termination_by (limit - depth, 4, 0)

/-- The properties' external names and expanded values, in declaration order. -/
def expandProperties (limit depth : Nat) (m : Mapper) (x : Instance) (S : Schema) :
    List MappedProperty → FactoryM (List (String × Value))
  | [] => pure []
  | p :: ps => do
    let raw ← match readProperty S m p x with
      | .ok v => pure v
      | .error e => throw e
    let v ← expandValue limit depth raw
    let rest ← expandProperties limit depth m x S ps
    pure ((p.name, v) :: rest)
termination_by ps => (limit - depth, 3, ps.length)

/-- A value with every object in it expanded. -/
def expandValue (limit depth : Nat) : Value → FactoryM Value
  | .object r => expandNested limit depth r
  | .array items => return .array (← expandItems limit depth items)
  | .map (.ofEntries es) => return .map (.ofEntries (← expandEntries limit depth es))
  | v => pure v
termination_by v => (limit - depth, 2, sizeOf v)

def expandItems (limit depth : Nat) : List Value → FactoryM (List Value)
  | [] => pure []
  | v :: vs => return (← expandValue limit depth v) :: (← expandItems limit depth vs)
termination_by vs => (limit - depth, 2, sizeOf vs)

def expandEntries (limit depth : Nat) : List (String × Value) → FactoryM (List (String × Value))
  | [] => pure []
  | (k, v) :: rest => return (k, ← expandValue limit depth v) :: (← expandEntries limit depth rest)
termination_by es => (limit - depth, 2, sizeOf es)

/-- An object inside a value, expanded with the mapper of its type one level deeper; past the
limit it fails before the mapper is looked up. -/
def expandNested (limit depth : Nat) (r : ObjectRef) : FactoryM Value :=
  if _ : limit < depth + 1 then throw (.depthExceeded limit)
  else do
    match (← get).schema.descriptor? r.ty with
    | none => throw (.config (.missingMapper r.ty.typeName))
    | some d =>
      let mapper ← Factory.mapperFor d
      expandObject limit (depth + 1) mapper r.instance
termination_by (limit - depth, 0, 0)
decreasing_by omega

end

end Mapper


/-! ## Writes that add a text -/

/-- What a write did from the output `out`: when `ok`, it succeeded, leaving the factory `f`
and the output `out ++ text`; otherwise it failed. -/
def Writes (r : Except MapError Unit × Factory × String) (f : Factory) (out : String)
    (ok : Bool) (text : String) : Prop :=
  (ok = true → r = (.ok (), f, out ++ text)) ∧
    (ok = false → ∃ e f' out', r = (.error e, f', out'))

namespace Writes

theorem emit {g : String → String} {out text : String} (h : g out = out ++ text) (f : Factory) :
    Writes (WriteM.run (WriteM.emit g) f out) f out true text :=
  ⟨fun _ => by rw [WriteM.run_emit, h], fun h => by cases h⟩

theorem call {g : String → String} {out text : String} (h : g out = out ++ text) (f : Factory) :
    Writes (WriteM.run (WriteM.call (FormatCall.append g)) f out) f out true text :=
  ⟨fun _ => by rw [WriteM.run_call_append, h], fun h => by cases h⟩

theorem congr {r : Except MapError Unit × Factory × String} {f : Factory} {out : String}
    {b b' : Bool} {t t' : String} (h : Writes r f out b t) (hb : b = b') (ht : t = t') :
    Writes r f out b' t' := by
  subst hb ht
  exact h

/-- Two writes one after the other add their texts one after the other, and succeed when both
do; the second is only run when the first succeeded. -/
theorem bind {x y : WriteM String Unit} {f f₁ f₂ : Factory} {out : String} {b₁ b₂ : Bool}
    {t₁ t₂ : String} (hx : Writes (WriteM.run x f out) f₁ out b₁ t₁)
    (hy : Writes (WriteM.run y f₁ (out ++ t₁)) f₂ (out ++ t₁) b₂ t₂) :
    Writes (WriteM.run (x >>= fun _ => y) f out) f₂ out (b₁ && b₂) (t₁ ++ t₂) := by
  cases b₁ with
  | false =>
    obtain ⟨e, f', out', hrun⟩ := hx.2 rfl
    refine ⟨fun h => absurd h (by simp), fun _ => ⟨e, f', out', ?_⟩⟩
    exact WriteM.run_bind_error hrun _
  | true =>
    rw [WriteM.run_bind_ok (hx.1 rfl)]
    refine ⟨fun h => ?_, fun h => hy.2 h⟩
    rw [hy.1 h, String.append_assoc]

/-- A handler that only fails again keeps what a write did. -/
theorem tryCatch {x : WriteM String Unit} {handler : MapError → WriteM String Unit}
    {f f₁ : Factory} {out : String} {b : Bool} {t : String}
    (h : Writes (WriteM.run x f out) f₁ out b t) (hhandler : ∀ e, ∃ e', handler e = throw e') :
    Writes (WriteM.run (MonadExcept.tryCatch x handler) f out) f₁ out b t := by
  refine ⟨fun hb => WriteM.run_tryCatch_ok (h.1 hb) handler, fun hb => ?_⟩
  obtain ⟨e, f', out', hrun⟩ := h.2 hb
  obtain ⟨e', he'⟩ := hhandler e
  exact ⟨e', f', out', by rw [WriteM.run_tryCatch_error hrun, he', WriteM.run_throw]⟩

end Writes

namespace Mapper

variable {σ : Type}

/-- Pieces one after the other are written one list after the other. -/
theorem run_writePieces_append (F : Format σ) (limit depth : Nat) (ps qs : List (Piece σ))
    (f : Factory) (out : σ) :
    WriteM.run (writePieces F limit depth (ps ++ qs)) f out =
      WriteM.run (writePieces F limit depth ps >>= fun _ => writePieces F limit depth qs) f out := by
  induction ps generalizing f out with
  | nil => simp [writePieces]
  | cons p ps ih =>
    cases p with
    | emit g =>
      rw [List.cons_append, writePieces, writePieces,
        WriteM.run_bind_ok (WriteM.run_emit g f out), ih]
      rfl
    | fail e => simp [writePieces]
    | nested r =>
      rw [List.cons_append, writePieces, writePieces, bind_assoc]
      generalize hn : WriteM.run (serializeNested F limit depth r) f out = q
      obtain ⟨res, f', out'⟩ := q
      cases res with
      | ok u => rw [WriteM.run_bind_ok hn, WriteM.run_bind_ok hn, ih]
      | error e => rw [WriteM.run_bind_error hn, WriteM.run_bind_error hn]

end Mapper

/-! ## Values -/

namespace Mapper

open JsonFormat ObjectMapping.Text

section

variable {limit depth : Nat}

theorem writes_emit_cons {g : String → String} {t : String} (hg : ∀ out, g out = out ++ t)
    {ps : List (Piece String)} {f f₁ : Factory} {out : String} {b : Bool} {u : String}
    (h : Writes (WriteM.run (writePieces format limit depth ps) f (out ++ t)) f₁ (out ++ t) b u) :
    Writes (WriteM.run (writePieces format limit depth (.emit g :: ps)) f out) f₁ out b (t ++ u) := by
  rw [writePieces]
  simpa using Writes.bind (Writes.emit (hg out) f) h

theorem writes_append {ps qs : List (Piece String)} {f f₁ f₂ : Factory} {out : String}
    {b₁ b₂ : Bool} {t₁ t₂ : String}
    (h₁ : Writes (WriteM.run (writePieces format limit depth ps) f out) f₁ out b₁ t₁)
    (h₂ : Writes (WriteM.run (writePieces format limit depth qs) f₁ (out ++ t₁)) f₂ (out ++ t₁)
      b₂ t₂) :
    Writes (WriteM.run (writePieces format limit depth (ps ++ qs)) f out) f₂ out (b₁ && b₂)
      (t₁ ++ t₂) := by
  rw [run_writePieces_append]
  exact Writes.bind h₁ h₂

theorem writes_nil (f : Factory) (out : String) :
    Writes (WriteM.run (writePieces format limit depth []) f out) f out true "" :=
  ⟨fun _ => by simp [writePieces], fun h => by cases h⟩

theorem writes_separator (first : Bool) (f : Factory) (out : String) :
    Writes (WriteM.run (writePieces format limit depth
      (if first then [] else [.emit (· ++ ",")])) f out) f out true (if first then "" else ",") := by
  cases first with
  | true => exact writes_nil f out
  | false => simpa using writes_emit_cons (fun _ => rfl) (writes_nil f (out ++ ","))

/-- A value with no object in it is written as its text, and fails exactly at a NaN or an
infinity. -/
theorem writes_flat {v : Value} (hv : v.objects = []) (f : Factory) (out : String) :
    Writes (WriteM.run (writePieces format limit depth (pieces v)) f out) f out v.allFinite
      v.jsonText := by
  rw [run_writePieces_of_flat format limit depth (pieces_flat v hv)]
  refine ⟨fun hfin => by rw [runAll_pieces v hv hfin], fun hfin => ?_⟩
  obtain ⟨text, out', hrun⟩ := runAll_pieces_of_not_allFinite v hv hfin out
  exact ⟨_, f, out', by rw [hrun]⟩


variable (limit depth) in
/-- Writing an object inside a value at this depth in JSON writes the text of its expansion,
in which no object is left. -/
def NestedWrites : Prop :=
  ∀ r f v f₁ out, Factory.run (expandNested limit depth r) f = (.ok v, f₁) →
    v.objects = [] ∧
      Writes (WriteM.run (serializeNested format limit depth r) f out) f₁ out v.allFinite
        v.jsonText

mutual

/-- Writing a value in JSON writes the text of its expansion. -/
theorem writes_expandValue (hn : NestedWrites limit depth) : ∀ (raw : Value) (f : Factory)
    (v : Value) (f₁ : Factory) (out : String),
    Factory.run (expandValue limit depth raw) f = (.ok v, f₁) →
    v.objects = [] ∧
      Writes (WriteM.run (writePieces format limit depth (pieces raw)) f out) f₁ out v.allFinite
        v.jsonText
  | .object r => by
    intro f v f₁ out h
    rw [expandValue] at h
    obtain ⟨hobj, hw⟩ := hn r f v f₁ out h
    refine ⟨hobj, ?_⟩
    have hpieces : pieces (.object r) = [Piece.nested r] := rfl
    rw [hpieces, writePieces, writePieces, bind_pure_unit]
    exact hw
  | .array items => by
    intro f v f₁ out h
    rw [expandValue] at h
    obtain ⟨vs, f', hitems, hret⟩ := Factory.run_bind_eq_ok h
    simp only [Factory.run_pure, Prod.mk.injEq, Except.ok.injEq] at hret
    obtain ⟨rfl, rfl⟩ := hret
    obtain ⟨hobj, hw⟩ := writes_expandItems hn items true f vs f' (out ++ "[") hitems
    refine ⟨hobj, ?_⟩
    have hpieces : pieces (.array items) =
        .emit (· ++ "[") :: (itemPieces true items ++ [.emit (· ++ "]")]) := rfl
    rw [hpieces]
    refine Writes.congr (writes_emit_cons (fun _ => rfl)
      (writes_append hw (writes_emit_cons (fun _ => rfl) (writes_nil _ _)))) ?_ ?_
    · simp [Value.allFinite]
    · simp [Value.jsonText, String.append_assoc]
  | .map (.ofEntries es) => by
    intro f v f₁ out h
    rw [expandValue] at h
    obtain ⟨es', f', hentries, hret⟩ := Factory.run_bind_eq_ok h
    simp only [Factory.run_pure, Prod.mk.injEq, Except.ok.injEq] at hret
    obtain ⟨rfl, rfl⟩ := hret
    obtain ⟨hobj, hw⟩ := writes_expandEntries hn es true f es' f' (out ++ "\x7b") hentries
    refine ⟨hobj, ?_⟩
    have hpieces : pieces (.map (.ofEntries es)) =
        .emit (· ++ "\x7b") :: (entryPieces true es ++ [.emit (· ++ "\x7d")]) := rfl
    rw [hpieces]
    refine Writes.congr (writes_emit_cons (fun _ => rfl)
      (writes_append hw (writes_emit_cons (fun _ => rfl) (writes_nil _ _)))) ?_ ?_
    · simp [Value.allFinite]
    · simp [Value.jsonText, String.append_assoc]
  | .null | .bool _ | .byte _ | .short _ | .int _ | .long _ | .float _ | .double _ | .char _
  | .string _ => by
    intro f v f₁ out h
    simp only [expandValue, Factory.run_pure, Prod.mk.injEq, Except.ok.injEq] at h
    obtain ⟨rfl, rfl⟩ := h
    exact ⟨rfl, writes_flat rfl f out⟩

theorem writes_expandItems (hn : NestedWrites limit depth) : ∀ (items : List Value)
    (first : Bool) (f : Factory) (vs : List Value) (f₁ : Factory) (out : String),
    Factory.run (expandItems limit depth items) f = (.ok vs, f₁) →
    Value.objectsList vs = [] ∧
      Writes (WriteM.run (writePieces format limit depth (itemPieces first items)) f out) f₁ out
        (Value.allFiniteList vs) (Value.jsonTextItems first vs)
  | [] => by
    intro first f vs f₁ out h
    rw [expandItems] at h
    simp only [Factory.run_pure, Prod.mk.injEq, Except.ok.injEq] at h
    obtain ⟨rfl, rfl⟩ := h
    exact ⟨rfl, writes_nil f out⟩
  | raw :: raws => by
    intro first f vs f₁ out h
    rw [expandItems] at h
    obtain ⟨v, f', hv, h⟩ := Factory.run_bind_eq_ok h
    obtain ⟨rest, f'', hrest, hret⟩ := Factory.run_bind_eq_ok h
    simp only [Factory.run_pure, Prod.mk.injEq, Except.ok.injEq] at hret
    obtain ⟨rfl, rfl⟩ := hret
    -- the separator, the item, then the other items, each from where the last one stopped
    have hsep := @writes_separator limit depth first f out
    obtain ⟨hobj, hw⟩ := writes_expandValue hn raw f v f' (out ++ if first then "" else ",") hv
    obtain ⟨hobjs, hws⟩ := writes_expandItems hn raws false f' rest f''
      (out ++ ((if first then "" else ",") ++ v.jsonText)) hrest
    refine ⟨by simp [Value.objectsList, hobj, hobjs], ?_⟩
    refine Writes.congr (writes_append (writes_append hsep hw) hws) ?_ ?_
    · simp [Value.allFiniteList]
    · simp [Value.jsonTextItems, String.append_assoc]

theorem writes_expandEntries (hn : NestedWrites limit depth) : ∀ (es : List (String × Value))
    (first : Bool) (f : Factory) (es' : List (String × Value)) (f₁ : Factory) (out : String),
    Factory.run (expandEntries limit depth es) f = (.ok es', f₁) →
    Value.objectsEntries es' = [] ∧
      Writes (WriteM.run (writePieces format limit depth (entryPieces first es)) f out) f₁ out
        (Value.allFiniteEntries es') (Value.jsonTextEntries first es')
  | [] => by
    intro first f es' f₁ out h
    rw [expandEntries] at h
    simp only [Factory.run_pure, Prod.mk.injEq, Except.ok.injEq] at h
    obtain ⟨rfl, rfl⟩ := h
    exact ⟨rfl, writes_nil f out⟩
  | (k, raw) :: rest => by
    intro first f es' f₁ out h
    rw [expandEntries] at h
    obtain ⟨v, f', hv, h⟩ := Factory.run_bind_eq_ok h
    obtain ⟨rest', f'', hrest, hret⟩ := Factory.run_bind_eq_ok h
    simp only [Factory.run_pure, Prod.mk.injEq, Except.ok.injEq] at hret
    obtain ⟨rfl, rfl⟩ := hret
    have hsep := @writes_separator limit depth first f out
    have hkey := @writes_emit_cons limit depth (· ++ jsonQuote k ++ ":") (jsonQuote k ++ ":")
      (fun _ => String.append_assoc) [] f f (out ++ if first then "" else ",") true ""
      (writes_nil f _)
    obtain ⟨hobj, hw⟩ := writes_expandValue hn raw f v f'
      (out ++ ((if first then "" else ",") ++ (jsonQuote k ++ ":" ++ ""))) hv
    obtain ⟨hobjs, hws⟩ := writes_expandEntries hn rest false f' rest' f''
      (out ++ ((if first then "" else ",") ++ (jsonQuote k ++ ":" ++ "") ++ v.jsonText)) hrest
    refine ⟨by simp [Value.objectsEntries, hobj, hobjs], ?_⟩
    refine Writes.congr (writes_append (writes_append (writes_append hsep hkey) hw) hws) ?_ ?_
    · simp [Value.allFiniteEntries]
    · simp [Value.jsonTextEntries, String.append_assoc]

end


/-! ## Frames -/

/-- The text a frame writes for its properties: each name and value, and a comma after each but
the last. The first property here is number `i`, and `last` is the number of the last one. -/
def frameText (last : Nat) : Nat → List (String × Value) → String
  | _, [] => ""
  | i, (k, v) :: rest =>
    jsonQuote k ++ ":" ++ v.jsonText ++ (if i == last then "" else ",") ++
      frameText last (i + 1) rest

/-- A comma before the properties that remain, up to the last, is the text of map entries that
are not first: the comma after each entry moves before the next. -/
theorem comma_frameText (last : Nat) : ∀ (i : Nat) (es : List (String × Value)), es ≠ [] →
    i + es.length = last + 1 → "," ++ frameText last i es = Value.jsonTextEntries false es
  | _, [], hne, _ => absurd rfl hne
  | i, [(k, v)], _, hlen => by
    have hi : i = last := by simpa using hlen
    simp [frameText, Value.jsonTextEntries, hi, String.append_assoc]
  | i, (k, v) :: e :: rest, _, hlen => by
    have hi : (i == last) = false := by
      simp only [List.length_cons] at hlen
      simp only [beq_eq_false_iff_ne]
      omega
    have hrest := comma_frameText last (i + 1) (e :: rest) (List.cons_ne_nil e rest)
      (by simp only [List.length_cons] at hlen ⊢; omega)
    rw [frameText, hi, Value.jsonTextEntries, ← hrest]
    simp [String.append_assoc]

/-- The properties of a frame are written as the entries of a map. -/
theorem frameText_eq_jsonTextEntries (es : List (String × Value)) :
    frameText (es.length - 1) 0 es = Value.jsonTextEntries true es := by
  match es with
  | [] => rfl
  | [(k, v)] => simp [frameText, Value.jsonTextEntries]
  | (k, v) :: e :: rest =>
    have h0 : (0 == (e :: rest).length) = false := by simp
    have hrest := comma_frameText (e :: rest).length 1 (e :: rest) (List.cons_ne_nil e rest)
      (by simp only [List.length_cons]; omega)
    rw [show ((k, v) :: e :: rest).length - 1 = (e :: rest).length by simp, frameText, h0,
      Value.jsonTextEntries, ← hrest]
    simp [String.append_assoc]

/-- Writing the properties from number `i` on writes their names and the texts of their
expanded values, each but the last followed by a comma. -/
theorem writes_expandProperties (hn : NestedWrites limit depth) (m : Mapper) (x : Instance)
    (S : Schema) (last : Nat) : ∀ (ps : List MappedProperty) (i : Nat) (f : Factory)
    (es : List (String × Value)) (f₁ : Factory) (out : String),
    Factory.run (expandProperties limit depth m x S ps) f = (.ok es, f₁) →
    es.map Prod.fst = ps.map (·.name) ∧ Value.objectsEntries es = [] ∧
      Writes (WriteM.run (writeProperties format limit depth m x S last i ps) f out) f₁ out
        (Value.allFiniteEntries es) (frameText last i es)
  | [] => by
    intro i f es f₁ out h
    rw [expandProperties] at h
    simp only [Factory.run_pure, Prod.mk.injEq, Except.ok.injEq] at h
    obtain ⟨rfl, rfl⟩ := h
    refine ⟨rfl, rfl, fun _ => ?_, fun h => by cases h⟩
    simp [writeProperties, frameText]
  | p :: ps => by
    intro i f es f₁ out h
    rw [expandProperties] at h
    cases hread : readProperty S m p x with
    | error e => simp [hread] at h
    | ok raw =>
      simp only [hread] at h
      rw [Factory.run_bind_ok (Factory.run_pure raw f)] at h
      obtain ⟨v, f', hv, h⟩ := Factory.run_bind_eq_ok h
      obtain ⟨rest, f'', hrest, hret⟩ := Factory.run_bind_eq_ok h
      simp only [Factory.run_pure, Prod.mk.injEq, Except.ok.injEq] at hret
      obtain ⟨rfl, rfl⟩ := hret
      -- the name and the value, under a handler that only names the property; the separator;
      -- then the other properties
      have hname : Writes (WriteM.run (writePieces format limit depth
          [.emit (· ++ jsonQuote p.name ++ ":")]) f out) f out true (jsonQuote p.name ++ ":" ++ "") :=
        writes_emit_cons (fun _ => String.append_assoc) (writes_nil f _)
      obtain ⟨hobj, hvalue⟩ := writes_expandValue hn raw f v f'
        (out ++ (jsonQuote p.name ++ ":" ++ "")) hv
      have hsep : Writes (WriteM.run (WriteM.call (format.writeSeparator (i == 0) (i == last))) f'
          (out ++ (jsonQuote p.name ++ ":" ++ "" ++ v.jsonText)))
          f' (out ++ (jsonQuote p.name ++ ":" ++ "" ++ v.jsonText)) true
          (if i == last then "" else ",") := by
        refine Writes.call ?_ f'
        cases i == last <;> simp [format]
      obtain ⟨hkeys, hobjs, hprops⟩ := writes_expandProperties hn m x S last ps (i + 1) f' rest
        f'' (out ++ (jsonQuote p.name ++ ":" ++ "" ++ v.jsonText) ++
          (if i == last then "" else ",")) hrest
      refine ⟨by simp [hkeys], by simp [Value.objectsEntries, hobj, hobjs], ?_⟩
      rw [writeProperties]
      simp only [hread]
      rw [WriteM.run_bind_ok (WriteM.run_pure raw f out)]
      refine Writes.congr (Writes.bind (Writes.tryCatch (writes_append hname hvalue)
        (fun _ => ⟨_, rfl⟩)) (Writes.bind hsep hprops)) ?_ ?_
      · simp [Value.allFiniteEntries]
      · simp [frameText, String.append_assoc]

/-! ## Objects -/

variable (limit depth) in
/-- Writing an object at this depth in JSON writes the text of its expansion: the value map of
its properties under their external names, in declaration order, with no object left inside. -/
def ObjectWrites : Prop :=
  ∀ m x f v f₁ out, Factory.run (expandObject limit depth m x) f = (.ok v, f₁) →
    (∃ es, v = .map (.ofEntries es) ∧ es.map Prod.fst = m.properties.map (·.name)) ∧
      v.objects = [] ∧
      Writes (WriteM.run (writeObject format limit depth m x) f out) f₁ out v.allFinite v.jsonText

theorem objectWrites_of_nestedWrites (hn : NestedWrites limit depth) :
    ObjectWrites limit depth := by
  intro m x f v f₁ out h
  rw [expandObject] at h
  rw [writeObject]
  cases hty : (x.ty != m.ops.ty) with
  | true => simp [hty] at h
  | false =>
    simp only [hty, Bool.false_eq_true, if_false] at h ⊢
    rw [Factory.run_bind_ok (Factory.run_get f)] at h
    obtain ⟨es, f', hprops, hret⟩ := Factory.run_bind_eq_ok h
    simp only [Factory.run_pure, Prod.mk.injEq, Except.ok.injEq] at hret
    obtain ⟨rfl, rfl⟩ := hret
    -- the frame opens, the properties are written numbered from `0` to the last, the frame closes
    obtain ⟨hkeys, hobjs, hw⟩ := writes_expandProperties hn m x f.schema
      (m.properties.length - 1) m.properties 0 f es f' (out ++ "\x7b") hprops
    have hlen : es.length = m.properties.length := by simpa using congrArg List.length hkeys
    refine ⟨⟨es, rfl, hkeys⟩, hobjs, ?_⟩
    have hopen : Writes (WriteM.run (WriteM.call format.writeBeginObject) f out) f out true
        "\x7b" := Writes.call (g := (· ++ "\x7b")) rfl f
    have hclose : Writes (WriteM.run (WriteM.call format.writeEndObject) f'
        (out ++ "\x7b" ++ frameText (m.properties.length - 1) 0 es)) f'
        (out ++ "\x7b" ++ frameText (m.properties.length - 1) 0 es) true "\x7d" :=
      Writes.call (g := (· ++ "\x7d")) rfl f'
    rw [WriteM.run_bind_ok (WriteM.run_get f out)]
    refine Writes.congr (Writes.bind hopen (Writes.bind hw hclose)) ?_ ?_
    · simp [Value.allFinite]
    · rw [← hlen, frameText_eq_jsonTextEntries]
      simp [Value.jsonText, String.append_assoc]

/-- Past the limit an object inside a value is never expanded, and there is nothing to show. -/
theorem nestedWrites_of_lt (h : limit < depth + 1) : NestedWrites limit depth := by
  intro r f v f₁ out hrun
  rw [expandNested, dif_pos h] at hrun
  cases hrun

/-- An object inside a value is written with the mapper of its type one level deeper, the
mapper the expansion looks up. -/
theorem nestedWrites_of_objectWrites (ho : ObjectWrites limit (depth + 1)) :
    NestedWrites limit depth := by
  intro r f v f₁ out h
  by_cases hlim : limit < depth + 1
  · exact nestedWrites_of_lt hlim r f v f₁ out h
  rw [expandNested, dif_neg hlim, Factory.run_bind_ok (Factory.run_get f)] at h
  rw [serializeNested, dif_neg hlim, WriteM.run_bind_ok (WriteM.run_get f out)]
  cases hd : f.schema.descriptor? r.ty with
  | none => simp [hd] at h
  | some d =>
    simp only [hd] at h ⊢
    obtain ⟨mapper, f', hmap, h⟩ := Factory.run_bind_eq_ok h
    obtain ⟨-, hobjs, hw⟩ := ho mapper r.instance f' v f₁ out h
    refine ⟨hobjs, ?_⟩
    rw [WriteM.run_bind_ok (by rw [WriteM.run_factory, hmap])]
    exact hw

end

/-- Every object is written in JSON as the text of its expansion, at every depth. The
recursion goes one level deeper at each object inside a value and stops at the limit. -/
theorem objectWrites (limit depth : Nat) : ObjectWrites limit depth :=
  objectWrites_of_nestedWrites <|
    if h : limit < depth + 1 then nestedWrites_of_lt h
    else nestedWrites_of_objectWrites (objectWrites limit (depth + 1))
termination_by limit - depth

/-- The expansion of an instance from a factory: from depth `0`, under the factory's limit of
nesting, as a write of the instance starts. -/
def expansion (f : Factory) (m : Mapper) (x : Instance) : Except MapError Value :=
  (Factory.run (expandObject f.config.maxDepth 0 m x) f).1

/-- A record whose expansion succeeds is written in JSON, between the format's begin and end,
as the text of its expansion: a value map of its properties with no object left inside. -/
theorem writes_write {m : Mapper} (hd : m.descriptor.isSome = true) {f : Factory} {x : Instance}
    {v : Value} (h : expansion f m x = .ok v) (out : String) :
    (∃ es, v = .map (.ofEntries es) ∧ es.map Prod.fst = m.properties.map (·.name)) ∧
      v.objects = [] ∧ ∃ f₁, Writes (WriteM.run (write format m x) f out) f₁ out v.allFinite
        v.jsonText := by
  obtain ⟨d, hd⟩ := Option.isSome_iff_exists.mp hd
  have hrun : Factory.run (expandObject f.config.maxDepth 0 m x) f =
      (.ok v, (Factory.run (expandObject f.config.maxDepth 0 m x) f).2) := Prod.ext h rfl
  obtain ⟨hshape, hobjs, hw⟩ := objectWrites f.config.maxDepth 0 m x f v _ (out ++ "") hrun
  generalize (Factory.run (expandObject f.config.maxDepth 0 m x) f).2 = f₁ at hw
  refine ⟨hshape, hobjs, f₁, ?_⟩
  have hbegin : Writes (WriteM.run (WriteM.call format.writeBegin) f out) f out true "" :=
    Writes.call (g := id) String.append_empty.symm f
  have hend : Writes (WriteM.run (WriteM.call format.writeEnd) f₁ (out ++ "" ++ v.jsonText)) f₁
      (out ++ "" ++ v.jsonText) true "" :=
    Writes.call (g := id) String.append_empty.symm f₁
  unfold write
  rw [WriteM.run_bind_ok (WriteM.run_get f out)]
  simp only [hd]
  refine Writes.congr (Writes.bind hbegin (Writes.bind hw hend)) ?_ ?_
  · simp
  · simp

end Mapper

namespace JsonFormat

/-- The JSON text of an instance as its mapper writes it from a factory, as the `serialize`
request answers it: the text, or why the instance cannot be written. -/
def serializeText (f : Factory) (m : Mapper) (x : Instance) : Except MapError String :=
  match WriteM.run (Mapper.write format m x) f "" with
  | (.ok (), _, out) => .ok out
  | (.error e, _, _) => .error e

theorem serializeText_of_writes {f f₁ : Factory} {m : Mapper} {x : Instance} {b : Bool}
    {t : String} (h : Writes (WriteM.run (Mapper.write format m x) f "") f₁ "" b t) :
    (b = true → serializeText f m x = .ok t) ∧ (b = false → ∃ e, serializeText f m x = .error e) := by
  refine ⟨fun hb => ?_, fun hb => ?_⟩
  · rw [serializeText, h.1 hb, String.empty_append]
  · obtain ⟨e, f', out', hrun⟩ := h.2 hb
    exact ⟨e, by rw [serializeText, hrun]⟩

/-- A record whose expansion succeeds is written in JSON exactly as its expansion is written
on its own: the same text, or a failure in both, which happens exactly when the expansion
holds a NaN or an infinity. The expansion is a value map whose keys are the external names of
the mapper's properties in declaration order, with no object left inside, so a record with no
properties is written `{}`. -/
theorem serializeText_eq_writeText_expansion (f : Factory) (m : Mapper) (x : Instance)
    (v : Value) (hd : m.descriptor.isSome = true) (h : Mapper.expansion f m x = .ok v) :
    (∀ s, serializeText f m x = .ok s ↔ writeText f v = .ok s) ∧
      ((∃ e, serializeText f m x = .error e) ↔ v.allFinite = false) ∧
      v.objects = [] ∧
      (∃ es, v = .map (.ofEntries es) ∧ es.map Prod.fst = m.properties.map (·.name)) ∧
      (m.properties = [] → serializeText f m x = .ok "\x7b\x7d") := by
  obtain ⟨hshape, hobjs, f₁, hw⟩ := Mapper.writes_write hd h ""
  have hser := serializeText_of_writes hw
  have hfail : (∃ e, serializeText f m x = .error e) ↔ v.allFinite = false := by
    constructor
    · rintro ⟨e, he⟩
      cases hfin : v.allFinite with
      | false => rfl
      | true => rw [hser.1 hfin] at he; cases he
    · exact hser.2
  refine ⟨fun s => ?_, hfail, hobjs, hshape, fun hnil => ?_⟩
  · cases hfin : v.allFinite with
    | true => rw [hser.1 hfin, writeText_of_allFinite f hobjs hfin]
    | false =>
      obtain ⟨e, he⟩ := hser.2 hfin
      obtain ⟨e', he'⟩ := (writeText_error_iff f hobjs).2 hfin
      rw [he, he']
      simp
  · obtain ⟨es, rfl, hkeys⟩ := hshape
    rw [hnil, List.map_nil, List.map_eq_nil_iff] at hkeys
    subst hkeys
    exact hser.1 rfl

/-- A result that compares equal to an integer value is that value. -/
theorem eq_int_of_toOption_beq {x : Except MapError Value} {n : Int32}
    (h : (x.toOption == some (.int n)) = true) : x = .ok (.int n) := by
  rcases x with e | v
  · cases h
  · cases v with
    | int a =>
      have hint : (a == n) = true := h
      rw [beq_iff_eq.mp hint]
    | map m =>
      cases m
      cases h
    | _ => cases h

/-- The point (1, 2) of the catalogue, as a fresh instance. -/
def pointOneTwo : Instance := ⟨Catalogue.point, .record [.int 1, .int 2], .created 0⟩

/-- The catalogue's `Point` is written by the mapper a fresh factory builds for it as
`{"x":1,"y":2}`: its properties' frames under their external names, separated by a comma, as
the text of its expansion. -/
theorem point_written_as_its_expansion :
    ∃ m f, Factory.run (Factory.createOrGet Catalogue.point) { schema := Catalogue.schema } =
        (.ok m, f) ∧ m.descriptor.isSome = true ∧
      Mapper.expansion f m pointOneTwo = .ok (.map (.ofEntries [("x", .int 1), ("y", .int 2)])) ∧
      serializeText f m pointOneTwo = .ok "\x7b\"x\":1,\"y\":2\x7d" := by
  have hbuilt :
      (let r := Factory.run (Factory.createOrGet Catalogue.point) { schema := Catalogue.schema }
      r.1.toOption.map fun m => m.descriptor.isSome && m.ops.ty == Catalogue.point &&
        m.properties.map (·.name) == ["x", "y"] &&
        m.properties.map (fun p => (Mapper.readProperty r.2.schema m p pointOneTwo).toOption) ==
          [some (.int 1), some (.int 2)]) = some true := by
    decide +kernel
  rcases hrun : Factory.run (Factory.createOrGet Catalogue.point) { schema := Catalogue.schema }
    with ⟨_ | m, f⟩
  · simp [hrun] at hbuilt
  simp only [hrun, Except.toOption_ok, Option.map_some, Option.some.injEq, Bool.and_eq_true,
    beq_iff_eq] at hbuilt
  obtain ⟨⟨⟨hd, hty⟩, hnames⟩, hvals⟩ := hbuilt
  rcases hps : m.properties with _ | ⟨p, _ | ⟨q, _ | ⟨_, _⟩⟩⟩ <;>
    simp only [hps, List.map_nil, List.map_cons, reduceCtorEq, List.cons.injEq, and_false] at hnames
  obtain ⟨hp, hq, -⟩ := hnames
  simp only [hps, List.map_cons, List.map_nil, List.cons_beq_cons, Bool.and_eq_true] at hvals
  obtain ⟨hx, hy, -⟩ := hvals
  have hexp : Mapper.expansion f m pointOneTwo =
      .ok (.map (.ofEntries [("x", .int 1), ("y", .int 2)])) := by
    rw [Mapper.expansion, Mapper.expandObject, show pointOneTwo.ty = Catalogue.point from rfl, hty]
    simp only [bne_self_eq_false, Bool.false_eq_true, if_false]
    rw [Factory.run_bind_ok (Factory.run_get f), hps, Mapper.expandProperties,
      eq_int_of_toOption_beq hx, Mapper.expandProperties, eq_int_of_toOption_beq hy,
      Mapper.expandProperties, hp, hq]
    simp only [pure_bind, Mapper.expandValue]
    rfl
  have hobjs : Value.objects (.map (.ofEntries [("x", .int 1), ("y", .int 2)])) = [] := by decide
  have htext : Value.jsonText (.map (.ofEntries [("x", .int 1), ("y", .int 2)])) =
      "\x7b\"x\":1,\"y\":2\x7d" := by decide +kernel
  refine ⟨m, f, rfl, hd, hexp, ?_⟩
  rw [(serializeText_eq_writeText_expansion f m pointOneTwo _ hd hexp).1,
    writeText_of_allFinite f hobjs (by decide), htext]

end JsonFormat

end ObjectMapping
