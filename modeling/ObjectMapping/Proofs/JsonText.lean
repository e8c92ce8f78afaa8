import ObjectMapping.Format.Json
import ObjectMapping.Format.Trace
import ObjectMapping.Proofs.Writer
import ObjectMapping.Proofs.ValueMap
import Mathlib

/-!
# The JSON text of a value

What the JSON format writes for a value that holds no object, and the shape of the values its
reader gives back.

* `Value.jsonText`: the text, items and entries separated by commas, strings and keys quoted by
  `jsonQuote`, integers in decimal, floats by `Notation.json32` and `Notation.json64`.
* `JsonFormat.writeText`: a value written on its own, as the `write` request writes it.
  `writeText_of_allFinite`: a value whose floats are all finite is written as its text;
  `writeText_error_iff`, `writeText_error`: the write fails exactly when a float is NaN or
  infinite, and then with `ShapeError.outOfRange` against `JSON`.
* `Value.normalize`: every integer as `int` when it fits 32 bits and `long` otherwise, a
  character as a one-character string, arrays and maps entry by entry. It leaves the text alone
  (`jsonText_normalize`).
* `Value.WellKeyed` (every map has distinct keys, as insertion keeps them) and `Value.nesting`
  (how deeply arrays and maps nest) are the conditions under which the text reads back.
-/

namespace ObjectMapping

open ObjectMapping.Float ObjectMapping.Text

theorem IntType.contains_i32 {n : Int} :
    IntType.i32.contains n = true ↔ -2 ^ 31 ≤ n ∧ n ≤ 2 ^ 31 - 1 := by
  simp [IntType.contains, IntType.min, IntType.max, IntType.signed, IntType.bits]

namespace Value

/-! ## Conditions on values -/

mutual

/-- Every float and double in the value is finite. -/
def allFinite : Value → Bool
  | .float x => x.isFinite
  | .double x => x.isFinite
  | .array items => allFiniteList items
  | .map (.ofEntries es) => allFiniteEntries es
  | _ => true

def allFiniteList : List Value → Bool
  | [] => true
  | v :: vs => allFinite v && allFiniteList vs

def allFiniteEntries : List (String × Value) → Bool
  | [] => true
  | (_, v) :: rest => allFinite v && allFiniteEntries rest

end

mutual

/-- The value holds a float or a double. -/
def hasFloat : Value → Bool
  | .float _ | .double _ => true
  | .array items => hasFloatList items
  | .map (.ofEntries es) => hasFloatEntries es
  | _ => false

def hasFloatList : List Value → Bool
  | [] => false
  | v :: vs => hasFloat v || hasFloatList vs

def hasFloatEntries : List (String × Value) → Bool
  | [] => false
  | (_, v) :: rest => hasFloat v || hasFloatEntries rest

end

mutual

/-- Every value map in the value has pairwise distinct keys, as maps built by insertion have. -/
def WellKeyed : Value → Prop
  | .array items => WellKeyedList items
  | .map (.ofEntries es) => (ValueMap.keysOf es).Nodup ∧ WellKeyedEntries es
  | _ => True

def WellKeyedList : List Value → Prop
  | [] => True
  | v :: vs => WellKeyed v ∧ WellKeyedList vs

def WellKeyedEntries : List (String × Value) → Prop
  | [] => True
  | (_, v) :: rest => WellKeyed v ∧ WellKeyedEntries rest

end

mutual

/-- How deeply arrays and maps nest: a scalar is at `0`, an array or a map one above its
deepest member. -/
def nesting : Value → Nat
  | .array items => nestingList items + 1
  | .map (.ofEntries es) => nestingEntries es + 1
  | _ => 0

def nestingList : List Value → Nat
  | [] => 0
  | v :: vs => max (nesting v) (nestingList vs)

def nestingEntries : List (String × Value) → Nat
  | [] => 0
  | (_, v) :: rest => max (nesting v) (nestingEntries rest)

end

/-! ## The text -/

mutual

/-- The JSON text of a value with no object in it (an object has no text of its own: the
mapper of its type writes it). -/
def jsonText : Value → String
  | .null => "null"
  | .bool b => if b then "true" else "false"
  | .byte n => toString n.toInt
  | .short n => toString n.toInt
  | .int n => toString n.toInt
  | .long n => toString n.toInt
  | .float x => x.render .json32
  | .double x => x.render .json64
  | .char c => jsonQuote (String.singleton c)
  | .string s => jsonQuote s
  | .array items => "[" ++ jsonTextItems true items ++ "]"
  | .map (.ofEntries es) => "\x7b" ++ jsonTextEntries true es ++ "\x7d"
  | .object _ => ""

/-- Items, each but the first after a comma. -/
def jsonTextItems : Bool → List Value → String
  | _, [] => ""
  | first, v :: vs => (if first then "" else ",") ++ jsonText v ++ jsonTextItems false vs

/-- Entries as `"key":value`, each but the first after a comma. -/
def jsonTextEntries : Bool → List (String × Value) → String
  | _, [] => ""
  | first, (k, v) :: rest =>
    (if first then "" else ",") ++ jsonQuote k ++ ":" ++ jsonText v ++ jsonTextEntries false rest

end

/-! ## Normal form -/

mutual

/-- The value as its JSON text reads back: an integer of any width is `int` when it fits 32
bits and `long` otherwise, a character is a string of one character; arrays and maps are
normalized member by member, keeping the order of their entries. -/
def normalize : Value → Value
  | .byte n => ofInteger n.toInt
  | .short n => ofInteger n.toInt
  | .int n => ofInteger n.toInt
  | .long n => ofInteger n.toInt
  | .char c => .string (String.singleton c)
  | .array items => .array (normalizeList items)
  | .map (.ofEntries es) => .map (.ofEntries (normalizeEntries es))
  | v => v

def normalizeList : List Value → List Value
  | [] => []
  | v :: vs => normalize v :: normalizeList vs

def normalizeEntries : List (String × Value) → List (String × Value)
  | [] => []
  | (k, v) :: rest => (k, normalize v) :: normalizeEntries rest

end

/-- An integer of the 64-bit signed range is written as its decimal digits, in whichever width
`ofInteger` gives it. -/
theorem jsonText_ofInteger {n : Int} (hlo : -2 ^ 63 ≤ n) (hhi : n < 2 ^ 63) :
    (ofInteger n).jsonText = toString n := by
  unfold ofInteger
  split
  · rename_i h
    obtain ⟨h32lo, h32hi⟩ := IntType.contains_i32.mp h
    have hfit : (Int32.ofInt n).toInt = n := Int32.toInt_ofInt_of_le h32lo (by omega)
    simp [jsonText, hfit]
  · have hfit : (Int64.ofInt n).toInt = n := Int64.toInt_ofInt_of_le hlo hhi
    simp [jsonText, hfit]

theorem int8_toInt_mem (n : Int8) : -2 ^ 63 ≤ n.toInt ∧ n.toInt < 2 ^ 63 := by
  have := n.le_toInt
  have := n.toInt_lt
  constructor <;> omega

theorem int16_toInt_mem (n : Int16) : -2 ^ 63 ≤ n.toInt ∧ n.toInt < 2 ^ 63 := by
  have := n.le_toInt
  have := n.toInt_lt
  constructor <;> omega

theorem int32_toInt_mem (n : Int32) : -2 ^ 63 ≤ n.toInt ∧ n.toInt < 2 ^ 63 := by
  have := n.le_toInt
  have := n.toInt_lt
  constructor <;> omega

theorem int64_toInt_mem (n : Int64) : -2 ^ 63 ≤ n.toInt ∧ n.toInt < 2 ^ 63 :=
  ⟨n.le_toInt, n.toInt_lt⟩

mutual

/-- Normalizing changes no character of the text. -/
theorem jsonText_normalize : ∀ v : Value, v.normalize.jsonText = v.jsonText
  | .null | .bool _ | .float _ | .double _ | .string _ | .object _ => rfl
  | .byte n => jsonText_ofInteger (int8_toInt_mem n).1 (int8_toInt_mem n).2
  | .short n => jsonText_ofInteger (int16_toInt_mem n).1 (int16_toInt_mem n).2
  | .int n => jsonText_ofInteger (int32_toInt_mem n).1 (int32_toInt_mem n).2
  | .long n => jsonText_ofInteger (int64_toInt_mem n).1 (int64_toInt_mem n).2
  | .char _ => rfl
  | .array items => by
    simp only [normalize, jsonText, jsonTextItems_normalizeList true items]
  | .map (.ofEntries es) => by
    simp only [normalize, jsonText, jsonTextEntries_normalizeEntries true es]

theorem jsonTextItems_normalizeList :
    ∀ (first : Bool) (items : List Value),
      jsonTextItems first (normalizeList items) = jsonTextItems first items
  | _, [] => rfl
  | first, v :: vs => by
    simp only [normalizeList, jsonTextItems, jsonText_normalize v,
      jsonTextItems_normalizeList false vs]

theorem jsonTextEntries_normalizeEntries :
    ∀ (first : Bool) (es : List (String × Value)),
      jsonTextEntries first (normalizeEntries es) = jsonTextEntries first es
  | _, [] => rfl
  | first, (k, v) :: rest => by
    simp only [normalizeEntries, jsonTextEntries, jsonText_normalize v,
      jsonTextEntries_normalizeEntries false rest]

end

@[simp] theorem keysOf_normalizeEntries (es : List (String × Value)) :
    ValueMap.keysOf (normalizeEntries es) = ValueMap.keysOf es := by
  induction es with
  | nil => rfl
  | cons e es ih =>
    obtain ⟨k, v⟩ := e
    simp [normalizeEntries, ih]

theorem objects_ofInteger (n : Int) : (ofInteger n).objects = [] := by
  unfold ofInteger
  split <;> rfl

theorem allFinite_ofInteger (n : Int) : (ofInteger n).allFinite = true := by
  unfold ofInteger
  split <;> rfl

mutual

/-- Normalizing adds no object and takes none away. -/
theorem objects_normalize : ∀ v : Value, v.normalize.objects = v.objects
  | .byte n | .short n | .int n | .long n => objects_ofInteger _
  | .null | .bool _ | .float _ | .double _ | .char _ | .string _ | .object _ => rfl
  | .array items => by
    simp only [normalize, objects, objectsList_normalizeList items]
  | .map (.ofEntries es) => by
    simp only [normalize, objects, objectsEntries_normalizeEntries es]

theorem objectsList_normalizeList : ∀ items : List Value,
    objectsList (normalizeList items) = objectsList items
  | [] => rfl
  | v :: vs => by
    simp only [normalizeList, objectsList, objects_normalize v, objectsList_normalizeList vs]

theorem objectsEntries_normalizeEntries : ∀ es : List (String × Value),
    objectsEntries (normalizeEntries es) = objectsEntries es
  | [] => rfl
  | (_, v) :: rest => by
    simp only [normalizeEntries, objectsEntries, objects_normalize v,
      objectsEntries_normalizeEntries rest]

end

mutual

/-- Normalizing keeps every float as it is. -/
theorem allFinite_normalize : ∀ v : Value, v.normalize.allFinite = v.allFinite
  | .byte n | .short n | .int n | .long n => allFinite_ofInteger _
  | .null | .bool _ | .float _ | .double _ | .char _ | .string _ | .object _ => rfl
  | .array items => by
    simp only [normalize, allFinite, allFiniteList_normalizeList items]
  | .map (.ofEntries es) => by
    simp only [normalize, allFinite, allFiniteEntries_normalizeEntries es]

theorem allFiniteList_normalizeList : ∀ items : List Value,
    allFiniteList (normalizeList items) = allFiniteList items
  | [] => rfl
  | v :: vs => by
    simp only [normalizeList, allFiniteList, allFinite_normalize v,
      allFiniteList_normalizeList vs]

theorem allFiniteEntries_normalizeEntries : ∀ es : List (String × Value),
    allFiniteEntries (normalizeEntries es) = allFiniteEntries es
  | [] => rfl
  | (_, v) :: rest => by
    simp only [normalizeEntries, allFiniteEntries, allFinite_normalize v,
      allFiniteEntries_normalizeEntries rest]

end

mutual

/-- A value with no float has none that is NaN or infinite. -/
theorem allFinite_of_hasFloat : ∀ v : Value, v.hasFloat = false → v.allFinite = true
  | .float _, h | .double _, h => by simp [hasFloat] at h
  | .null, _ | .bool _, _ | .byte _, _ | .short _, _ | .int _, _ | .long _, _ | .char _, _
  | .string _, _ | .object _, _ => rfl
  | .array items, h => allFiniteList_of_hasFloatList items h
  | .map (.ofEntries es), h => allFiniteEntries_of_hasFloatEntries es h

theorem allFiniteList_of_hasFloatList : ∀ items : List Value,
    hasFloatList items = false → allFiniteList items = true
  | [], _ => rfl
  | v :: vs, h => by
    simp only [hasFloatList, Bool.or_eq_false_iff] at h
    simp only [allFiniteList, allFinite_of_hasFloat v h.1, allFiniteList_of_hasFloatList vs h.2,
      Bool.and_self]

theorem allFiniteEntries_of_hasFloatEntries : ∀ es : List (String × Value),
    hasFloatEntries es = false → allFiniteEntries es = true
  | [], _ => rfl
  | (_, v) :: rest, h => by
    simp only [hasFloatEntries, Bool.or_eq_false_iff] at h
    simp only [allFiniteEntries, allFinite_of_hasFloat v h.1,
      allFiniteEntries_of_hasFloatEntries rest h.2, Bool.and_self]

end

end Value

/-! ## Writing a value with no object -/

namespace JsonFormat

mutual

/-- A value with no object is written without handing anything back to the mapper. -/
theorem pieces_flat : ∀ v : Value, v.objects = [] → ∀ p ∈ pieces v, p.isNested = false
  | .null, _ | .bool _, _ | .byte _, _ | .short _, _ | .int _, _ | .long _, _ | .char _, _
  | .string _, _ => by
    intro p hp
    simp only [pieces, List.mem_singleton] at hp
    subst hp
    rfl
  | .float x, _ | .double x, _ => by
    intro p hp
    simp only [pieces] at hp
    split at hp <;> (simp only [List.mem_singleton] at hp; subst hp; rfl)
  | .array items, h => by
    intro p hp
    simp only [pieces, List.cons_append, List.mem_cons, List.mem_append,
      List.not_mem_nil, or_false] at hp
    rcases hp with rfl | hp | rfl
    · rfl
    · exact itemPieces_flat true items h p hp
    · rfl
  | .map (.ofEntries es), h => by
    intro p hp
    simp only [pieces, List.cons_append, List.mem_cons, List.mem_append,
      List.not_mem_nil, or_false] at hp
    rcases hp with rfl | hp | rfl
    · rfl
    · exact entryPieces_flat true es h p hp
    · rfl
  | .object _, h => by simp [Value.objects] at h

theorem itemPieces_flat : ∀ (first : Bool) (items : List Value), Value.objectsList items = [] →
    ∀ p ∈ itemPieces first items, p.isNested = false
  | _, [], _ => by simp [itemPieces]
  | first, v :: vs, h => by
    simp only [Value.objectsList, List.append_eq_nil_iff] at h
    intro p hp
    simp only [itemPieces, List.mem_append] at hp
    rcases hp with (hp | hp) | hp
    · split at hp
      · simp at hp
      · simp only [List.mem_singleton] at hp
        subst hp
        rfl
    · exact pieces_flat v h.1 p hp
    · exact itemPieces_flat false vs h.2 p hp

theorem entryPieces_flat : ∀ (first : Bool) (es : List (String × Value)),
    Value.objectsEntries es = [] → ∀ p ∈ entryPieces first es, p.isNested = false
  | _, [], _ => by simp [entryPieces]
  | first, (k, v) :: rest, h => by
    simp only [Value.objectsEntries, List.append_eq_nil_iff] at h
    intro p hp
    simp only [entryPieces, List.mem_append, List.mem_singleton] at hp
    rcases hp with ((hp | rfl) | hp) | hp
    · split at hp
      · simp at hp
      · simp only [List.mem_singleton] at hp
        subst hp
        rfl
    · rfl
    · exact pieces_flat v h.1 p hp
    · exact entryPieces_flat false rest h.2 p hp

end

/-- The comma before every item or entry but the first. -/
theorem runAll_separator (first : Bool) (out : String) :
    Piece.runAll (if first then [] else [.emit (· ++ ",")]) out =
      (.ok (), out ++ if first then "" else ",") := by
  cases first <;> simp

mutual

/-- A value with no object and no NaN or infinity is written as its text. -/
theorem runAll_pieces : ∀ v : Value, v.objects = [] → v.allFinite = true → ∀ out : String,
    Piece.runAll (pieces v) out = (.ok (), out ++ v.jsonText)
  | .null, _, _, _ | .byte _, _, _, _ | .short _, _, _, _ | .int _, _, _, _ | .long _, _, _, _
  | .char _, _, _, _ | .string _, _, _, _ => rfl
  | .bool b, _, _, _ => by cases b <;> rfl
  | .float x, _, hfin, out => by
    have hx : x.isFinite = true := hfin
    simp [pieces, hx, Value.jsonText]
  | .double x, _, hfin, out => by
    have hx : x.isFinite = true := hfin
    simp [pieces, hx, Value.jsonText]
  | .array items, h, hfin, out => by
    have hitems := runAll_itemPieces true items h hfin (out ++ "[")
    simp only [pieces, List.cons_append, Piece.runAll_emit]
    rw [Piece.runAll_append_ok hitems]
    simp [Value.jsonText, String.append_assoc]
  | .map (.ofEntries es), h, hfin, out => by
    have hes := runAll_entryPieces true es h hfin (out ++ "\x7b")
    simp only [pieces, List.cons_append, Piece.runAll_emit]
    rw [Piece.runAll_append_ok hes]
    simp [Value.jsonText, String.append_assoc]
  | .object _, h, _, _ => by simp [Value.objects] at h

theorem runAll_itemPieces : ∀ (first : Bool) (items : List Value), Value.objectsList items = [] →
    Value.allFiniteList items = true → ∀ out : String,
    Piece.runAll (itemPieces first items) out = (.ok (), out ++ Value.jsonTextItems first items)
  | _, [], _, _, out => by simp [itemPieces, Value.jsonTextItems]
  | first, v :: vs, h, hfin, out => by
    simp only [Value.objectsList, List.append_eq_nil_iff] at h
    simp only [Value.allFiniteList, Bool.and_eq_true] at hfin
    simp only [itemPieces, List.append_assoc]
    rw [Piece.runAll_append_ok (runAll_separator first out),
      Piece.runAll_append_ok (runAll_pieces v h.1 hfin.1 _),
      runAll_itemPieces false vs h.2 hfin.2]
    simp [Value.jsonTextItems, String.append_assoc]

theorem runAll_entryPieces : ∀ (first : Bool) (es : List (String × Value)),
    Value.objectsEntries es = [] → Value.allFiniteEntries es = true → ∀ out : String,
    Piece.runAll (entryPieces first es) out = (.ok (), out ++ Value.jsonTextEntries first es)
  | _, [], _, _, out => by simp [entryPieces, Value.jsonTextEntries]
  | first, (k, v) :: rest, h, hfin, out => by
    simp only [Value.objectsEntries, List.append_eq_nil_iff] at h
    simp only [Value.allFiniteEntries, Bool.and_eq_true] at hfin
    simp only [entryPieces, List.append_assoc]
    rw [Piece.runAll_append_ok (runAll_separator first out), List.singleton_append,
      Piece.runAll_emit,
      Piece.runAll_append_ok (runAll_pieces v h.1 hfin.1 _),
      runAll_entryPieces false rest h.2 hfin.2]
    simp [Value.jsonTextEntries, String.append_assoc]

end

mutual

/-- A NaN or an infinity stops the write, with `ShapeError.outOfRange` against `JSON`. -/
theorem runAll_pieces_of_not_allFinite : ∀ v : Value, v.objects = [] → v.allFinite = false →
    ∀ out : String, ∃ text out',
      Piece.runAll (pieces v) out = (.error (.shape (.outOfRange text "JSON")), out')
  | .null, _, hfin, _ | .bool _, _, hfin, _ | .byte _, _, hfin, _ | .short _, _, hfin, _
  | .int _, _, hfin, _ | .long _, _, hfin, _ | .char _, _, hfin, _ | .string _, _, hfin, _ => by
    simp [Value.allFinite] at hfin
  | .float x, _, hfin, out => by
    have hx : x.isFinite = false := hfin
    exact ⟨x.render .plain, out, by simp [pieces, hx]⟩
  | .double x, _, hfin, out => by
    have hx : x.isFinite = false := hfin
    exact ⟨x.render .plain, out, by simp [pieces, hx]⟩
  | .array items, h, hfin, out => by
    obtain ⟨text, out', hitems⟩ :=
      runAll_itemPieces_of_not_allFinite true items h hfin (out ++ "[")
    refine ⟨text, out', ?_⟩
    simp only [pieces, List.cons_append, Piece.runAll_emit]
    exact Piece.runAll_append_error hitems _
  | .map (.ofEntries es), h, hfin, out => by
    obtain ⟨text, out', hes⟩ :=
      runAll_entryPieces_of_not_allFinite true es h hfin (out ++ "\x7b")
    refine ⟨text, out', ?_⟩
    simp only [pieces, List.cons_append, Piece.runAll_emit]
    exact Piece.runAll_append_error hes _
  | .object _, h, _, _ => by simp [Value.objects] at h

theorem runAll_itemPieces_of_not_allFinite : ∀ (first : Bool) (items : List Value),
    Value.objectsList items = [] → Value.allFiniteList items = false → ∀ out : String,
    ∃ text out',
      Piece.runAll (itemPieces first items) out = (.error (.shape (.outOfRange text "JSON")), out')
  | _, [], _, hfin, _ => by simp [Value.allFiniteList] at hfin
  | first, v :: vs, h, hfin, out => by
    simp only [Value.objectsList, List.append_eq_nil_iff] at h
    simp only [itemPieces, List.append_assoc]
    rw [Piece.runAll_append_ok (runAll_separator first out)]
    cases hv : v.allFinite with
    | false =>
      -- the item itself holds the NaN or infinity
      obtain ⟨text, out', hpieces⟩ := runAll_pieces_of_not_allFinite v h.1 hv _
      exact ⟨text, out', Piece.runAll_append_error hpieces _⟩
    | true =>
      have hvs : Value.allFiniteList vs = false := by
        simpa [Value.allFiniteList, hv] using hfin
      rw [Piece.runAll_append_ok (runAll_pieces v h.1 hv _)]
      exact runAll_itemPieces_of_not_allFinite false vs h.2 hvs _

theorem runAll_entryPieces_of_not_allFinite : ∀ (first : Bool) (es : List (String × Value)),
    Value.objectsEntries es = [] → Value.allFiniteEntries es = false → ∀ out : String,
    ∃ text out',
      Piece.runAll (entryPieces first es) out = (.error (.shape (.outOfRange text "JSON")), out')
  | _, [], _, hfin, _ => by simp [Value.allFiniteEntries] at hfin
  | first, (k, v) :: rest, h, hfin, out => by
    simp only [Value.objectsEntries, List.append_eq_nil_iff] at h
    simp only [entryPieces, List.append_assoc]
    rw [Piece.runAll_append_ok (runAll_separator first out), List.singleton_append,
      Piece.runAll_emit]
    cases hv : v.allFinite with
    | false =>
      obtain ⟨text, out', hpieces⟩ := runAll_pieces_of_not_allFinite v h.1 hv _
      exact ⟨text, out', Piece.runAll_append_error hpieces _⟩
    | true =>
      have hrest : Value.allFiniteEntries rest = false := by
        simpa [Value.allFiniteEntries, hv] using hfin
      rw [Piece.runAll_append_ok (runAll_pieces v h.1 hv _)]
      exact runAll_entryPieces_of_not_allFinite false rest h.2 hrest _

end

/-! ## The `write` request -/

/-- A value written on its own, without a name, as the `write` request writes it from a
factory: the text, or why the value cannot be written. -/
def writeText (f : Factory) (v : Value) : Except MapError String :=
  match WriteM.run (Mapper.writeValue format none v) f "" with
  | (.ok (), _, out) => .ok out
  | (.error e, _, _) => .error e

/-- With no object in the value the write is the value's pieces and nothing else. -/
theorem run_writeValue_of_flat (f : Factory) {v : Value} (hv : v.objects = []) (out : String) :
    WriteM.run (Mapper.writeValue format none v) f out =
      ((Piece.runAll (pieces v) out).1, f, (Piece.runAll (pieces v) out).2) := by
  unfold Mapper.writeValue
  rw [WriteM.run_bind_ok (WriteM.run_get f out)]
  have hpieces : format.writeValue none v.kind v 0 = pieces v := by simp [format]
  rw [hpieces, Mapper.run_writePieces_of_flat _ _ _ (pieces_flat v hv)]

theorem writeText_of_allFinite (f : Factory) {v : Value} (hv : v.objects = [])
    (hfin : v.allFinite = true) : writeText f v = .ok v.jsonText := by
  unfold writeText
  rw [run_writeValue_of_flat f hv, runAll_pieces v hv hfin]
  simp

/-- A value with no object fails to be written only for a NaN or an infinity, and then with
`ShapeError.outOfRange` against `JSON`. -/
theorem writeText_error (f : Factory) {v : Value} (hv : v.objects = []) {e : MapError}
    (h : writeText f v = .error e) :
    v.allFinite = false ∧ ∃ text, e = .shape (.outOfRange text "JSON") := by
  cases hfin : v.allFinite with
  | true => rw [writeText_of_allFinite f hv hfin] at h; cases h
  | false =>
    obtain ⟨text, out', hrun⟩ := runAll_pieces_of_not_allFinite v hv hfin ""
    unfold writeText at h
    rw [run_writeValue_of_flat f hv, hrun] at h
    cases h
    exact ⟨rfl, text, rfl⟩

theorem writeText_error_iff (f : Factory) {v : Value} (hv : v.objects = []) :
    (∃ e, writeText f v = .error e) ↔ v.allFinite = false := by
  constructor
  · rintro ⟨e, he⟩
    exact (writeText_error f hv he).1
  · intro hfin
    obtain ⟨text, out', hrun⟩ := runAll_pieces_of_not_allFinite v hv hfin ""
    refine ⟨.shape (.outOfRange text "JSON"), ?_⟩
    unfold writeText
    rw [run_writeValue_of_flat f hv, hrun]

end JsonFormat

end ObjectMapping
