import ObjectMapping.Proofs.JsonRead
import ObjectMapping.Proofs.TreeExpansion

/-!
# How deep a written text may nest to be read

The mapper bounds how deeply objects nest when it writes (`Config.maxDepth`), and the JSON
reader bounds how deeply arrays and maps nest when it reads (`depthLimit`). The two count
different things: an object written inside a list or a map opens two levels of the text, one
for the list or map and one for the object itself.

* `readValue_jsonText_deep`: the text of a value whose arrays and maps nest as deep as the room
  the reader has left stops at the limit, whatever follows it; with `readValue_jsonText` this
  says exactly which texts of values read back.
* `read_jsonText_deep`: the text of a whole value nested `depthLimit` deep or deeper is refused
  with a recursion-limit error.
* `serialized_text_reads_back_below_limit`: the text the mapper writes for a record reads back
  as its expansion's normal form exactly when the expansion nests less deep than the reader
  allows; at that depth or deeper the reader refuses it, whatever limit the writer had.
* `deep_tree_written_then_refused`: a tree of 64 levels is within the default limit of 64
  nested objects, and its text nests 128 deep.
-/

namespace ObjectMapping.Json

open ObjectMapping.Text

/-- A read that stopped at the reader's limit of nesting. -/
def StopsAtLimit {α : Type} (r : Except ReadError α) : Prop :=
  ∃ e : ReadError, r = .error e ∧ e.code = .recursionLimit

section Steps

variable {α : Type} (V : Visitor α) {fuel depth : Nat} {c : Cursor}

/-- An array or an object opened with no room left stops at the limit. -/
theorem readValue_open_at_limit {ch : Char} (hch : ch = '[' ∨ ch = '{') {r : List Char}
    (hc : c.rest = ch :: r) (hdepth : depth ≤ 1) :
    StopsAtLimit (readValue V (fuel + 1) depth c) := by
  rcases hch with rfl | rfl <;>
  · rw [readValue, Cursor.skipWhitespace_of_head hc (by decide)]
    simp only [Cursor.peek_eq, hc, List.head?_cons, hdepth, if_true]
    exact ⟨_, rfl, rfl⟩

end Steps

mutual

/-- A value whose arrays and maps nest as deep as the room left, followed by anything, stops
at the limit: the members before the deepest one read back, and the deepest one opens a level
with no room. -/
theorem readValue_jsonText_deep : ∀ (v : Value) (fuel depth : Nat) (c : Cursor)
    (rest : List Char), v.objects = [] → v.hasFloat = false → v.WellKeyed → 0 < depth →
    depth ≤ v.nesting → v.jsonText.length ≤ fuel → c.rest = v.jsonText.toList ++ rest →
    StopsAtLimit (readValue Value.visitor (fuel + 1) depth c)
  | .null | .bool _ | .byte _ | .short _ | .int _ | .long _ | .float _ | .double _ | .char _
  | .string _ | .object _ => by
    intro _ _ _ _ _ _ _ hpos hdepth _ _
    simp only [Value.nesting] at hdepth
    omega
  | .array items => by
    intro fuel depth c rest hobj hfl hwk hpos hdepth hfuel h
    have hc : c.rest = '[' :: ((Value.jsonTextItems true items).toList ++ ']' :: rest) := by
      simpa [Value.jsonText] using h
    simp only [Value.nesting] at hdepth
    simp only [Value.jsonText, String.length_append, length_bracket, length_closeBracket] at hfuel
    by_cases hroom : depth ≤ 1
    · exact readValue_open_at_limit _ (.inl rfl) hc hroom
    · obtain ⟨fuel, rfl⟩ : ∃ f, fuel = f + 1 := ⟨fuel - 1, by omega⟩
      obtain ⟨e, he, hcode⟩ := readElements_jsonTextItems_deep items fuel (depth - 1) true []
        c.bump rest hobj hfl hwk (by omega) (by omega) (by omega) (by simp [hc])
      exact ⟨e, readValue_array_error _ _ _ hc (by omega) he, hcode⟩
  | .map (.ofEntries es) => by
    intro fuel depth c rest hobj hfl hwk hpos hdepth hfuel h
    have hc : c.rest = '{' :: ((Value.jsonTextEntries true es).toList ++ '}' :: rest) := by
      simpa [Value.jsonText] using h
    simp only [Value.nesting] at hdepth
    simp only [Value.jsonText, String.length_append, length_brace, length_closeBrace] at hfuel
    by_cases hroom : depth ≤ 1
    · exact readValue_open_at_limit _ (.inr rfl) hc hroom
    · obtain ⟨fuel, rfl⟩ : ∃ f, fuel = f + 1 := ⟨fuel - 1, by omega⟩
      obtain ⟨e, he, hcode⟩ := readEntries_jsonTextEntries_deep es fuel (depth - 1) true []
        c.bump rest hobj hfl hwk.2 (by omega) (by omega) (by omega) (by simp [hc])
      exact ⟨e, readValue_object_error _ _ _ hc (by omega) he, hcode⟩
termination_by structural v => v

theorem readElements_jsonTextItems_deep : ∀ (items : List Value) (fuel depth : Nat)
    (first : Bool) (acc : List Value) (c : Cursor) (rest : List Char),
    Value.objectsList items = [] → Value.hasFloatList items = false → Value.WellKeyedList items →
    0 < depth → depth ≤ Value.nestingList items → (Value.jsonTextItems first items).length < fuel →
    c.rest = (Value.jsonTextItems first items).toList ++ ']' :: rest →
    StopsAtLimit (readElements Value.visitor (fuel + 1) depth first acc c)
  | [] => by
    intro _ _ _ _ _ _ _ _ _ hpos hdepth _ _
    simp only [Value.nestingList] at hdepth
    omega
  | v :: vs => by
    intro fuel depth first acc c rest hobj hfl hwk hpos hdepth hfuel h
    simp only [Value.objectsList, List.append_eq_nil_iff] at hobj
    simp only [Value.hasFloatList, Bool.or_eq_false_iff] at hfl
    obtain ⟨hwkv, hwkvs⟩ := hwk
    simp only [Value.nestingList] at hdepth
    obtain ⟨fuel, c₀, rfl, hvfuel, hvsfuel, hat, hstep⟩ :=
      readElements_jsonTextItems_cons depth acc hobj.1 hfl.1 hfuel h
    rw [hstep]
    by_cases hdeep : depth ≤ v.nesting
    · -- this item reaches the limit
      obtain ⟨e, he, hcode⟩ := readValue_jsonText_deep v fuel depth c₀ _ hobj.1 hfl.1 hwkv hpos
        hdeep hvfuel hat
      rw [he]
      exact ⟨e, rfl, hcode⟩
    · -- this item reads back, and a later one reaches the limit
      obtain ⟨c₁, hitem, hrest₁⟩ := readValue_jsonText v fuel depth c₀ _ hobj.1 hfl.1 hwkv
        (by omega) hvfuel hat (delimits_items vs rest)
      rw [hitem]
      exact readElements_jsonTextItems_deep vs fuel depth false (v.normalize :: acc) c₁ rest
        hobj.2 hfl.2 hwkvs hpos (by omega) hvsfuel hrest₁
termination_by structural items => items

theorem readEntries_jsonTextEntries_deep : ∀ (es : List (String × Value)) (fuel depth : Nat)
    (first : Bool) (acc : List (String × Value)) (c : Cursor) (rest : List Char),
    Value.objectsEntries es = [] → Value.hasFloatEntries es = false → Value.WellKeyedEntries es →
    0 < depth → depth ≤ Value.nestingEntries es → (Value.jsonTextEntries first es).length < fuel →
    c.rest = (Value.jsonTextEntries first es).toList ++ '}' :: rest →
    StopsAtLimit (readEntries Value.visitor (fuel + 1) depth first acc c)
  | [] => by
    intro _ _ _ _ _ _ _ _ _ hpos hdepth _ _
    simp only [Value.nestingEntries] at hdepth
    omega
  | (k, v) :: es => by
    intro fuel depth first acc c rest hobj hfl hwk hpos hdepth hfuel h
    simp only [Value.objectsEntries, List.append_eq_nil_iff] at hobj
    simp only [Value.hasFloatEntries, Bool.or_eq_false_iff] at hfl
    obtain ⟨hwkv, hwkes⟩ := hwk
    simp only [Value.nestingEntries] at hdepth
    obtain ⟨fuel, c₀, rfl, hvfuel, hesfuel, hat, hstep⟩ :=
      readEntries_jsonTextEntries_cons depth acc hobj.1 hfl.1 hfuel h
    rw [hstep]
    by_cases hdeep : depth ≤ v.nesting
    · obtain ⟨e, he, hcode⟩ := readValue_jsonText_deep v fuel depth c₀ _ hobj.1 hfl.1 hwkv hpos
        hdeep hvfuel hat
      rw [he]
      exact ⟨e, rfl, hcode⟩
    · obtain ⟨c₁, hitem, hrest₁⟩ := readValue_jsonText v fuel depth c₀ _ hobj.1 hfl.1 hwkv
        (by omega) hvfuel hat (delimits_entries es rest)
      rw [hitem]
      exact readEntries_jsonTextEntries_deep es fuel depth false ((k, v.normalize) :: acc) c₁ rest
        hobj.2 hfl.2 hwkes hpos (by omega) hesfuel hrest₁
termination_by structural es => es

end

/-- The text of a whole value whose arrays and maps nest `depthLimit` deep or deeper is refused
at the limit. -/
theorem read_jsonText_deep {v : Value} (hobj : v.objects = []) (hfl : v.hasFloat = false)
    (hwk : v.WellKeyed) (hdepth : depthLimit ≤ v.nesting) :
    ∃ line column, JsonFormat.read v.jsonText = .error (.json ⟨.recursionLimit, line, column⟩) := by
  obtain ⟨e, he, hcode⟩ := readValue_jsonText_deep v (4 * v.jsonText.length + 7) depthLimit
    (Cursor.start v.jsonText) [] hobj hfl hwk (by decide) hdepth (by omega)
    (by simp [Cursor.start])
  have hdoc : readDocument Value.visitor v.jsonText = .error e := by
    rw [readDocument, fuelFor, show 4 * v.jsonText.length + 8 = 4 * v.jsonText.length + 7 + 1 by
      omega, he]
    rfl
  obtain ⟨code, line, column⟩ := e
  cases hcode
  exact ⟨line, column, by simp [JsonFormat.read, hdoc]⟩

end ObjectMapping.Json

namespace ObjectMapping.JsonFormat

open ObjectMapping.Json

/-- A record whose expansion has no float is written as the text of its expansion, which holds
no object. -/
theorem serializeText_of_expansion {f : Factory} {m : Mapper} {x : Instance} {v : Value}
    (hd : m.descriptor.isSome = true) (hexp : Mapper.expansion f m x = .ok v)
    (hfl : v.hasFloat = false) : serializeText f m x = .ok v.jsonText ∧ v.objects = [] := by
  obtain ⟨-, hobj, f₁, hw⟩ := Mapper.writes_write hd hexp ""
  exact ⟨(serializeText_of_writes hw).1 (Value.allFinite_of_hasFloat v hfl), hobj⟩

/-- What reading back the text of a record gives. A record whose expansion succeeds (no getter
fails and its objects nest within the factory's limit), with no float and distinct keys in
its maps, is written as the text of its expansion. That text reads back as the expansion's
normal form when its arrays and maps nest less than `depthLimit` deep, and is refused with a
recursion-limit error when they nest `depthLimit` deep or deeper: the writer's limit counts
nested objects only, so it does not keep the text within the reader's. -/
theorem serialized_text_reads_back_below_limit (f : Factory) (m : Mapper) (x : Instance)
    (v : Value) (hd : m.descriptor.isSome = true) (hexp : Mapper.expansion f m x = .ok v)
    (hfl : v.hasFloat = false) (hwk : v.WellKeyed) :
    serializeText f m x = .ok v.jsonText ∧
      (v.nesting < depthLimit → read v.jsonText = .ok v.normalize) ∧
      (depthLimit ≤ v.nesting →
        ∃ line column, read v.jsonText = .error (.json ⟨.recursionLimit, line, column⟩)) := by
  obtain ⟨hser, hobj⟩ := serializeText_of_expansion hd hexp hfl
  exact ⟨hser, read_jsonText hobj hfl hwk, read_jsonText_deep hobj hfl hwk⟩

/-- A tree of two levels is written by the mapper a fresh factory builds for it, and its text
reads back as the normal form of its expansion. -/
theorem two_level_tree_reads_back :
    ∃ m g, Factory.run (Factory.createOrGet (Catalogue.declared "Tree"))
        { schema := Catalogue.schema } = (.ok m, g) ∧
      serializeText g m ⟨Catalogue.declared "Tree", Catalogue.treeChain 1, .created 0⟩ =
        .ok (Catalogue.treeChainValue 1).jsonText ∧
      read (Catalogue.treeChainValue 1).jsonText = .ok (Catalogue.treeChainValue 1).normalize := by
  obtain ⟨m, g, hrun, hm, hlimit⟩ := Catalogue.treeMapper_fresh
  have hexp : Mapper.expansion g m ⟨Catalogue.declared "Tree", Catalogue.treeChain 1, .created 0⟩ =
      .ok (Catalogue.treeChainValue 1) := by
    rw [Mapper.expansion, hlimit, Mapper.expandObject_treeChain hm 64 1 0 _ (by omega)]
  obtain ⟨-, hfl, hwk⟩ := Catalogue.treeChainValue_plain 1
  obtain ⟨hser, hshallow, -⟩ :=
    serialized_text_reads_back_below_limit g m _ _ hm.described hexp hfl hwk
  exact ⟨m, g, hrun, hser, hshallow (by rw [Catalogue.treeChainValue_nesting]; decide)⟩

/-- A tree of 64 levels, whose objects nest 63 deep within the default limit of 64, is written
by the mapper a fresh factory builds for it. Its text nests arrays and maps 128 deep, and the
reader refuses it. -/
theorem deep_tree_written_then_refused :
    ∃ m g, Factory.run (Factory.createOrGet (Catalogue.declared "Tree"))
        { schema := Catalogue.schema } = (.ok m, g) ∧ g.config.maxDepth = 64 ∧
      serializeText g m ⟨Catalogue.declared "Tree", Catalogue.treeChain 63, .created 0⟩ =
        .ok (Catalogue.treeChainValue 63).jsonText ∧
      (Catalogue.treeChainValue 63).nesting = 128 ∧
      ∃ line column, read (Catalogue.treeChainValue 63).jsonText =
        .error (.json ⟨.recursionLimit, line, column⟩) := by
  obtain ⟨m, g, hrun, hm, hlimit⟩ := Catalogue.treeMapper_fresh
  have hexp : Mapper.expansion g m ⟨Catalogue.declared "Tree", Catalogue.treeChain 63, .created 0⟩ =
      .ok (Catalogue.treeChainValue 63) := by
    rw [Mapper.expansion, hlimit, Mapper.expandObject_treeChain hm 64 63 0 _ (by omega)]
  obtain ⟨hobj, hfl, hwk⟩ := Catalogue.treeChainValue_plain 63
  have hnest := Catalogue.treeChainValue_nesting 63
  exact ⟨m, g, hrun, hlimit, (serializeText_of_expansion hm.described hexp hfl).1, hnest,
    read_jsonText_deep hobj hfl hwk (by rw [hnest]; decide)⟩

end ObjectMapping.JsonFormat
