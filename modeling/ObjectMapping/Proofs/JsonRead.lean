import ObjectMapping.Proofs.JsonScan
import ObjectMapping.Proofs.JsonText

/-!
# Reading the JSON text of a value back

The reader gives back what the writer wrote, up to `Value.normalize`: integers come back in the
narrowest of `int` and `long` that holds them and characters as strings. This holds for every
value with no object and no float, whose maps have distinct keys (as every map built by
insertion has) and whose arrays and maps nest less deep than the reader allows.

* `readValue_intText`, `readValue_quoted`: one integer, one quoted string.
* `readValue_jsonText`, with `readElements_jsonTextItems` and `readEntries_jsonTextEntries`: a
  value followed by anything that may follow a value, by induction over the value.
* `read_jsonText`: the text of a whole value reads back as its normal form.
* `readValue_brackets_at_limit`, `readDocument_brackets_at_limit`: a text that opens more arrays
  than the reader has room for is refused at the bracket past the room, line and column given.
-/

namespace ObjectMapping.Json

open ObjectMapping.Text

/-- The decimal text of an integer: a minus sign or a digit first. -/
theorem intText_head (n : Int) :
    ∃ ch r, (toString n).toList = ch :: r ∧ (ch = '-' ∨ ch.isDigit = true) := by
  rw [Int.toString_eq_repr, Int.repr_eq_if]
  split
  · obtain ⟨d, ds, hds⟩ := List.exists_cons_of_ne_nil (@Nat.toDigits_ne_nil n.toNat 10)
    have hmem : d ∈ Nat.toDigits 10 n.toNat := by simp [hds]
    have hd : d.isDigit = true := Nat.isDigit_of_mem_toDigits (by decide) (by decide) hmem
    exact ⟨d, ds, by rw [Nat.toList_repr, hds], .inr hd⟩
  · exact ⟨'-', (-n).toNat.repr.toList, by simp, .inl rfl⟩

/-- An integer of the 64-bit signed range reads back as `Value.ofInteger` of itself. -/
theorem readValue_intText {n : Int} (hlo : -2 ^ 63 ≤ n) (hhi : n < 2 ^ 63) (fuel depth : Nat)
    {c : Cursor} {rest : List Char} (h : c.rest = (toString n).toList ++ rest)
    (hr : Delimits rest) :
    ∃ c', readValue Value.visitor (fuel + 1) depth c = .ok (Value.ofInteger n, c') ∧
      c'.rest = rest := by
  rw [Int.toString_eq_repr, Int.repr_eq_if] at h
  split at h
  · -- a natural number: its digits, read as an unsigned number
    rename_i hnn
    rw [Nat.toList_repr] at h
    have hm : n.toNat ≤ u64Max := by
      simp only [u64Max, Nat.pow_eq]
      omega
    obtain ⟨c', hread, hrest⟩ := readValue_digits Value.visitor fuel depth hm h hr
    have hfit : n.toNat ≤ 2 ^ 63 - 1 := by omega
    have hcast : ((n.toNat : Nat) : Int) = n := Int.toNat_of_nonneg hnn
    have hnum : Value.visitor.number (.unsigned n.toNat) = .ok (Value.ofInteger n.toNat) :=
      if_pos hfit
    refine ⟨c', ?_, hrest⟩
    rw [hread, hnum, hcast]
    rfl
  · -- a negative number: a minus sign, then the digits of its magnitude
    rename_i hneg
    have hc : c.rest = '-' :: (Nat.toDigits 10 (-n).toNat ++ rest) := by
      simpa [Nat.toList_repr] using h
    have hm : (-n).toNat ≤ u64Max := by
      simp only [u64Max, Nat.pow_eq]
      omega
    obtain ⟨c', hrest, hnum⟩ := readNumber_toDigits false hm (c := c.bump) (by simp [hc]) hr
    have h1 : 1 ≤ (-n).toNat := by omega
    have h2 : (-n).toNat ≤ 2 ^ 63 := by omega
    have hcast : -(((-n).toNat : Nat) : Int) = n := by omega
    refine ⟨c', ?_, hrest⟩
    rw [readValue, Cursor.skipWhitespace_of_head hc (by decide)]
    simp only [Cursor.peek_eq, hc, List.head?_cons]
    rw [hnum, afterInteger_signed (hrest ▸ hr) h1 h2, hcast]
    simp [Visitor.accept, Value.visitor]

/-- A quoted string reads back as the string. -/
theorem readValue_quoted (s : String) (fuel depth : Nat) {c : Cursor} {rest : List Char}
    (h : c.rest = (jsonQuote s).toList ++ rest) :
    ∃ c', readValue Value.visitor (fuel + 1) depth c = .ok (.string s, c') ∧ c'.rest = rest := by
  have hc : c.rest = '"' :: ((jsonQuote s).toList.tail ++ rest) := by
    rw [h]
    simp [jsonQuote]
  obtain ⟨c', hrest, hstr⟩ := readString_jsonQuote s (c := c.bump) (r := rest) (by simp [hc])
  refine ⟨c', ?_, hrest⟩
  rw [readValue, Cursor.skipWhitespace_of_head hc (by decide)]
  simp only [Cursor.peek_eq, hc, List.head?_cons]
  simp [hstr, Visitor.accept, Value.visitor]

/-! ## Whole values -/

/-- The text of a value with no object and no float starts with a character that opens a
token: no blank, and no closing bracket or brace. -/
theorem jsonText_head : ∀ v : Value, v.objects = [] → v.hasFloat = false →
    ∃ ch r, v.jsonText.toList = ch :: r ∧ ¬(ch = ' ' ∨ ch = '\t' ∨ ch = '\r' ∨ ch = '\n') ∧
      ch ≠ ']' ∧ ch ≠ '}'
  | .null, _, _ => ⟨'n', "ull".toList, by simp [Value.jsonText], by decide, by decide, by decide⟩
  | .bool true, _, _ =>
    ⟨'t', "rue".toList, by simp [Value.jsonText], by decide, by decide, by decide⟩
  | .bool false, _, _ =>
    ⟨'f', "alse".toList, by simp [Value.jsonText], by decide, by decide, by decide⟩
  | .byte n, _, _ | .short n, _, _ | .int n, _, _ | .long n, _, _ => by
    obtain ⟨ch, r, htext, hch⟩ := intText_head n.toInt
    refine ⟨ch, r, by simpa [Value.jsonText] using htext, ?_⟩
    rcases hch with rfl | hd
    · exact ⟨by decide, by decide, by decide⟩
    · obtain ⟨hb, -, -, -, -, -, -, -, hbr, hbc⟩ := isDigit_facts hd
      exact ⟨hb, hbr, hbc⟩
  | .float _, _, h | .double _, _, h => by simp [Value.hasFloat] at h
  | .char c, _, _ =>
    ⟨'"', (jsonQuote (String.singleton c)).toList.tail, by simp [Value.jsonText, jsonQuote],
      by decide, by decide, by decide⟩
  | .string s, _, _ =>
    ⟨'"', (jsonQuote s).toList.tail, by simp [Value.jsonText, jsonQuote], by decide, by decide,
      by decide⟩
  | .array items, _, _ =>
    ⟨'[', (Value.jsonTextItems true items).toList ++ [']'], by simp [Value.jsonText], by decide,
      by decide, by decide⟩
  | .map (.ofEntries es), _, _ =>
    ⟨'{', (Value.jsonTextEntries true es).toList ++ ['}'], by simp [Value.jsonText], by decide,
      by decide, by decide⟩
  | .object _, h, _ => by simp [Value.objects] at h

theorem toList_comma : ",".toList = [','] := by simp

theorem toList_colon : ":".toList = [':'] := by simp

theorem length_comma : ",".length = 1 := rfl

theorem length_colon : ":".length = 1 := rfl

theorem length_bracket : "[".length = 1 := rfl

theorem length_closeBracket : "]".length = 1 := rfl

theorem length_brace : "\x7b".length = 1 := rfl

theorem length_closeBrace : "\x7d".length = 1 := rfl

theorem delimits_items (vs : List Value) (rest : List Char) :
    Delimits ((Value.jsonTextItems false vs).toList ++ ']' :: rest) := by
  cases vs with
  | nil => exact Delimits.closeBracket rest
  | cons v vs => simpa [Value.jsonTextItems] using Delimits.comma _

theorem delimits_entries (es : List (String × Value)) (rest : List Char) :
    Delimits ((Value.jsonTextEntries false es).toList ++ '}' :: rest) := by
  cases es with
  | nil => exact Delimits.closeBrace rest
  | cons e es =>
    obtain ⟨k, v⟩ := e
    simpa [Value.jsonTextEntries] using Delimits.comma _

theorem length_pos_of_toList {s : String} {ch : Char} {r : List Char} (h : s.toList = ch :: r) :
    0 < s.length := by
  rw [← String.length_toList, h]
  simp

/-- The reader at the text of a list's items, the first of which is `v`: past the separator it
reads `v`, and the items after it are left to the rest of the reading. The item and the items
after it each have less fuel than the whole. -/
theorem readElements_jsonTextItems_cons {v : Value} {vs : List Value} {fuel : Nat} (depth : Nat)
    {first : Bool} (acc : List Value) {c : Cursor} {rest : List Char} (hobj : v.objects = [])
    (hfl : v.hasFloat = false) (hfuel : (Value.jsonTextItems first (v :: vs)).length < fuel)
    (h : c.rest = (Value.jsonTextItems first (v :: vs)).toList ++ ']' :: rest) :
    ∃ f c₀, fuel = f + 1 ∧ v.jsonText.length ≤ f ∧ (Value.jsonTextItems false vs).length < f ∧
      c₀.rest = v.jsonText.toList ++ ((Value.jsonTextItems false vs).toList ++ ']' :: rest) ∧
      readElements Value.visitor (fuel + 1) depth first acc c =
        match readValue Value.visitor (f + 1) depth c₀ with
        | .error e => .error e
        | .ok (item, c) => readElements Value.visitor (f + 1) depth false (item :: acc) c := by
  obtain ⟨ch, r, htext, hblank, hclose, -⟩ := jsonText_head v hobj hfl
  have hvlen := length_pos_of_toList htext
  have hlen : (Value.jsonTextItems first (v :: vs)).length =
      (if first then 0 else 1) + v.jsonText.length + (Value.jsonTextItems false vs).length := by
    cases first <;> simp [Value.jsonTextItems, length_comma]
  -- each item takes a step of its own
  obtain ⟨f, rfl⟩ : ∃ f, fuel = f + 1 := ⟨fuel - 1, by split at hlen <;> omega⟩
  -- past the comma, if any, the item starts
  have hsplit : c.rest = (if first then [] else [',']) ++
      ch :: (r ++ (Value.jsonTextItems false vs).toList ++ ']' :: rest) := by
    rw [h]
    cases first <;> simp [Value.jsonTextItems, htext]
  obtain ⟨c₀, hrest₀, hstep⟩ :=
    readElements_next Value.visitor (f + 1) depth first acc hsplit hblank hclose
  refine ⟨f, c₀, rfl, by split at hlen <;> omega, by split at hlen <;> omega, ?_, ?_⟩
  · rw [hrest₀, htext]
    simp
  · -- the two matches are the same up to their auxiliary matchers
    rw [hstep]
    rcases readValue Value.visitor (f + 1) depth c₀ with _ | ⟨item, c'⟩ <;> rfl

/-- The reader at the text of a map's entries, the first of which is `(k, v)`: past the
separator, the key and the colon it reads `v`, and the entries after it are left to the rest of
the reading. The value and the entries after it each have less fuel than the whole. -/
theorem readEntries_jsonTextEntries_cons {k : String} {v : Value} {es : List (String × Value)}
    {fuel : Nat} (depth : Nat) {first : Bool} (acc : List (String × Value)) {c : Cursor}
    {rest : List Char} (hobj : v.objects = []) (hfl : v.hasFloat = false)
    (hfuel : (Value.jsonTextEntries first ((k, v) :: es)).length < fuel)
    (h : c.rest = (Value.jsonTextEntries first ((k, v) :: es)).toList ++ '}' :: rest) :
    ∃ f c₀, fuel = f + 1 ∧ v.jsonText.length ≤ f ∧ (Value.jsonTextEntries false es).length < f ∧
      c₀.rest = v.jsonText.toList ++ ((Value.jsonTextEntries false es).toList ++ '}' :: rest) ∧
      readEntries Value.visitor (fuel + 1) depth first acc c =
        match readValue Value.visitor (f + 1) depth c₀ with
        | .error e => .error e
        | .ok (item, c) => readEntries Value.visitor (f + 1) depth false ((k, item) :: acc) c := by
  obtain ⟨ch, r, htext, -, -, -⟩ := jsonText_head v hobj hfl
  have hvlen := length_pos_of_toList htext
  have hlen : (Value.jsonTextEntries first ((k, v) :: es)).length =
      (if first then 0 else 1) + (jsonQuote k).length + 1 + v.jsonText.length +
        (Value.jsonTextEntries false es).length := by
    cases first <;> simp [Value.jsonTextEntries, length_comma, length_colon]
  obtain ⟨f, rfl⟩ : ∃ f, fuel = f + 1 := ⟨fuel - 1, by split at hlen <;> omega⟩
  have hsplit : c.rest = (if first then [] else [',']) ++ (jsonQuote k).toList ++
      ':' :: (v.jsonText.toList ++ (Value.jsonTextEntries false es).toList ++ '}' :: rest) := by
    rw [h]
    cases first <;>
      simp only [Value.jsonTextEntries, String.toList_append, toList_comma, toList_colon,
        String.toList_empty, Bool.false_eq_true, if_true, if_false, List.append_assoc,
        List.cons_append, List.nil_append]
  obtain ⟨c₀, hrest₀, hstep⟩ := readEntries_next Value.visitor (f + 1) depth first acc hsplit
  refine ⟨f, c₀, rfl, by split at hlen <;> omega, by split at hlen <;> omega, ?_, ?_⟩
  · rw [hrest₀]
    simp
  · rw [hstep]
    rcases readValue Value.visitor (f + 1) depth c₀ with _ | ⟨item, c'⟩ <;> rfl

mutual

/-- A value followed by what may follow a value reads back as its normal form, given a step of
fuel for every character and room for its nesting. -/
theorem readValue_jsonText : ∀ (v : Value) (fuel depth : Nat) (c : Cursor) (rest : List Char),
    v.objects = [] → v.hasFloat = false → v.WellKeyed → v.nesting < depth →
    v.jsonText.length ≤ fuel → c.rest = v.jsonText.toList ++ rest → Delimits rest →
    ∃ c', readValue Value.visitor (fuel + 1) depth c = .ok (v.normalize, c') ∧ c'.rest = rest
  | .null => by
    intro fuel depth c rest _ _ _ _ _ h _
    have hc : c.rest = 'n' :: 'u' :: 'l' :: 'l' :: rest := by simpa [Value.jsonText] using h
    obtain ⟨c', hread, hrest⟩ := readValue_null Value.visitor fuel depth hc
    exact ⟨c', by rw [hread]; simp [Value.visitor, Value.normalize], hrest⟩
  | .bool b => by
    intro fuel depth c rest _ _ _ _ _ h _
    cases b with
    | true =>
      have hc : c.rest = 't' :: 'r' :: 'u' :: 'e' :: rest := by simpa [Value.jsonText] using h
      obtain ⟨c', hread, hrest⟩ := readValue_true Value.visitor fuel depth hc
      exact ⟨c', by rw [hread]; simp [Value.visitor, Value.normalize], hrest⟩
    | false =>
      have hc : c.rest = 'f' :: 'a' :: 'l' :: 's' :: 'e' :: rest := by
        simpa [Value.jsonText] using h
      obtain ⟨c', hread, hrest⟩ := readValue_false Value.visitor fuel depth hc
      exact ⟨c', by rw [hread]; simp [Value.visitor, Value.normalize], hrest⟩
  | .byte n => by
    intro fuel depth _ _ _ _ _ _ _ h hr
    exact readValue_intText (Value.int8_toInt_mem n).1 (Value.int8_toInt_mem n).2 fuel depth h hr
  | .short n => by
    intro fuel depth _ _ _ _ _ _ _ h hr
    exact readValue_intText (Value.int16_toInt_mem n).1 (Value.int16_toInt_mem n).2 fuel depth h hr
  | .int n => by
    intro fuel depth _ _ _ _ _ _ _ h hr
    exact readValue_intText (Value.int32_toInt_mem n).1 (Value.int32_toInt_mem n).2 fuel depth h hr
  | .long n => by
    intro fuel depth _ _ _ _ _ _ _ h hr
    exact readValue_intText (Value.int64_toInt_mem n).1 (Value.int64_toInt_mem n).2 fuel depth h hr
  | .float _
  | .double _ => by
    intro _ _ _ _ _ hfl _ _ _ _ _
    simp [Value.hasFloat] at hfl
  | .char ch => by
    intro fuel depth _ _ _ _ _ _ _ h _
    exact readValue_quoted (String.singleton ch) fuel depth h
  | .string s => by
    intro fuel depth _ _ _ _ _ _ _ h _
    exact readValue_quoted s fuel depth h
  | .array items => by
    intro fuel depth c rest hobj hfl hwk hdepth hfuel h _
    have hc : c.rest = '[' :: ((Value.jsonTextItems true items).toList ++ ']' :: rest) := by
      simpa [Value.jsonText] using h
    simp only [Value.nesting] at hdepth
    simp only [Value.jsonText, String.length_append, length_bracket, length_closeBracket] at hfuel
    -- the brackets take a step of their own: the items get one less
    obtain ⟨fuel, rfl⟩ : ∃ f, fuel = f + 1 := ⟨fuel - 1, by omega⟩
    obtain ⟨c', hread, hrest⟩ := readElements_jsonTextItems items fuel (depth - 1) true [] c.bump
      rest hobj hfl hwk (by omega) (by omega) (by simp [hc])
    refine ⟨c'.bump, ?_, by simp [hrest]⟩
    rw [readValue_array Value.visitor (fuel + 1) depth hc (by omega) hread]
    simp [Value.visitor, Value.normalize]
  | .map (.ofEntries es) => by
    intro fuel depth c rest hobj hfl hwk hdepth hfuel h _
    have hc : c.rest = '{' :: ((Value.jsonTextEntries true es).toList ++ '}' :: rest) := by
      simpa [Value.jsonText] using h
    simp only [Value.nesting] at hdepth
    simp only [Value.jsonText, String.length_append, length_brace, length_closeBrace] at hfuel
    obtain ⟨hnodup, hwk⟩ := hwk
    obtain ⟨fuel, rfl⟩ : ∃ f, fuel = f + 1 := ⟨fuel - 1, by omega⟩
    obtain ⟨c', hread, hrest⟩ := readEntries_jsonTextEntries es fuel (depth - 1) true [] c.bump
      rest hobj hfl hwk (by omega) (by omega) (by simp [hc])
    -- distinct keys: the map built by insertion keeps the entries as they are
    have hmap : ValueMap.ofList (Value.normalizeEntries es) =
        ValueMap.ofEntries (Value.normalizeEntries es) :=
      ValueMap.ofList_eq_ofEntries (by simpa using hnodup)
    refine ⟨c'.bump, ?_, by simp [hrest]⟩
    rw [readValue_object Value.visitor (fuel + 1) depth hc (by omega) hread]
    simp [Value.visitor, Value.normalize, hmap]
  | .object _ => by
    intro _ _ _ _ hobj _ _ _ _ _ _
    simp [Value.objects] at hobj
termination_by structural v => v

theorem readElements_jsonTextItems : ∀ (items : List Value) (fuel depth : Nat) (first : Bool)
    (acc : List Value) (c : Cursor) (rest : List Char),
    Value.objectsList items = [] → Value.hasFloatList items = false → Value.WellKeyedList items →
    Value.nestingList items < depth → (Value.jsonTextItems first items).length < fuel →
    c.rest = (Value.jsonTextItems first items).toList ++ ']' :: rest →
    ∃ c', readElements Value.visitor (fuel + 1) depth first acc c =
      .ok (acc.reverse ++ Value.normalizeList items, c') ∧ c'.rest = ']' :: rest
  | [] => by
    intro fuel depth first acc c rest _ _ _ _ _ h
    have hc : c.rest = ']' :: rest := by simpa [Value.jsonTextItems] using h
    exact ⟨c, by simp [readElements_close Value.visitor fuel depth first acc hc,
      Value.normalizeList], hc⟩
  | v :: vs => by
    intro fuel depth first acc c rest hobj hfl hwk hdepth hfuel h
    simp only [Value.objectsList, List.append_eq_nil_iff] at hobj
    simp only [Value.hasFloatList, Bool.or_eq_false_iff] at hfl
    obtain ⟨hwkv, hwkvs⟩ := hwk
    simp only [Value.nestingList] at hdepth
    obtain ⟨fuel, c₀, rfl, hvfuel, hvsfuel, hat, hstep⟩ :=
      readElements_jsonTextItems_cons depth acc hobj.1 hfl.1 hfuel h
    obtain ⟨c₁, hitem, hrest₁⟩ := readValue_jsonText v fuel depth c₀ _ hobj.1 hfl.1 hwkv
      (by omega) hvfuel hat (delimits_items vs rest)
    obtain ⟨c₂, hitems, hrest₂⟩ := readElements_jsonTextItems vs fuel depth false
      (v.normalize :: acc) c₁ rest hobj.2 hfl.2 hwkvs (by omega) hvsfuel hrest₁
    refine ⟨c₂, ?_, hrest₂⟩
    rw [hstep, hitem]
    simp [hitems, Value.normalizeList]
termination_by structural items => items

theorem readEntries_jsonTextEntries : ∀ (es : List (String × Value)) (fuel depth : Nat)
    (first : Bool) (acc : List (String × Value)) (c : Cursor) (rest : List Char),
    Value.objectsEntries es = [] → Value.hasFloatEntries es = false → Value.WellKeyedEntries es →
    Value.nestingEntries es < depth → (Value.jsonTextEntries first es).length < fuel →
    c.rest = (Value.jsonTextEntries first es).toList ++ '}' :: rest →
    ∃ c', readEntries Value.visitor (fuel + 1) depth first acc c =
      .ok (acc.reverse ++ Value.normalizeEntries es, c') ∧ c'.rest = '}' :: rest
  | [] => by
    intro fuel depth first acc c rest _ _ _ _ _ h
    have hc : c.rest = '}' :: rest := by simpa [Value.jsonTextEntries] using h
    exact ⟨c, by simp [readEntries_close Value.visitor fuel depth first acc hc,
      Value.normalizeEntries], hc⟩
  | (k, v) :: es => by
    intro fuel depth first acc c rest hobj hfl hwk hdepth hfuel h
    simp only [Value.objectsEntries, List.append_eq_nil_iff] at hobj
    simp only [Value.hasFloatEntries, Bool.or_eq_false_iff] at hfl
    obtain ⟨hwkv, hwkes⟩ := hwk
    simp only [Value.nestingEntries] at hdepth
    obtain ⟨fuel, c₀, rfl, hvfuel, hesfuel, hat, hstep⟩ :=
      readEntries_jsonTextEntries_cons depth acc hobj.1 hfl.1 hfuel h
    obtain ⟨c₁, hitem, hrest₁⟩ := readValue_jsonText v fuel depth c₀ _ hobj.1 hfl.1 hwkv
      (by omega) hvfuel hat (delimits_entries es rest)
    obtain ⟨c₂, hentries, hrest₂⟩ := readEntries_jsonTextEntries es fuel depth false
      ((k, v.normalize) :: acc) c₁ rest hobj.2 hfl.2 hwkes (by omega) hesfuel hrest₁
    refine ⟨c₂, ?_, hrest₂⟩
    rw [hstep, hitem]
    simp [hentries, Value.normalizeEntries]
termination_by structural es => es

end

/-- A value read up to the end of the text is the document. -/
theorem finish_of_rest_nil {α : Type} {a : α} {c : Cursor} (h : c.rest = []) :
    finish (.ok (a, c)) = .ok a := by
  simp [finish, Cursor.skipWhitespace_of_nil h, h]

/-- The JSON text of a value reads back as its normal form. -/
theorem read_jsonText {v : Value} (hobj : v.objects = []) (hfl : v.hasFloat = false)
    (hwk : v.WellKeyed) (hdepth : v.nesting < depthLimit) :
    JsonFormat.read v.jsonText = .ok v.normalize := by
  obtain ⟨c', hread, hrest⟩ := readValue_jsonText v (4 * v.jsonText.length + 7) depthLimit
    (Cursor.start v.jsonText) [] hobj hfl hwk hdepth (by omega) (by simp [Cursor.start])
    Delimits.nil
  have hdoc : readDocument Value.visitor v.jsonText = .ok v.normalize := by
    rw [readDocument, fuelFor, show 4 * v.jsonText.length + 8 = 4 * v.jsonText.length + 7 + 1 by
      omega, hread, finish_of_rest_nil hrest]
  simp [JsonFormat.read, hdoc]

/-! ## A run of opening brackets -/

/-- A run of opening brackets at least as long as the room the reader has left is refused at
the bracket past the room, whatever follows the run: each bracket opens a level and moves one
column on, and each level but the last takes two steps of fuel, one for the value and one for
its items. -/
theorem readValue_brackets_at_limit {α : Type} (V : Visitor α) (rest : List Char)
    (depth : Nat) : ∀ (fuel k : Nat) (c : Cursor), 0 < depth → depth ≤ k →
      2 * depth ≤ fuel + 1 → c.rest = List.replicate k '[' ++ rest →
      readValue V fuel depth c = .error ⟨.recursionLimit, c.line, c.column + depth⟩ := by
  induction depth with
  | zero => intro _ _ _ hpos; omega
  | succ d ih =>
    intro fuel k c _ hk hfuel hc
    obtain ⟨j, rfl⟩ : ∃ j, k = j + 1 := ⟨k - 1, by omega⟩
    obtain ⟨f, rfl⟩ : ∃ f, fuel = f + 1 := ⟨fuel - 1, by omega⟩
    have hopen : c.rest = '[' :: (List.replicate j '[' ++ rest) := by
      simpa [List.replicate_succ] using hc
    rcases Nat.eq_zero_or_pos d with rfl | hd
    · exact readValue_array_no_room V f 1 hopen le_rfl
    -- room for this bracket: its first item is the rest of the run, one column on
    obtain ⟨g, rfl⟩ : ∃ g, f = g + 1 := ⟨f - 1, by omega⟩
    obtain ⟨i, rfl⟩ : ∃ i, j = i + 1 := ⟨j - 1, by omega⟩
    have hbump : c.bump = ⟨List.replicate (i + 1) '[' ++ rest, c.line, c.column + 1⟩ :=
      Cursor.bump_of_head hopen (by decide)
    have hitem : c.bump.rest = '[' :: (List.replicate i '[' ++ rest) := by
      simp [hbump, List.replicate_succ]
    have hitems : readElements V (g + 1) (d + 1 - 1) true [] c.bump =
        .error ⟨.recursionLimit, c.bump.line, c.bump.column + d⟩ := by
      rw [Nat.add_sub_cancel, readElements_first V g d [] hitem (by decide) (by decide),
        ih g (i + 1) c.bump hd (by omega) (by omega) (by rw [hbump])]
    rw [readValue_array_error V (g + 1) (d + 1) hopen (by omega) hitems, hbump]
    simp only [ReadError.mk.injEq, Except.error.injEq, true_and]
    omega

/-- A text that opens `depthLimit` arrays or more before anything else is refused on its first
line, at the column of the bracket past the limit. -/
theorem readDocument_brackets_at_limit {α : Type} (V : Visitor α) {s : String} {k : Nat}
    {rest : List Char} (hs : s.toList = List.replicate k '[' ++ rest) (hk : depthLimit ≤ k) :
    readDocument V s = .error ⟨.recursionLimit, 1, depthLimit⟩ := by
  have hlen : k ≤ s.length := by
    have := congrArg List.length hs
    simp only [String.length_toList, List.length_append, List.length_replicate] at this
    omega
  rw [readDocument, readValue_brackets_at_limit V rest depthLimit (fuelFor s) k (Cursor.start s)
    (by decide) hk (by simp only [fuelFor, depthLimit] at hk ⊢; omega) hs]
  rfl

end ObjectMapping.Json
