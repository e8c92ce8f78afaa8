import ObjectMapping.Format.Json
import Mathlib

/-!
# Reading tokens back

The JSON reader moves a `Cursor` over the text. These lemmas say what it does on the tokens the
JSON format writes: each token is read whole, and what follows it is left unread. What is read
depends only on the unread characters, so the lemmas give the cursor's `rest` and leave its line
and column open.

* `Cursor.skipWhitespace_of_head`: no blank is skipped before a token that starts with none.
* `Delimits`: what the format writes after a value (a comma, a closing bracket or brace, or
  the end of the text). Nothing there extends a number.
* `readIdent_append`: the letters of `null`, `true` and `false`.
* `readNumber_toDigits`: the decimal digits of a natural number below `2^64` are read whole,
  leaving the sign to `afterInteger` (`afterInteger_unsigned`, `afterInteger_signed`);
  `readValue_digits` hands them to the visitor.
* `readString_jsonQuote`: a quoted string, escapes and all, reads back as the string.
* `readValue_array`, `readElements_next`, `readElements_close` and their counterparts for
  objects: one step of the reader at a bracket, an item or an entry, for any visitor.
-/

namespace ObjectMapping.Json

open ObjectMapping.Text

/-! ## The reader's steps -/

section

variable {ε α β : Type}

@[simp] theorem ok_bind (a : α) (f : α → Except ε β) : (Except.ok a >>= f) = f a := rfl

@[simp] theorem error_bind (e : ε) (f : α → Except ε β) : (Except.error e >>= f) = .error e := rfl

@[simp] theorem pure_eq_ok (a : α) : (pure a : Except ε α) = .ok a := rfl

@[simp] theorem throw_eq_error (e : ε) : (throw e : Except ε α) = .error e := rfl

@[simp] theorem Visitor.accept_ok (a : α) (c : Cursor) : Visitor.accept (.ok a) c = .ok (a, c) :=
  rfl

/-- A step followed by another succeeds when both do. -/
theorem bind_eq_ok {x : Except ε α} {f : α → Except ε β} {b : β} :
    x >>= f = .ok b ↔ ∃ a, x = .ok a ∧ f a = .ok b := by
  cases x <;> simp

/-- A result transformed is a result when the original is one. -/
theorem map_eq_ok {x : Except ε α} {f : α → β} {b : β} :
    x.map f = .ok b ↔ ∃ a, x = .ok a ∧ f a = b := by
  cases x <;> simp [Except.map]

theorem Visitor.accept_eq_ok {r : Except String α} {c c' : Cursor} {a : α} :
    Visitor.accept r c = .ok (a, c') ↔ r = .ok a ∧ c' = c := by
  cases r with
  | error msg => simp [Visitor.accept]
  | ok b =>
    simp only [Visitor.accept_ok, Except.ok.injEq, Prod.mk.injEq]
    constructor
    · rintro ⟨rfl, rfl⟩
      exact ⟨rfl, rfl⟩
    · rintro ⟨rfl, rfl⟩
      exact ⟨rfl, rfl⟩

@[simp] theorem Visitor.accept_error (msg : String) (c : Cursor) :
    Visitor.accept (.error msg : Except String α) c = .error (c.fail (.message msg)) :=
  rfl

end

namespace Cursor

@[simp] theorem peek_eq (c : Cursor) : c.peek = c.rest.head? := rfl

@[simp] theorem rest_bump (c : Cursor) : c.bump.rest = c.rest.tail := by
  unfold bump
  split
  · rename_i h
    simp [h]
  · rename_i ch r h
    split <;> simp [h]

@[simp] theorem rest_advance (c : Cursor) (n : Nat) : (c.advance n).rest = c.rest.drop n := rfl

theorem advance_zero (c : Cursor) : c.advance 0 = c := by
  obtain ⟨rest, line, column⟩ := c
  simp [advance]

theorem advance_advance (c : Cursor) (m n : Nat) : (c.advance m).advance n = c.advance (m + n) := by
  simp [advance, Nat.add_assoc]

/-- Past a character other than a newline: the same line, as many columns on as it has bytes. -/
theorem bump_of_head {c : Cursor} {ch : Char} {r : List Char} (h : c.rest = ch :: r)
    (hnl : ch ≠ '\n') : c.bump = ⟨r, c.line, c.column + ch.utf8Size⟩ := by
  simp [bump, h, hnl]

theorem skipWhitespace_of_head {c : Cursor} {ch : Char} {r : List Char} (h : c.rest = ch :: r)
    (hb : ¬(ch = ' ' ∨ ch = '\t' ∨ ch = '\r' ∨ ch = '\n')) : c.skipWhitespace = c := by
  rw [skipWhitespace]
  split
  · rename_i ch' r' h'
    rw [h] at h'
    obtain ⟨rfl, rfl⟩ := List.cons.inj h'
    simp only [not_or] at hb
    simp [hb.1, hb.2.1, hb.2.2.1, hb.2.2.2]
  · rfl

theorem skipWhitespace_of_nil {c : Cursor} (h : c.rest = []) : c.skipWhitespace = c := by
  rw [skipWhitespace]
  split
  · rename_i h'
    rw [h] at h'
    cases h'
  · rfl

end Cursor

/-- What the format writes after a value: the end of the text, a comma, or a closing bracket
or brace. -/
def Delimits (r : List Char) : Prop := ∀ ch ∈ r.head?, ch = ',' ∨ ch = ']' ∨ ch = '}'

theorem Delimits.nil : Delimits [] := by
  simp [Delimits]

theorem Delimits.comma (r : List Char) : Delimits (',' :: r) := by
  simp [Delimits]

theorem Delimits.closeBracket (r : List Char) : Delimits (']' :: r) := by
  simp [Delimits]

theorem Delimits.closeBrace (r : List Char) : Delimits ('}' :: r) := by
  simp [Delimits]

/-- A delimiter is neither a digit nor the start of a fraction or an exponent. -/
theorem Delimits.not_number {r : List Char} (h : Delimits r) :
    ∀ ch ∈ r.head?, ch.isDigit = false ∧ ch ≠ '.' ∧ ch ≠ 'e' ∧ ch ≠ 'E' := by
  intro ch hch
  rcases h ch hch with rfl | rfl | rfl <;> decide

/-! ## Literals -/

theorem readIdent_append : ∀ (xs : List Char) (c : Cursor) (rest : List Char),
    c.rest = xs ++ rest → ∃ c', readIdent xs c = .ok c' ∧ c'.rest = rest
  | [], c, _, h => ⟨c, rfl, h⟩
  | x :: xs, c, rest, h => by
    have hbump : c.bump.rest = xs ++ rest := by simp [h]
    obtain ⟨c', hread, hrest⟩ := readIdent_append xs c.bump rest hbump
    exact ⟨c', by simp [readIdent, h, hread], hrest⟩

/-! ## Integers -/

/-- A digit opens none of the other kinds of token, and is no blank and no closing bracket. -/
theorem isDigit_facts {d : Char} (h : d.isDigit = true) :
    ¬(d = ' ' ∨ d = '\t' ∨ d = '\r' ∨ d = '\n') ∧ d ≠ 'n' ∧ d ≠ 't' ∧ d ≠ 'f' ∧ d ≠ '-' ∧
      d ≠ '"' ∧ d ≠ '[' ∧ d ≠ '{' ∧ d ≠ ']' ∧ d ≠ '}' := by
  refine ⟨?_, ?_, ?_, ?_, ?_, ?_, ?_, ?_, ?_, ?_⟩
  · rintro (rfl | rfl | rfl | rfl) <;> exact absurd h (by decide)
  all_goals
    rintro rfl
    exact absurd h (by decide)

/-- The accumulated digits exceed the bound exactly when the next step would. -/
theorem overflows_eq_false {acc d bound : Nat} (h : acc * 10 + d ≤ bound) :
    overflows acc d bound = false := by
  simp only [overflows, Bool.and_eq_false_iff, decide_eq_false_iff_not, Bool.or_eq_false_iff]
  omega

theorem le_ofDigitChars (l : List Char) (init : Nat) : init ≤ Nat.ofDigitChars 10 l init := by
  rw [Nat.ofDigitChars_eq_ofDigitChars_zero]
  have hpow : 1 ≤ 10 ^ l.length := Nat.one_le_pow _ _ (by decide)
  calc init ≤ 10 ^ l.length * init := Nat.le_mul_of_pos_left init hpow
    _ ≤ 10 ^ l.length * init + Nat.ofDigitChars 10 l 0 := Nat.le_add_right _ _

/-- Digits whose value stays within 64 bits are all taken into the significand. -/
theorem integerDigits_of_le (positive : Bool) : ∀ (ds : List Char) (sig : Nat) (c : Cursor),
    Nat.ofDigitChars 10 ds sig ≤ u64Max →
      integerDigits positive ds sig c =
        afterInteger positive (Nat.ofDigitChars 10 ds sig) (c.advance ds.length)
  | [], sig, c, _ => by simp [integerDigits, Cursor.advance_zero]
  | d :: ds, sig, c, h => by
    rw [Nat.ofDigitChars_cons] at h ⊢
    have hstep : sig * 10 + digitValue d ≤ u64Max := by
      have := le_ofDigitChars ds (10 * sig + (d.toNat - '0'.toNat))
      simp only [digitValue]
      omega
    have hnext : sig * 10 + digitValue d = 10 * sig + (d.toNat - '0'.toNat) := by
      simp only [digitValue]
      omega
    rw [integerDigits, overflows_eq_false hstep, if_neg Bool.false_ne_true, hnext,
      integerDigits_of_le positive ds _ _ h, Cursor.advance_advance, List.length_cons,
      Nat.add_comm 1]

theorem leadingDigits_append {ds rest : List Char} (hd : ∀ d ∈ ds, d.isDigit = true)
    (hr : ∀ ch ∈ rest.head?, ch.isDigit = false) : leadingDigits (ds ++ rest) = ds := by
  induction ds with
  | nil =>
    cases rest with
    | nil => rfl
    | cons ch r => simp [leadingDigits, hr ch rfl]
  | cons d ds ih =>
    have hds : ∀ x ∈ ds, x.isDigit = true := fun x hx => hd x (List.mem_cons_of_mem d hx)
    have hlead : leadingDigits (ds ++ rest) = ds := ih hds
    simp only [leadingDigits] at hlead ⊢
    simp [hd d List.mem_cons_self, hlead]

/-- The decimal digits of a positive number do not start with a zero. -/
theorem toDigits_ne_zero_cons {m : Nat} (hm : 0 < m) (r : List Char) :
    Nat.toDigits 10 m ≠ '0' :: r := by
  induction m using Nat.strongRecOn generalizing r with
  | _ m ih =>
    rw [Nat.toDigits_eq_if (by decide)]
    split
    · rename_i hlt
      simp only [ne_eq, List.cons.injEq, Nat.digitChar_eq_zero, not_and]
      intro h0
      omega
    · rename_i hge
      have hpos : 0 < m / 10 := Nat.div_pos (by omega) (by decide)
      obtain ⟨d, ds, hds⟩ := List.exists_cons_of_ne_nil (@Nat.toDigits_ne_nil (m / 10) 10)
      rw [hds, List.cons_append]
      intro heq
      obtain ⟨rfl, -⟩ := List.cons.inj heq
      exact ih (m / 10) (Nat.div_lt_self hm (by decide)) hpos ds hds

theorem afterInteger_unsigned {c : Cursor} (hr : Delimits c.rest) (sig : Nat) :
    afterInteger true sig c = .ok (.unsigned sig, c) := by
  unfold afterInteger
  cases h : c.rest with
  | nil => simp [h]
  | cons ch r =>
    obtain ⟨-, hdot, he, hE⟩ := hr.not_number ch (by simp [h])
    simp [h, hdot, he, hE]

theorem afterInteger_signed {c : Cursor} (hr : Delimits c.rest) {sig : Nat} (h1 : 1 ≤ sig)
    (h2 : sig ≤ 2 ^ 63) : afterInteger false sig c = .ok (.signed (-(sig : Int)), c) := by
  -- the range test is rewritten, not simplified, in the form the reader writes it
  have hfit : 1 ≤ sig ∧ sig ≤ Nat.pow 2 63 := ⟨h1, h2⟩
  unfold afterInteger
  cases h : c.rest with
  | nil =>
    simp only [Cursor.peek_eq, h, List.head?_nil]
    rw [if_neg (by decide), if_pos hfit]
  | cons ch r =>
    obtain ⟨-, hdot, he, hE⟩ := hr.not_number ch (by simp [h])
    simp only [Cursor.peek_eq, h, List.head?_cons]
    split
    · rename_i heq
      exact absurd (Option.some.inj heq) hdot
    · rename_i heq
      exact absurd (Option.some.inj heq) he
    · rename_i heq
      exact absurd (Option.some.inj heq) hE
    · rw [if_neg (by decide), if_pos hfit]

/-- The decimal digits of a number within 64 bits are read whole; the sign is then settled by
`afterInteger`. -/
theorem readNumber_toDigits (positive : Bool) {m : Nat} (hm : m ≤ u64Max) {c : Cursor}
    {rest : List Char} (h : c.rest = Nat.toDigits 10 m ++ rest) (hr : Delimits rest) :
    ∃ c', c'.rest = rest ∧ readNumber positive c = afterInteger positive m c' := by
  have hdigits : ∀ d ∈ Nat.toDigits 10 m, d.isDigit = true :=
    fun d hd => Nat.isDigit_of_mem_toDigits (by decide) (by decide) hd
  have hnd : ∀ ch ∈ rest.head?, ch.isDigit = false := fun ch hch => (hr.not_number ch hch).1
  rcases Nat.eq_zero_or_pos m with rfl | hpos
  · -- a lone zero: the reader looks one character further, at the delimiter
    have hbump : c.bump.rest = rest := by simp [h, Nat.toDigits_zero]
    refine ⟨c.bump, hbump, ?_⟩
    unfold readNumber
    cases hrest : rest with
    | nil => simp [h, hrest, Nat.toDigits_zero]
    | cons ch r => simp [h, hrest, Nat.toDigits_zero, hnd ch (by simp [hrest])]
  · obtain ⟨d, ds, hds⟩ := List.exists_cons_of_ne_nil (@Nat.toDigits_ne_nil m 10)
    have hd0 : d ≠ '0' := fun h0 => toDigits_ne_zero_cons hpos ds (h0 ▸ hds)
    have hd : d.isDigit = true := hdigits d (by simp [hds])
    have hval : Nat.ofDigitChars 10 ds (digitValue d) = m := by
      have hm' := @Nat.ofDigitChars_ten_toDigits m
      rw [hds, Nat.ofDigitChars_cons] at hm'
      simpa [digitValue] using hm'
    have hlead : leadingDigits (c.advance 1).rest = ds := by
      rw [Cursor.rest_advance, h, hds]
      exact leadingDigits_append (fun x hx => hdigits x (by simp [hds, hx])) hnd
    refine ⟨(c.advance 1).advance ds.length, by simp [h, hds], ?_⟩
    -- `hd0` rules out the branch of a leading zero
    unfold readNumber
    simp only [Cursor.peek_eq, h, hds, List.cons_append, List.head?_cons, hd, if_true]
    rw [hlead, integerDigits_of_le positive ds _ _ (hval ▸ hm), hval]

/-! ## Strings -/

/-- The four hexadecimal digits of a control character's `\u` escape. -/
theorem hexPadded_control : ∀ n < 32,
    (hexPadded 4 n).toList = ['0', '0', Nat.digitChar (n / 16), Nat.digitChar (n % 16)] := by
  intro n hn
  simp only [hexPadded, String.toList_ofList]
  revert n
  decide

theorem hexValue_digitChar : ∀ k < 16, hexValue (Nat.digitChar k) = some k := by decide

theorem utf8Size_digitChar : ∀ k < 16, (Nat.digitChar k).utf8Size = 1 := by decide

theorem readHex4_control {n : Nat} (hn : n < 32) {c : Cursor} {r : List Char}
    (h : c.rest = (hexPadded 4 n).toList ++ r) : ∃ c', c'.rest = r ∧ readHex4 c = .ok (n, c') := by
  rw [hexPadded_control n hn] at h
  have hhi : n / 16 < 16 := by omega
  have hlo : n % 16 < 16 := Nat.mod_lt n (by decide)
  refine ⟨c.advance 4, by simp [h], ?_⟩
  have hzero : hexValue '0' = some 0 := by decide
  have hsize : '0'.utf8Size = 1 := by decide
  simp [readHex4, h, hsize, utf8Size_digitChar _ hhi, utf8Size_digitChar _ hlo, hzero,
    hexValue_digitChar _ hhi, hexValue_digitChar _ hlo, Nat.div_add_mod' n 16]

theorem readUnicodeEscape_control {n : Nat} (hn : n < 32) {c : Cursor} {r : List Char}
    (h : c.rest = (hexPadded 4 n).toList ++ r) :
    ∃ c', c'.rest = r ∧ readUnicodeEscape c = .ok (Char.ofNat n, c') := by
  obtain ⟨c', hrest, hhex⟩ := readHex4_control hn h
  have hlow : ¬(0xDC00 ≤ n ∧ n ≤ 0xDFFF) := by omega
  have hbmp : n < 0xD800 ∨ 0xDBFF < n := by omega
  exact ⟨c', hrest, by simp [readUnicodeEscape, hhex, hlow, hbmp]⟩

/-- One step of the string reader takes back one character as `jsonChar` writes it: plain, by
name after a backslash, or as a `\u` escape. -/
theorem readStringBody_jsonChar (ch : Char) (fuel : Nat) (acc : List Char) {c : Cursor}
    {r : List Char} (h : c.rest = (jsonChar ch).toList ++ r) :
    ∃ c', c'.rest = r ∧ readStringBody (fuel + 1) acc c = readStringBody fuel (ch :: acc) c' := by
  unfold jsonChar at h
  split at h
  case h_6 hq hb hn hr ht =>
    split at h
    · rename_i h8
      have hch : ch = Char.ofNat 8 := by rw [← h8, Char.ofNat_toNat]
      subst hch
      exact ⟨c.bump.bump, by simp [h], by simp [readStringBody, readEscape, h]⟩
    rename_i h8
    split at h
    · rename_i h12
      have hch : ch = Char.ofNat 12 := by rw [← h12, Char.ofNat_toNat]
      subst hch
      exact ⟨c.bump.bump, by simp [h], by simp [readStringBody, readEscape, h]⟩
    rename_i h12
    split at h
    · -- a control character without a name, as four hexadecimal digits
      rename_i hctl
      obtain ⟨c', hrest, hesc⟩ :=
        readUnicodeEscape_control hctl (c := c.bump.bump) (r := r) (by simp [h])
      refine ⟨c', hrest, ?_⟩
      simp [readStringBody, readEscape, h, hesc, Char.ofNat_toNat]
    · rename_i hctl
      refine ⟨c.bump, by simp [h], ?_⟩
      simp [readStringBody, h, hctl]
  -- a quote, a backslash, a newline, a carriage return or a tab: a backslash and one letter
  all_goals exact ⟨c.bump.bump, by simp [h], by simp [readStringBody, readEscape, h]⟩

/-- The escaped characters of a string, as `jsonQuote` writes them between its quotes. -/
def escapedChars (cs : List Char) : List Char := cs.flatMap fun ch => (jsonChar ch).toList

theorem jsonChar_toList_ne_nil (ch : Char) : (jsonChar ch).toList ≠ [] := by
  unfold jsonChar
  split <;> (repeat' split) <;> simp

theorem length_le_escapedChars (cs : List Char) : cs.length ≤ (escapedChars cs).length := by
  induction cs with
  | nil => simp [escapedChars]
  | cons ch cs ih =>
    have hne := jsonChar_toList_ne_nil ch
    have hpos : 0 < (jsonChar ch).toList.length := List.length_pos_iff.mpr hne
    simp only [escapedChars, List.flatMap_cons, List.length_append, List.length_cons] at ih ⊢
    omega

theorem readStringBody_escapedChars : ∀ (cs : List Char) (fuel : Nat) (acc : List Char)
    (c : Cursor) (r : List Char), c.rest = escapedChars cs ++ '"' :: r →
    ∃ c', c'.rest = r ∧
      readStringBody (fuel + cs.length + 1) acc c = .ok (String.ofList (acc.reverse ++ cs), c')
  | [], fuel, acc, c, r, h =>
    ⟨c.bump, by simp [h, escapedChars], by simp [readStringBody, h, escapedChars]⟩
  | ch :: cs, fuel, acc, c, r, h => by
    have h' : c.rest = (jsonChar ch).toList ++ (escapedChars cs ++ '"' :: r) := by
      simpa [escapedChars] using h
    obtain ⟨c₁, hrest₁, hstep⟩ := readStringBody_jsonChar ch (fuel + cs.length + 1) acc h'
    obtain ⟨c₂, hrest₂, hread⟩ := readStringBody_escapedChars cs fuel (ch :: acc) c₁ r hrest₁
    refine ⟨c₂, hrest₂, ?_⟩
    rw [List.length_cons, show fuel + (cs.length + 1) + 1 = fuel + cs.length + 1 + 1 by omega,
      hstep, hread]
    simp

/-- A string quoted by `jsonQuote` reads back as the string, past its closing quote. -/
theorem readString_jsonQuote (s : String) {c : Cursor} {r : List Char}
    (h : c.rest = (jsonQuote s).toList.tail ++ r) :
    ∃ c', c'.rest = r ∧ readString c = .ok (s, c') := by
  have h' : c.rest = escapedChars s.toList ++ '"' :: r := by
    simpa [jsonQuote, escapedChars, String.toList_join, List.flatMap, Function.comp_def] using h
  have hlen : s.toList.length ≤ c.rest.length := by
    have := length_le_escapedChars s.toList
    rw [h', List.length_append]
    omega
  -- the reader's fuel, one step per character left, covers one step per written character
  obtain ⟨c', hrest, hread⟩ :=
    readStringBody_escapedChars s.toList (c.rest.length - s.toList.length) [] c r h'
  refine ⟨c', hrest, ?_⟩
  unfold readString
  rw [show c.rest.length + 1 = c.rest.length - s.toList.length + s.toList.length + 1 by omega,
    hread]
  simp

/-! ## Values, items and entries

What one step of `readValue`, `readElements` and `readEntries` does at a token the format
writes, for any visitor. -/

section

variable {α : Type} (V : Visitor α) (fuel depth : Nat) {c : Cursor}

/-- An array: past its opening bracket the items, past its closing bracket what follows. -/
theorem readValue_array {r : List Char} (hc : c.rest = '[' :: r) (hdeep : 1 < depth)
    {items : List α} {c' : Cursor}
    (h : readElements V fuel (depth - 1) true [] c.bump = .ok (items, c')) :
    readValue V (fuel + 1) depth c = .ok (V.array items, c'.bump) := by
  have hroom : ¬depth ≤ 1 := by omega
  rw [readValue, Cursor.skipWhitespace_of_head hc (by decide)]
  simp only [Cursor.peek_eq, hc, List.head?_cons, hroom, if_false]
  rw [h]
  rfl

/-- An object: past its opening brace the entries, past its closing brace what follows. -/
theorem readValue_object {r : List Char} (hc : c.rest = '{' :: r) (hdeep : 1 < depth)
    {entries : List (String × α)} {c' : Cursor}
    (h : readEntries V fuel (depth - 1) true [] c.bump = .ok (entries, c')) :
    readValue V (fuel + 1) depth c = .ok (V.object entries, c'.bump) := by
  have hroom : ¬depth ≤ 1 := by omega
  rw [readValue, Cursor.skipWhitespace_of_head hc (by decide)]
  simp only [Cursor.peek_eq, hc, List.head?_cons, hroom, if_false]
  rw [h]
  rfl

/-- An array whose items fail fails with them. -/
theorem readValue_array_error {r : List Char} (hc : c.rest = '[' :: r) (hdeep : 1 < depth)
    {e : ReadError} (h : readElements V fuel (depth - 1) true [] c.bump = .error e) :
    readValue V (fuel + 1) depth c = .error e := by
  have hroom : ¬depth ≤ 1 := by omega
  rw [readValue, Cursor.skipWhitespace_of_head hc (by decide)]
  simp only [Cursor.peek_eq, hc, List.head?_cons, hroom, if_false]
  rw [h]
  rfl

/-- An object whose entries fail fails with them. -/
theorem readValue_object_error {r : List Char} (hc : c.rest = '{' :: r) (hdeep : 1 < depth)
    {e : ReadError} (h : readEntries V fuel (depth - 1) true [] c.bump = .error e) :
    readValue V (fuel + 1) depth c = .error e := by
  have hroom : ¬depth ≤ 1 := by omega
  rw [readValue, Cursor.skipWhitespace_of_head hc (by decide)]
  simp only [Cursor.peek_eq, hc, List.head?_cons, hroom, if_false]
  rw [h]
  rfl

/-- An array opened with no room left is refused one byte on, past its bracket. -/
theorem readValue_array_no_room {r : List Char} (hc : c.rest = '[' :: r) (hdepth : depth ≤ 1) :
    readValue V (fuel + 1) depth c = .error ⟨.recursionLimit, c.line, c.column + 1⟩ := by
  rw [readValue, Cursor.skipWhitespace_of_head hc (by decide)]
  simp [hc, hdepth, Cursor.failAhead, Cursor.stepped, Cursor.fail]

/-- A closing bracket ends the items, and is left for `readValue` to step over. -/
theorem readElements_close (first : Bool) (acc : List α) {r : List Char}
    (hc : c.rest = ']' :: r) :
    readElements V (fuel + 1) depth first acc c = .ok (acc.reverse, c) := by
  rw [readElements, Cursor.skipWhitespace_of_head hc (by decide)]
  simp [hc]

theorem readEntries_close (first : Bool) (acc : List (String × α)) {r : List Char}
    (hc : c.rest = '}' :: r) :
    readEntries V (fuel + 1) depth first acc c = .ok (acc.reverse, c) := by
  rw [readEntries, Cursor.skipWhitespace_of_head hc (by decide)]
  simp [hc]

/-- A literal: its first letter picks it, and the others must follow. -/
theorem readValue_null {rest : List Char} (hc : c.rest = 'n' :: 'u' :: 'l' :: 'l' :: rest) :
    ∃ c', readValue V (fuel + 1) depth c = Visitor.accept V.null c' ∧ c'.rest = rest := by
  obtain ⟨c', hident, hrest⟩ := readIdent_append ['u', 'l', 'l'] c.bump rest (by simp [hc])
  refine ⟨c', ?_, hrest⟩
  rw [readValue, Cursor.skipWhitespace_of_head hc (by decide)]
  simp [hc, hident]

theorem readValue_true {rest : List Char} (hc : c.rest = 't' :: 'r' :: 'u' :: 'e' :: rest) :
    ∃ c', readValue V (fuel + 1) depth c = Visitor.accept (V.bool true) c' ∧ c'.rest = rest := by
  obtain ⟨c', hident, hrest⟩ := readIdent_append ['r', 'u', 'e'] c.bump rest (by simp [hc])
  refine ⟨c', ?_, hrest⟩
  rw [readValue, Cursor.skipWhitespace_of_head hc (by decide)]
  simp [hc, hident]

theorem readValue_false {rest : List Char}
    (hc : c.rest = 'f' :: 'a' :: 'l' :: 's' :: 'e' :: rest) :
    ∃ c', readValue V (fuel + 1) depth c = Visitor.accept (V.bool false) c' ∧ c'.rest = rest := by
  obtain ⟨c', hident, hrest⟩ := readIdent_append ['a', 'l', 's', 'e'] c.bump rest (by simp [hc])
  refine ⟨c', ?_, hrest⟩
  rw [readValue, Cursor.skipWhitespace_of_head hc (by decide)]
  simp [hc, hident]

/-- The digits of a natural number below `2^64` are handed to the visitor as an unsigned
number, whether or not it accepts them. -/
theorem readValue_digits {m : Nat} {rest : List Char} (hm : m ≤ u64Max)
    (h : c.rest = Nat.toDigits 10 m ++ rest) (hr : Delimits rest) :
    ∃ c', readValue V (fuel + 1) depth c = Visitor.accept (V.number (.unsigned m)) c' ∧
      c'.rest = rest := by
  obtain ⟨c', hrest, hnum⟩ := readNumber_toDigits true hm h hr
  obtain ⟨d, ds, hds⟩ := List.exists_cons_of_ne_nil (@Nat.toDigits_ne_nil m 10)
  have hmem : d ∈ Nat.toDigits 10 m := by simp [hds]
  have hd : d.isDigit = true := Nat.isDigit_of_mem_toDigits (by decide) (by decide) hmem
  have hc : c.rest = d :: (ds ++ rest) := by rw [h, hds, List.cons_append]
  obtain ⟨hb, hn, ht, hf, hminus, hq, hl, hbr, -, -⟩ := isDigit_facts hd
  refine ⟨c', ?_, hrest⟩
  rw [readValue, Cursor.skipWhitespace_of_head hc hb]
  simp only [Cursor.peek_eq, hc, List.head?_cons, hd, if_true]
  rw [hnum, afterInteger_unsigned (hrest ▸ hr)]
  rfl

/-- The first item starts where it is; any other after a comma. -/
theorem itemStart_eq_ok (first : Bool) {ch : Char} {r : List Char}
    (h : c.rest = (if first then [] else [',']) ++ ch :: r)
    (hblank : ¬(ch = ' ' ∨ ch = '\t' ∨ ch = '\r' ∨ ch = '\n')) (hclose : ch ≠ ']') :
    ∃ c₀, c₀.rest = ch :: r ∧ itemStart first (c.rest.head?.getD ch) c = .ok c₀ := by
  cases first with
  | true =>
    have hc : c.rest = ch :: r := by simpa using h
    exact ⟨c, hc, by simp [itemStart]⟩
  | false =>
    have hc : c.rest = ',' :: ch :: r := by simpa using h
    have hbump : c.bump.rest = ch :: r := by simp [hc]
    refine ⟨c.bump, hbump, ?_⟩
    simp [itemStart, hc, Cursor.skipWhitespace_of_head hbump hblank]

/-- The first key starts where it is; any other after a comma. -/
theorem entryStart_eq_ok (first : Bool) {r : List Char}
    (h : c.rest = (if first then [] else [',']) ++ '"' :: r) :
    ∃ c₀, c₀.rest = '"' :: r ∧ entryStart first (c.rest.head?.getD '"') c = .ok c₀ := by
  cases first with
  | true =>
    have hc : c.rest = '"' :: r := by simpa using h
    exact ⟨c, hc, by simp [entryStart, hc]⟩
  | false =>
    have hc : c.rest = ',' :: '"' :: r := by simpa using h
    have hbump : c.bump.rest = '"' :: r := by simp [hc]
    refine ⟨c.bump, hbump, ?_⟩
    simp [entryStart, hc, Cursor.skipWhitespace_of_head hbump (by decide)]

/-- A key quoted by `jsonQuote` and its colon. -/
theorem readKey_jsonQuote (key : String) {r : List Char}
    (h : c.rest = (jsonQuote key).toList ++ ':' :: r) :
    ∃ c', c'.rest = r ∧ readKey c = .ok (key, c') := by
  obtain ⟨c₁, hrest, hread⟩ := readString_jsonQuote key (c := c.bump) (r := ':' :: r)
    (by rw [Cursor.rest_bump, h]; simp [jsonQuote])
  refine ⟨c₁.bump, by simp [hrest], ?_⟩
  simp [readKey, hread, Cursor.skipWhitespace_of_head hrest (by decide), hrest]

/-- Past the separator before an item (none before the first, a comma before the others), the
reader reads the item. -/
theorem readElements_next (first : Bool) (acc : List α) {ch : Char} {r : List Char}
    (h : c.rest = (if first then [] else [',']) ++ ch :: r)
    (hblank : ¬(ch = ' ' ∨ ch = '\t' ∨ ch = '\r' ∨ ch = '\n')) (hclose : ch ≠ ']') :
    ∃ c₀, c₀.rest = ch :: r ∧
      readElements V (fuel + 1) depth first acc c =
        match readValue V fuel depth c₀ with
        | .error e => .error e
        | .ok (item, c) => readElements V fuel depth false (item :: acc) c := by
  obtain ⟨c₀, hrest, hstart⟩ := itemStart_eq_ok first h hblank hclose
  -- the separator, or the item itself, is the next character
  obtain ⟨ch₀, r₀, hc⟩ : ∃ ch₀ r₀, c.rest = ch₀ :: r₀ := by
    cases first <;> exact ⟨_, _, by simpa using h⟩
  have hch₀ : ch₀ ≠ ']' ∧ ¬(ch₀ = ' ' ∨ ch₀ = '\t' ∨ ch₀ = '\r' ∨ ch₀ = '\n') := by
    cases first <;> simp at h <;> rw [h] at hc <;> obtain ⟨rfl, -⟩ := List.cons.inj hc
    · exact ⟨by decide, by decide⟩
    · exact ⟨hclose, hblank⟩
  rw [hc] at hstart
  refine ⟨c₀, hrest, ?_⟩
  rw [readElements, Cursor.skipWhitespace_of_head hc hch₀.2]
  simp only [Cursor.peek_eq, hc, List.head?_cons]
  simp only [List.head?_cons, Option.getD_some] at hstart
  split
  · rename_i heq
    cases heq
  · rename_i heq
    cases heq
    exact absurd rfl hch₀.1
  · rename_i ch' _ heq
    cases heq
    -- the two matches are the same up to their auxiliary matchers
    exact hstart ▸ rfl

/-- The first item starts where the items do. -/
theorem readElements_first (acc : List α) {ch : Char} {r : List Char} (hc : c.rest = ch :: r)
    (hblank : ¬(ch = ' ' ∨ ch = '\t' ∨ ch = '\r' ∨ ch = '\n')) (hclose : ch ≠ ']') :
    readElements V (fuel + 1) depth true acc c =
      match readValue V fuel depth c with
      | .error e => .error e
      | .ok (item, c) => readElements V fuel depth false (item :: acc) c := by
  rw [readElements, Cursor.skipWhitespace_of_head hc hblank]
  simp only [Cursor.peek_eq, hc, List.head?_cons]
  -- past the closing bracket's case (ruled out by `hclose`), `itemStart` gives the cursor back
  rfl

/-- Past the separator before an entry, the reader reads the key and the colon, then the
value. -/
theorem readEntries_next (first : Bool) (acc : List (String × α)) {key : String}
    {r : List Char}
    (h : c.rest = (if first then [] else [',']) ++ (jsonQuote key).toList ++ ':' :: r) :
    ∃ c₀, c₀.rest = r ∧
      readEntries V (fuel + 1) depth first acc c =
        match readValue V fuel depth c₀ with
        | .error e => .error e
        | .ok (item, c) => readEntries V fuel depth false ((key, item) :: acc) c := by
  have h' : c.rest = (if first then [] else [',']) ++
      '"' :: ((jsonQuote key).toList.tail ++ ':' :: r) := by
    rw [h]
    cases first <;> simp [jsonQuote]
  obtain ⟨c₁, hrest₁, hstart⟩ := entryStart_eq_ok first h'
  obtain ⟨c₀, hrest₀, hkey⟩ := readKey_jsonQuote key (c := c₁) (r := r)
    (by rw [hrest₁]; simp [jsonQuote])
  obtain ⟨ch₀, r₀, hc⟩ : ∃ ch₀ r₀, c.rest = ch₀ :: r₀ := by
    cases first <;> exact ⟨_, _, by simpa using h'⟩
  have hch₀ : ch₀ ≠ '}' ∧ ¬(ch₀ = ' ' ∨ ch₀ = '\t' ∨ ch₀ = '\r' ∨ ch₀ = '\n') := by
    cases first <;> simp at h' <;> rw [h'] at hc <;> obtain ⟨rfl, -⟩ := List.cons.inj hc <;>
      exact ⟨by decide, by decide⟩
  rw [hc] at hstart
  refine ⟨c₀, hrest₀, ?_⟩
  rw [readEntries, Cursor.skipWhitespace_of_head hc hch₀.2]
  simp only [Cursor.peek_eq, hc, List.head?_cons]
  simp only [List.head?_cons, Option.getD_some] at hstart
  split
  · rename_i heq
    cases heq
  · rename_i heq
    cases heq
    exact absurd rfl hch₀.1
  · rename_i ch' _ heq
    cases heq
    rw [hstart]
    simp only
    exact hkey ▸ rfl
end

end ObjectMapping.Json
