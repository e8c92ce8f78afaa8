import Mathlib
import ObjectMapping.Factory

/-!
# Camel-case property names

`Naming.camelCase` names a property by its rename; without one, by its field name, as it is when
the name has no `_` and through `toCamelCase` otherwise. `toCamelCase` runs `camelStep` over the
characters, with a flag for a pending capital, and keeps an `_` only while all it has written is
`_`.

The rule this follows is `Naming.camelWords`: the leading run of `_` stays; the rest of the name,
cut at every `_`, keeps its first piece as it is and writes every later piece capitalized, its
first character in full upper case. So every other `_` goes, a run of them counts once, and
trailing ones leave nothing.

* `foldl_camelStep_lead`, `foldl_camelStep_piece`, `foldl_camelStep_marked`,
  `foldl_camelStep_pieces`: the fold over the leading run, over the first piece, and over each
  later piece with the `_` before it; `foldl_camelStep_split` puts them together.
* `toCamelCase_eq_camelWords`: the rule, for every name; `camelCase_eq_camelWords`: the external
  name of every property without a rename, whether or not its name has an `_`.
* `snakeOf_camelWords`: on a snake-case name (`isSnakeName`), writing each capital back as `_`
  and its small letter gives the name again, so two snake-case field names never share an
  external name (`camelCase_injective`). The form matters: the fields `a_b` and `aB` of
  `CamelClash` are both written `aB`.
* `camel_case_names`: all of it.
-/

namespace ObjectMapping.Naming

open ObjectMapping.Text

/-- A piece after a run of `_`, capitalized: its first character in full upper case. -/
def capitalize : List Char → List Char
  | [] => []
  | c :: rest => upperFull c ++ rest

/-- Camel case by its rule: the leading run of `_`, then the rest cut at every `_`, its first
piece as it is and the later pieces capitalized (an empty piece leaves nothing). -/
def camelWords (name : List Char) : List Char :=
  let pieces := (name.dropWhile (· == '_')).splitOn '_'
  name.takeWhile (· == '_') ++ pieces.headD [] ++ pieces.tail.flatMap capitalize

/-- A word of a snake-case name: a small ASCII letter, then small letters and digits. -/
def isLowerWord : List Char → Bool
  | [] => false
  | c :: rest => c.isLower && rest.all fun x => x.isLower || x.isDigit

/-- A snake-case name, `_*[a-z][a-z0-9]*(_[a-z][a-z0-9]*)*`: after its leading run of `_`,
words joined by single `_`. -/
def isSnakeName (name : List Char) : Bool :=
  ((name.dropWhile (· == '_')).splitOn '_').all isLowerWord

/-- Reads every capital back as `_` and its small letter. -/
def snakeOf (text : List Char) : List Char :=
  text.flatMap fun c => if c.isUpper then ['_', c.toLower] else [c]

/-! ## One character -/

section Step

variable {out : List Char} {upper : Bool} {c : Char}

theorem camelStep_lead (h : ∀ x ∈ out, x = '_') :
    camelStep (out, upper) '_' = (out ++ ['_'], upper) := by
  simpa [camelStep] using h

theorem camelStep_mark (h : ∃ x ∈ out, x ≠ '_') :
    camelStep (out, upper) '_' = (out, true) := by
  have hall : out.all (· == '_') = false := by simpa using h
  simp [camelStep, hall]

theorem camelStep_plain (hc : c ≠ '_') : camelStep (out, false) c = (out ++ [c], false) := by
  simp [camelStep, hc]

theorem camelStep_capital (hc : c ≠ '_') :
    camelStep (out, true) c = (out ++ upperFull c, false) := by
  simp [camelStep, hc]

end Step

/-! ## Runs of characters -/

section Run

variable {out : List Char} {upper : Bool}

/-- While only `_` have been written, a run of `_` is written as it is. -/
theorem foldl_camelStep_lead (k : Nat) (h : ∀ x ∈ out, x = '_') :
    (List.replicate k '_').foldl camelStep (out, upper) = (out ++ List.replicate k '_', upper) := by
  induction k generalizing out with
  | zero => simp
  | succ k ih =>
    have hlead : ∀ x ∈ out ++ ['_'], x = '_' := by
      intro x hx
      rcases List.mem_append.mp hx with hx | hx
      · exact h x hx
      · simpa using hx
    rw [List.replicate_succ, List.foldl_cons, camelStep_lead h, ih hlead]
    simp

/-- A piece with no `_`, reached with no capital pending, is copied. -/
theorem foldl_camelStep_piece {w : List Char} (hw : '_' ∉ w) :
    w.foldl camelStep (out, false) = (out ++ w, false) := by
  induction w generalizing out with
  | nil => simp
  | cons c w ih =>
    simp only [List.mem_cons, not_or] at hw
    rw [List.foldl_cons, camelStep_plain (Ne.symm hw.1), ih hw.2]
    simp

/-- Once something other than `_` is written, an `_` and the piece after it write the piece
capitalized, and leave a capital pending exactly when the piece is empty. -/
theorem foldl_camelStep_marked {w : List Char} (hw : '_' ∉ w) (h : ∃ x ∈ out, x ≠ '_') :
    ('_' :: w).foldl camelStep (out, upper) = (out ++ capitalize w, w.isEmpty) := by
  rw [List.foldl_cons, camelStep_mark h]
  cases w with
  | nil => simp [capitalize]
  | cons c rest =>
    simp only [List.mem_cons, not_or] at hw
    rw [List.foldl_cons, camelStep_capital (Ne.symm hw.1), foldl_camelStep_piece hw.2]
    simp [capitalize]

/-- The later pieces, each after its `_`, are written capitalized. -/
theorem foldl_camelStep_pieces {ws : List (List Char)} (hws : ∀ w ∈ ws, '_' ∉ w)
    (h : ∃ x ∈ out, x ≠ '_') :
    ((ws.flatMap ('_' :: ·)).foldl camelStep (out, upper)).1 = out ++ ws.flatMap capitalize := by
  induction ws generalizing out upper with
  | nil => simp
  | cons w ws ih =>
    have hmore : ∃ x ∈ out ++ capitalize w, x ≠ '_' := by
      obtain ⟨x, hx, hne⟩ := h
      exact ⟨x, List.mem_append_left _ hx, hne⟩
    rw [List.flatMap_cons, List.foldl_append, foldl_camelStep_marked (hws w (by simp)) h,
      ih (fun v hv => hws v (List.mem_cons_of_mem _ hv)) hmore]
    simp

/-- A name cut into a leading run of `k` underscores, a first piece and later pieces, none of
them holding an `_`, with an empty first piece only when no piece follows. -/
theorem foldl_camelStep_split (k : Nat) {w₀ : List Char} {ws : List (List Char)}
    (hw₀ : '_' ∉ w₀) (hws : ∀ w ∈ ws, '_' ∉ w) (hstart : w₀ = [] → ws = []) :
    ((List.replicate k '_' ++ w₀ ++ ws.flatMap ('_' :: ·)).foldl camelStep ([], false)).1 =
      List.replicate k '_' ++ w₀ ++ ws.flatMap capitalize := by
  have hlead : (List.replicate k '_').foldl camelStep ([], false) =
      ([] ++ List.replicate k '_', false) := foldl_camelStep_lead k (by simp)
  rw [List.foldl_append, List.foldl_append, hlead, List.nil_append, foldl_camelStep_piece hw₀]
  cases w₀ with
  | nil => simp [hstart rfl]
  | cons c rest =>
    -- the first piece starts with a character other than `_`, which stays written
    have hc : c ≠ '_' := fun hc => hw₀ (by simp [hc])
    rw [foldl_camelStep_pieces hws ⟨c, by simp, hc⟩]

end Run

/-! ## The rule -/

/-- No piece of a split holds the character split on. -/
theorem not_mem_of_mem_splitOn {xs w : List Char} {x : Char} (h : w ∈ xs.splitOn x) :
    x ∉ w := by
  induction xs generalizing w with
  | nil => simp_all
  | cons y ys ih =>
    rw [List.splitOn_cons_eq_if_modifyHead] at h
    split at h
    · rcases List.mem_cons.mp h with rfl | h
      · simp
      · exact ih h
    · next hy =>
      obtain ⟨v, vs, hsplit⟩ := List.exists_cons_of_ne_nil (List.splitOn_ne_nil x ys)
      rw [hsplit, List.modifyHead_cons] at h
      rcases List.mem_cons.mp h with rfl | h
      · simp only [List.mem_cons, not_or]
        exact ⟨fun hxy => hy (by simp [hxy]), ih (by simp [hsplit])⟩
      · exact ih (by simp [hsplit, h])

theorem intercalate_cons_eq (x : Char) (w₀ : List Char) (ws : List (List Char)) :
    [x].intercalate (w₀ :: ws) = w₀ ++ ws.flatMap (x :: ·) := by
  induction ws generalizing w₀ with
  | nil => simp
  | cons w ws ih => simp [List.intercalate_cons_cons, ih]

theorem mem_takeWhile_underscore {cs : List Char} {x : Char}
    (hx : x ∈ cs.takeWhile (· == '_')) : x = '_' := by
  simpa using List.all_eq_true.mp List.all_takeWhile x hx

/-- The leading run of `_` of a name is a run of `_`. -/
theorem takeWhile_eq_replicate (cs : List Char) :
    ∃ k, cs.takeWhile (· == '_') = List.replicate k '_' :=
  ⟨_, List.eq_replicate_iff.mpr ⟨rfl, fun _ hx => mem_takeWhile_underscore hx⟩⟩

/-- `toCamelCase` follows the rule, for every name. -/
theorem toCamelCase_eq_camelWords (name : String) :
    (toCamelCase name).toList = camelWords name.toList := by
  obtain ⟨k, hk⟩ := takeWhile_eq_replicate name.toList
  obtain ⟨w₀, ws, hsplit⟩ := List.exists_cons_of_ne_nil
    (List.splitOn_ne_nil '_' (name.toList.dropWhile (· == '_')))
  have hrest : name.toList.dropWhile (· == '_') = w₀ ++ ws.flatMap ('_' :: ·) :=
    calc name.toList.dropWhile (· == '_')
        = ['_'].intercalate ((name.toList.dropWhile (· == '_')).splitOn '_') :=
          (List.intercalate_splitOn '_').symm
      _ = w₀ ++ ws.flatMap ('_' :: ·) := by rw [hsplit, intercalate_cons_eq]
  have hpieces : ∀ w ∈ w₀ :: ws, '_' ∉ w := fun w hw =>
    not_mem_of_mem_splitOn (hsplit ▸ hw)
  -- past the leading run the name does not start with `_`, so an empty first piece ends it
  have hstart : w₀ = [] → ws = [] := by
    intro h0
    cases ws with
    | nil => rfl
    | cons v vs =>
      have hne : name.toList.dropWhile (· == '_') ≠ [] := by simp [hrest]
      have hhead := List.head_dropWhile_not (· == '_') hne
      simp [hrest, h0] at hhead
  have hname : name.toList = List.replicate k '_' ++ w₀ ++ ws.flatMap ('_' :: ·) := by
    rw [List.append_assoc, ← hrest, ← hk, List.takeWhile_append_dropWhile]
  calc (toCamelCase name).toList = (name.toList.foldl camelStep ([], false)).1 := by
        simp [toCamelCase]
    _ = List.replicate k '_' ++ w₀ ++ ws.flatMap capitalize := by
        rw [hname]
        exact foldl_camelStep_split k (hpieces w₀ (by simp))
          (fun w hw => hpieces w (List.mem_cons_of_mem _ hw)) hstart
    _ = camelWords name.toList := by simp [camelWords, hsplit, hk]

/-- A name with no `_` is its own camel case. -/
theorem camelWords_of_not_mem {name : List Char} (h : '_' ∉ name) : camelWords name = name := by
  have hfirst : ∀ c rest, name = c :: rest → (c == '_') = false := by
    rintro c rest rfl
    simpa using fun hc => h (by simp [hc])
  have htake : name.takeWhile (· == '_') = [] := by
    cases name with
    | nil => rfl
    | cons c rest => simp [hfirst c rest rfl]
  have hdrop : name.dropWhile (· == '_') = name := by
    cases name with
    | nil => rfl
    | cons c rest => simp [hfirst c rest rfl]
  simp [camelWords, htake, hdrop, List.splitOn_eq_singleton h]

/-- The external name of a property without a rename follows the rule, whether or not its name
has an `_`. -/
theorem camelCase_eq_camelWords (d : Descriptor) {p : PropertyInfo} (hp : p.rename = none) :
    (camelCase d p).toList = camelWords p.name.toList := by
  simp only [camelCase, hp]
  split
  · exact toCamelCase_eq_camelWords p.name
  · next hno =>
    rw [camelWords_of_not_mem (by simpa using hno)]

/-! ## Snake-case names are written apart -/

/-- A small ASCII letter is an ASCII character whose full upper case is its capital, which
reads back as the letter. -/
theorem isLower_toUpper {c : Char} (h : c.isLower = true) :
    upperFull c = [c.toUpper] ∧ c.toUpper.isUpper = true ∧ c.toUpper.toLower = c := by
  have hascii : c.toNat < 128 := by
    simp [Char.isLower, UInt32.le_iff_toNat_le] at h
    omega
  refine ⟨by simp [upperFull, hascii], by simp [Char.isAlpha, h], ?_⟩
  rw [Char.toLower_toUpper_eq_toLower]
  exact Char.toLower_eq_of_not_isUpper (Char.not_isUpper_of_isLower h)

theorem isUpper_eq_false {c : Char} (h : c.isDigit = true ∨ c.isLower = true ∨ c = '_') :
    c.isUpper = false := by
  rcases h with h | h | rfl
  · have hdigit := Char.isDigit_iff_toNat.mp h
    have hzero : '0'.toNat = 48 := rfl
    have hnine : '9'.toNat = 57 := rfl
    simp [Char.isUpper, UInt32.le_iff_toNat_le]
    omega
  · simpa using Char.not_isUpper_of_isLower h
  · decide

theorem snakeOf_append (a b : List Char) : snakeOf (a ++ b) = snakeOf a ++ snakeOf b := by
  simp [snakeOf]

/-- Text with no capital reads back as itself. -/
theorem snakeOf_of_forall {text : List Char} (h : ∀ x ∈ text, x.isUpper = false) :
    snakeOf text = text := by
  induction text with
  | nil => rfl
  | cons x rest ih =>
    simp only [List.mem_cons, forall_eq_or_imp] at h
    simp [snakeOf, h.1] at ih ⊢
    exact ih h.2

/-- A word of a snake-case name has no capital. -/
theorem isUpper_of_isLowerWord {w : List Char} (hw : isLowerWord w = true) :
    ∀ x ∈ w, x.isUpper = false := by
  cases w with
  | nil => simp [isLowerWord] at hw
  | cons c rest =>
    simp only [isLowerWord, Bool.and_eq_true, List.all_eq_true, Bool.or_eq_true] at hw
    intro x hx
    rcases List.mem_cons.mp hx with rfl | hx
    · exact isUpper_eq_false (.inr (.inl hw.1))
    · exact isUpper_eq_false ((hw.2 x hx).symm.imp_right .inl)

/-- A capitalized word reads back as `_` and the word. -/
theorem snakeOf_capitalize {w : List Char} (hw : isLowerWord w = true) :
    snakeOf (capitalize w) = '_' :: w := by
  cases w with
  | nil => simp [isLowerWord] at hw
  | cons c rest =>
    have hc : c.isLower = true := by simp_all [isLowerWord]
    obtain ⟨hupper, hisUpper, hlower⟩ := isLower_toUpper hc
    have hrest : snakeOf rest = rest := snakeOf_of_forall fun x hx =>
      isUpper_of_isLowerWord hw x (List.mem_cons_of_mem _ hx)
    simp only [capitalize, hupper, List.singleton_append]
    simp [snakeOf, hisUpper, hlower] at hrest ⊢
    exact hrest

/-- Capitalized words read back as the words, each after an `_`. -/
theorem snakeOf_flatMap_capitalize {ws : List (List Char)}
    (hws : ∀ w ∈ ws, isLowerWord w = true) :
    snakeOf (ws.flatMap capitalize) = ws.flatMap ('_' :: ·) := by
  induction ws with
  | nil => rfl
  | cons w ws ih =>
    rw [List.flatMap_cons, snakeOf_append, snakeOf_capitalize (hws w (by simp)),
      ih (fun v hv => hws v (List.mem_cons_of_mem _ hv))]
    simp

/-- On a snake-case name, reading the capitals back gives the name. -/
theorem snakeOf_camelWords {name : List Char} (h : isSnakeName name = true) :
    snakeOf (camelWords name) = name := by
  obtain ⟨w₀, ws, hsplit⟩ := List.exists_cons_of_ne_nil
    (List.splitOn_ne_nil '_' (name.dropWhile (· == '_')))
  have hwords : ∀ w ∈ w₀ :: ws, isLowerWord w = true := by
    simpa [isSnakeName, hsplit] using h
  have hlead : snakeOf (name.takeWhile (· == '_')) = name.takeWhile (· == '_') :=
    snakeOf_of_forall fun x hx => isUpper_eq_false (.inr (.inr (mem_takeWhile_underscore hx)))
  have hfirst : snakeOf w₀ = w₀ :=
    snakeOf_of_forall (isUpper_of_isLowerWord (hwords w₀ (by simp)))
  have hlater : snakeOf (ws.flatMap capitalize) = ws.flatMap ('_' :: ·) :=
    snakeOf_flatMap_capitalize fun w hw => hwords w (List.mem_cons_of_mem _ hw)
  calc snakeOf (camelWords name)
      = name.takeWhile (· == '_') ++ w₀ ++ ws.flatMap ('_' :: ·) := by
        simp only [camelWords, hsplit, List.headD_cons, List.tail_cons, snakeOf_append, hlead,
          hfirst, hlater]
    _ = name := by
        rw [List.append_assoc, ← intercalate_cons_eq, ← hsplit, List.intercalate_splitOn,
          List.takeWhile_append_dropWhile]

/-- Two properties without renames whose field names are snake case get one external name only
when their field names are the same. -/
theorem camelCase_injective {d e : Descriptor} {p q : PropertyInfo} (hp : p.rename = none)
    (hq : q.rename = none) (hps : isSnakeName p.name.toList = true)
    (hqs : isSnakeName q.name.toList = true) (h : camelCase d p = camelCase e q) :
    p.name = q.name := by
  apply String.toList_inj.mp
  rw [← snakeOf_camelWords hps, ← snakeOf_camelWords hqs, ← camelCase_eq_camelWords d hp,
    ← camelCase_eq_camelWords e hq, h]

end ObjectMapping.Naming

namespace ObjectMapping

open Naming

/-- Camel-case naming, characterized. A property without a rename is named by its field name as
it is when the name has no `_`, and by `toCamelCase` of it otherwise. `toCamelCase` keeps the
leading run of `_`, drops every other `_`, writes the first character of each later non-empty
piece in full upper case and copies every other character (`camelWords`), so a run of `_`
counts once and trailing ones leave nothing. Two properties without renames whose field names
are snake case, `_*[a-z][a-z0-9]*(_[a-z][a-z0-9]*)*`, get the same external name only when their
field names are the same. -/
theorem camel_case_names :
    (∀ d p, p.rename = none → '_' ∉ p.name.toList → Naming.camelCase d p = p.name) ∧
    (∀ d p, p.rename = none → '_' ∈ p.name.toList → Naming.camelCase d p = toCamelCase p.name) ∧
    (∀ name : String, (toCamelCase name).toList = camelWords name.toList) ∧
    ∀ d e p q, p.rename = none → q.rename = none → isSnakeName p.name.toList = true →
      isSnakeName q.name.toList = true → Naming.camelCase d p = Naming.camelCase e q →
      p.name = q.name := by
  refine ⟨fun d p hp hno => ?_, fun d p hp hyes => ?_, toCamelCase_eq_camelWords,
    fun d e p q hp hq hps hqs h => camelCase_injective hp hq hps hqs h⟩
  · simp [Naming.camelCase, hp, hno]
  · simp [Naming.camelCase, hp, hyes]

/-- The snake-case names `a_b` and `ab` get different external names. -/
theorem snake_names_written_apart :
    isSnakeName "a_b".toList = true ∧ isSnakeName "ab".toList = true ∧
      Naming.camelCase default { (default : PropertyInfo) with name := "a_b" } ≠
        Naming.camelCase default { (default : PropertyInfo) with name := "ab" } := by
  refine ⟨by decide, by decide, fun h => ?_⟩
  have hsame := camel_case_names.2.2.2 default default _ _ rfl rfl (by decide) (by decide) h
  exact absurd hsame (by decide)

end ObjectMapping
