import ObjectMapping.Record.Attributes
import ObjectMapping.Proofs.JsonScan

/-!
# What the attributes of a record declaration say

The attributes of a record declaration are read by parsers of token trees, one run over the
arguments of each attribute (`ObjectMapping.Record`). Here those runs are read back in terms of
the arguments themselves: the trees of an attribute's list split at its own commas
(`Record.splitArgs`).

* `typeFlags_ok`, `fieldFlags_ok`: a flag of a type or of a field is set exactly when one of its
  `mapped` attributes has that item (`mappedItem`), and a field's rename is the literal of its
  `rename = "…"` (`mappedRename`). A successful reading is all these need.
* `isPacked_eq`: a record is packed exactly when a `repr` attribute has `packed` or `packed(N)`
  among its arguments (`reprPacked`), provided every argument of `repr` is a name with or without
  a group in parentheses (`reprWritten`). The reading stops without error at the first argument
  that is not one, and whatever comes after it is not looked at.

The parser's own steps come first: what each primitive reads, and how a successful run of a
sequence splits (`Parser.bind_eq_ok`).
-/

set_option autoImplicit false

/-! ## The parser's steps -/

namespace ObjectMapping.Syntax.Parser

variable {α β : Type} {s s' : ParseState}

theorem run_bind_ok {x : Parser α} {f : α → Parser β} {a : α} (h : x.run s = .ok (a, s')) :
    (x >>= f).run s = (f a).run s' := by
  simp only [StateT.run_bind, h]
  rfl

theorem run_bind_error {x : Parser α} {f : α → Parser β} {e : String} (h : x.run s = .error e) :
    (x >>= f).run s = .error e := by
  simp only [StateT.run_bind, h]
  rfl

/-- A parse in two steps that succeeds succeeds at its first step. -/
theorem bind_eq_ok {x : Parser α} {f : α → Parser β} {b : β} {s'' : ParseState}
    (h : (x >>= f).run s = .ok (b, s'')) :
    ∃ a s', x.run s = .ok (a, s') ∧ (f a).run s' = .ok (b, s'') := by
  cases hx : x.run s with
  | error e => rw [run_bind_error hx] at h; cases h
  | ok p => exact ⟨p.1, p.2, rfl, by rw [run_bind_ok hx] at h; exact h⟩

theorem peek_run (p : List Token → Bool) : (peek p).run s = .ok (p s.tokens, s) := rfl

theorem atEnd_run : atEnd.run s = .ok (s.tokens.isEmpty, s) := rfl

theorem fail_run {m : String} : (fail m : Parser α).run s = .error m := rfl

theorem get_run : (get : Parser ParseState).run s = .ok (s, s) := rfl

theorem failHere_run {m : String} :
    (failHere m : Parser α).run s =
      .error (if s.tokens.isEmpty then "unexpected end of input, " ++ m else m) := by
  rw [failHere, run_bind_ok get_run]
  split <;> rfl

theorem failHere_ne_ok {m : String} {p : α × ParseState} : (failHere m : Parser α).run s ≠ .ok p := by
  rw [failHere_run]
  intro h
  cases h

theorem fail_ne_ok {m : String} {p : α × ParseState} : (fail m : Parser α).run s ≠ .ok p := by
  rw [fail_run]
  intro h
  cases h

theorem set_run (s₀ : ParseState) : (set s₀ : Parser PUnit).run s = .ok (⟨⟩, s₀) := rfl

theorem pure_run (a : α) : (pure a : Parser α).run s = .ok (a, s) := rfl

/-- Reading any identifier takes the first tree. -/
theorem identAny_ok {t : Token} (h : identAny.run s = .ok (t, s')) : s.tokens = t :: s'.tokens := by
  rw [identAny, run_bind_ok get_run] at h
  split at h
  · split at h
    · rw [run_bind_ok (set_run _), pure_run] at h
      cases h
      assumption
    · exact absurd h failHere_ne_ok
  · exact absurd h failHere_ne_ok

/-- Reading an operator takes its characters. -/
theorem punct_ok {p : String} {ts : List Token} (h : (punct p).run s = .ok (ts, s')) :
    peekPunct p s.tokens = true ∧ s'.tokens = s.tokens.drop p.length := by
  rw [punct, run_bind_ok get_run] at h
  split at h
  · rw [run_bind_ok (set_run _), pure_run] at h
    cases h
    exact ⟨by assumption, rfl⟩
  · cases h

/-- An operator that is not read leaves the trees as they are. -/
theorem punct?_none {p : String} (h : (punct? p).run s = .ok (none, s')) : s' = s := by
  rw [punct?, run_bind_ok get_run] at h
  split at h
  · rw [StateT.run_map] at h
    cases hp : (punct p).run s with
    | error e => rw [hp] at h; cases h
    | ok q => rw [hp] at h; cases h
  · rw [pure_run] at h
    cases h
    rfl

theorem next_run_cons {t : Token} {rest : List Token} (h : s.tokens = t :: rest) :
    next.run s = .ok (some t, { s with tokens := rest }) := by
  rw [next, run_bind_ok get_run, h]
  rfl

end ObjectMapping.Syntax.Parser

namespace ObjectMapping

/-- Whether a tree is a comma. -/
def Token.isComma : Token → Bool
  | .punct ',' _ => true
  | _ => false

theorem Token.eq_of_isComma {t : Token} (h : t.isComma = true) : ∃ sp, t = .punct ',' sp := by
  unfold Token.isComma at h
  split at h
  · exact ⟨_, rfl⟩
  · cases h

end ObjectMapping

namespace ObjectMapping.Record

open ObjectMapping.Syntax ObjectMapping.Syntax.Parser

/-! ## Reading an item -/

/-- A path that reads no further segment reads no tree. -/
theorem itemSegments_nil {k : Nat} {s s' : ParseState} (h : (itemSegments k).run s = .ok ([], s')) :
    s' = s := by
  cases k with
  | zero => exact absurd h fail_ne_ok
  | succ k =>
    rw [itemSegments, run_bind_ok (peek_run _)] at h
    split at h
    · obtain ⟨_, s₁, -, h⟩ := bind_eq_ok h
      obtain ⟨i, s₂, -, h⟩ := bind_eq_ok h
      obtain ⟨segs, s₃, -, h⟩ := bind_eq_ok h
      cases h
    · rw [pure_run] at h
      cases h
      rfl

/-- A path of one identifier and no leading `::` is the first tree. -/
theorem itemPath_single {k : Nat} {s s' : ParseState} {t : Token}
    (h : (itemPath k).run s = .ok ((false, [t]), s')) : s.tokens = t :: s'.tokens := by
  rw [itemPath] at h
  obtain ⟨leading, s₁, hlead, h⟩ := bind_eq_ok h
  rw [run_bind_ok (peek_run _), run_bind_ok atEnd_run, run_bind_ok (peek_run _)] at h
  split at h
  · obtain ⟨first, s₂, hfirst, h⟩ := bind_eq_ok h
    obtain ⟨segs, s₃, hsegs, h⟩ := bind_eq_ok h
    rw [pure_run] at h
    simp only [Except.ok.injEq, Prod.mk.injEq, List.cons.injEq, Option.isSome_eq_false_iff,
      Option.isNone_iff_eq_none] at h
    obtain ⟨⟨rfl, rfl, rfl⟩, rfl⟩ := h
    -- no leading `::` was read, and the one identifier is the first tree
    rw [punct?_none hlead] at hfirst
    rw [itemSegments_nil hsegs]
    exact identAny_ok hfirst
  -- anything but an identifier fails
  · split at h
    · obtain ⟨_, _, hf, -⟩ := bind_eq_ok h
      exact absurd hf failHere_ne_ok
    · split at h <;> obtain ⟨_, _, hf, -⟩ := bind_eq_ok h <;> exact absurd hf failHere_ne_ok

/-- Trees that start with an operator of one character start with that character. -/
theorem peekPunct_single {p : String} {ch : Char} (hp : p.toList = [ch]) {ts : List Token}
    (h : peekPunct p ts = true) : ∃ sp rest, ts = .punct ch sp :: rest := by
  unfold peekPunct at h
  rw [hp] at h
  rcases ts with _ | ⟨t, rest⟩
  · cases h
  · cases t with
    | punct c sp =>
      simp only [peekPunct.go, beq_iff_eq] at h
      exact ⟨sp, rest, by rw [h]⟩
    | _ => cases h

theorem peekPunct_comma {ts : List Token} (h : peekPunct "," ts = true) :
    ∃ c rest, c.isComma = true ∧ ts = c :: rest := by
  obtain ⟨sp, rest, rfl⟩ := peekPunct_single (show ",".toList = [','] from rfl) h
  exact ⟨_, rest, rfl, rfl⟩

/-- The rest of a list of items after an item: the end, a last comma, or a comma and more items,
which `loop` reads. -/
theorem itemsTail_ok {σ : Type} {loop : Parser σ} {flags flags' : σ} {s s' : ParseState}
    (h : (do
      if ← atEnd then return flags
      let _ ← punct ","
      if ← atEnd then return flags
      loop : Parser σ).run s = .ok (flags', s')) :
    flags' = flags ∧ (s.tokens = [] ∨ ∃ c, c.isComma = true ∧ s.tokens = [c]) ∨
      ∃ c s₁, c.isComma = true ∧ s.tokens = c :: s₁.tokens ∧ s₁.tokens ≠ [] ∧
        loop.run s₁ = .ok (flags', s') := by
  rw [run_bind_ok atEnd_run] at h
  split at h
  · rename_i hend
    rw [pure_run] at h
    cases h
    exact .inl ⟨rfl, .inl (List.isEmpty_iff.mp hend)⟩
  · obtain ⟨ts, s₁, hcomma, h⟩ := bind_eq_ok h
    obtain ⟨hpeek, hdrop⟩ := punct_ok hcomma
    obtain ⟨c, rest, hc, hs⟩ := peekPunct_comma hpeek
    rw [hs] at hdrop
    have hrest : s₁.tokens = rest := hdrop
    rw [run_bind_ok atEnd_run] at h
    split at h
    · rename_i hend
      rw [pure_run] at h
      cases h
      rw [hrest, List.isEmpty_iff] at hend
      exact .inl ⟨rfl, .inr ⟨c, hc, by rw [hs, hend]⟩⟩
    · rename_i hend
      refine .inr ⟨c, s₁, hc, by rw [hs, hrest], fun hnil => hend ?_, h⟩
      rw [hnil]
      rfl

/-! ## The arguments of an attribute -/

/-- The arguments of an attribute's list, split at its commas: a comma inside a group belongs to
the group, so each argument is a run of trees between two commas of the list itself. -/
def splitArgs : List Token → List (List Token)
  | [] => [[]]
  | t :: rest => if t.isComma then [] :: splitArgs rest else (splitArgs rest).modifyHead (t :: ·)

/-- Whether an argument is the single identifier `name`. -/
def isNamedArg (name : String) : List Token → Bool
  | [t] => isKeyword name t
  | _ => false

/-- The literal of an argument `rename = "…"`. -/
def renameArg : List Token → Option Token
  | [t, .punct '=' _, lit] => if isKeyword "rename" t then some lit else none
  | _ => none

@[simp] theorem isNamedArg_nil (name : String) : isNamedArg name [] = false := rfl

@[simp] theorem renameArg_nil : renameArg [] = none := rfl

theorem isComma_of_isKeyword {name : String} {t : Token} (h : isKeyword name t = true) :
    t.isComma = false := by
  unfold isKeyword at h
  split at h
  · rfl
  · cases h

/-- A tree that is the keyword `a` is the keyword `b` exactly when `b` is `a`. -/
theorem isKeyword_eq_of {a b : String} {t : Token} (h : isKeyword a t = true) :
    isKeyword b t = (a == b) := by
  unfold isKeyword at h ⊢
  split at h
  · simp only [beq_iff_eq] at h
    subst h
    rfl
  · cases h

theorem isItem_eq_true {name : String} {path : Bool × List Token} (h : isItem name path = true) :
    ∃ t, path = (false, [t]) ∧ isKeyword name t = true := by
  unfold isItem at h
  split at h
  · exact ⟨_, rfl, h⟩
  · cases h

/-- An argument with no comma of its own is the first argument of what it starts. -/
theorem splitArgs_append {arg rest : List Token} (harg : ∀ x ∈ arg, x.isComma = false) :
    splitArgs (arg ++ rest) = (splitArgs rest).modifyHead (arg ++ ·) := by
  induction arg with
  | nil =>
    rw [List.nil_append]
    cases splitArgs rest <;> rfl
  | cons t arg ih =>
    have ht : t.isComma = false := harg t (by simp)
    rw [List.cons_append, splitArgs, if_neg (by simp [ht]), ih fun x hx => harg x (by simp [hx])]
    cases splitArgs rest <;> simp

@[simp] theorem splitArgs_nil : splitArgs [] = [[]] := rfl

/-- An argument with no comma is the one argument of its trees. -/
theorem splitArgs_of_noComma {arg : List Token} (harg : ∀ x ∈ arg, x.isComma = false) :
    splitArgs arg = [arg] := by
  have h : splitArgs (arg ++ []) = (splitArgs []).modifyHead (arg ++ ·) := splitArgs_append harg
  simpa using h

/-- An argument with no comma, then a comma, is the first argument of what it starts. -/
theorem splitArgs_append_comma {arg rest : List Token} {c : Token}
    (harg : ∀ x ∈ arg, x.isComma = false) (hc : c.isComma = true) :
    splitArgs (arg ++ c :: rest) = arg :: splitArgs rest := by
  rw [splitArgs_append harg, splitArgs, if_pos hc]
  simp

theorem findSome?_cons_or {α β : Type} (f : α → Option β) (a : α) (l : List α) :
    (a :: l).findSome? f = (f a).or (l.findSome? f) := by
  cases h : f a <;> simp [h]

/-! ## Lists of `mapped` items -/

theorem setOnce_ok {already v : Bool} {s s' : ParseState} (h : (setOnce already).run s = .ok (v, s')) :
    already = false ∧ v = true ∧ s' = s := by
  unfold setOnce at h
  split at h
  · exact absurd h fail_ne_ok
  · rename_i hunset
    cases h
    exact ⟨by simpa using hunset, rfl, rfl⟩

/-- A string literal is no comma. -/
theorem isComma_of_stringValue? {lit : Token} {v : String} (h : stringValue? lit = some v) :
    lit.isComma = false := by
  unfold stringValue? at h
  split at h
  · rfl
  · cases h

/-- A string literal item is the first tree, and no comma. -/
theorem stringItem_ok {lit : Token} {s s' : ParseState} (h : stringItem.run s = .ok (lit, s')) :
    s.tokens = lit :: s'.tokens ∧ lit.isComma = false := by
  rw [stringItem, run_bind_ok atEnd_run] at h
  split at h
  · obtain ⟨_, _, hf, -⟩ := bind_eq_ok h
    exact absurd hf failHere_ne_ok
  · rw [run_bind_ok (rfl : (Parser.rest).run s = .ok (s.tokens, s))] at h
    split at h
    · rename_i t ts hts
      split at h
      · rename_i v hv
        obtain ⟨o, s₁, hnext, h⟩ := bind_eq_ok h
        rw [pure_run] at h
        cases h
        rw [next_run_cons hts] at hnext
        cases hnext
        exact ⟨hts, isComma_of_stringValue? hv⟩
      · exact absurd h fail_ne_ok
    · exact absurd h failHere_ne_ok

/-- An item that is a flag: the identifier `name`, one tree, which sets its flag, not set yet. -/
theorem flagItem_ok {σ : Type} {k : Nat} {name : String} {path : Bool × List Token}
    {s s₁ s' : ParseState} {already : Bool} {update : Bool → σ} {tail : σ → Parser σ} {r : σ}
    (hpath : (itemPath k).run s = .ok (path, s₁)) (hname : isItem name path = true)
    (h : (do let v ← setOnce already; let flags ← pure (update v); tail flags).run s₁ = .ok (r, s')) :
    ∃ t, s.tokens = [t] ++ s₁.tokens ∧ isKeyword name t = true ∧ already = false ∧
      (tail (update true)).run s₁ = .ok (r, s') := by
  obtain ⟨t, rfl, ht⟩ := isItem_eq_true hname
  obtain ⟨v, s₃, hset, htail⟩ := bind_eq_ok h
  obtain ⟨hunset, rfl, rfl⟩ := setOnce_ok hset
  rw [run_bind_ok (pure_run _)] at htail
  exact ⟨t, itemPath_single hpath, ht, hunset, htail⟩

/-! ## One item of a list -/

/-- What one argument of `#[mapped(…)]` on a type does to the flags read so far: `default` or
`auto_register`, written as its keyword, sets its flag, which is not set yet. -/
inductive TypeStep (flags : TypeFlags) : List Token → TypeFlags → Prop
  | default {t : Token} : isKeyword "default" t = true → flags.default = false →
      TypeStep flags [t] { flags with default := true }
  | autoRegister {t : Token} : isKeyword "auto_register" t = true → flags.autoRegister = false →
      TypeStep flags [t] { flags with autoRegister := true }

/-- What one argument of `#[mapped(…)]` on a field does to the flags read so far: `skip`,
`adapted` or `default`, written as its keyword, sets its flag, and `rename = "…"` with a string
whose value is not empty sets the rename; neither is set yet. -/
inductive FieldStep (flags : FieldFlags) : List Token → FieldFlags → Prop
  | skip {t : Token} : isKeyword "skip" t = true → flags.skip = false →
      FieldStep flags [t] { flags with skip := true }
  | adapted {t : Token} : isKeyword "adapted" t = true → flags.adapted = false →
      FieldStep flags [t] { flags with adapted := true }
  | default {t : Token} : isKeyword "default" t = true → flags.default = false →
      FieldStep flags [t] { flags with default := true }
  | rename {t lit : Token} {sp : Spacing} {v : String} : isKeyword "rename" t = true →
      stringValue? lit = some v → v ≠ "" → flags.rename = none →
      FieldStep flags [t, .punct '=' sp, lit] { flags with rename := some lit }

theorem TypeStep.noComma {flags flags₁ : TypeFlags} {arg : List Token}
    (h : TypeStep flags arg flags₁) : ∀ x ∈ arg, x.isComma = false := by
  cases h with
  | default ht _ | autoRegister ht _ => simpa using isComma_of_isKeyword ht

theorem FieldStep.noComma {flags flags₁ : FieldFlags} {arg : List Token}
    (h : FieldStep flags arg flags₁) : ∀ x ∈ arg, x.isComma = false := by
  cases h with
  | skip ht _ | adapted ht _ | default ht _ => simpa using isComma_of_isKeyword ht
  | rename ht hv _ _ =>
    simp only [List.mem_cons, List.not_mem_nil, or_false, forall_eq_or_imp, forall_eq]
    exact ⟨isComma_of_isKeyword ht, rfl, isComma_of_stringValue? hv⟩

/-- An item of a type sets its own flag and leaves the other. -/
theorem TypeStep.flags_eq {flags flags₁ : TypeFlags} {arg : List Token}
    (h : TypeStep flags arg flags₁) :
    flags₁.default = (flags.default || isNamedArg "default" arg) ∧
      flags₁.autoRegister = (flags.autoRegister || isNamedArg "auto_register" arg) := by
  cases h with
  | default ht _ | autoRegister ht _ => simp [isNamedArg, isKeyword_eq_of ht]

/-- An item of a field sets its own flag, or the rename to its literal, and leaves the rest. -/
theorem FieldStep.flags_eq {flags flags₁ : FieldFlags} {arg : List Token}
    (h : FieldStep flags arg flags₁) :
    flags₁.skip = (flags.skip || isNamedArg "skip" arg) ∧
      flags₁.adapted = (flags.adapted || isNamedArg "adapted" arg) ∧
      flags₁.default = (flags.default || isNamedArg "default" arg) ∧
      flags₁.rename = flags.rename.or (renameArg arg) := by
  cases h with
  | skip ht _ | adapted ht _ | default ht _ => simp [isNamedArg, renameArg, isKeyword_eq_of ht]
  | rename ht _ _ hnone => simp [isNamedArg, renameArg, ht, hnone]

/-- One step of the parser of a type attribute's items reads one argument, an item, and goes on
after it with the flags the item sets. -/
theorem typeItems_succ_ok {k : Nat} {flags flags' : TypeFlags} {s s' : ParseState}
    (h : (typeItems (k + 1) flags).run s = .ok (flags', s')) :
    ∃ arg flags₁ s₁, s.tokens = arg ++ s₁.tokens ∧ TypeStep flags arg flags₁ ∧
      (do
        if ← atEnd then return flags₁
        let _ ← punct ","
        if ← atEnd then return flags₁
        typeItems k flags₁ : Parser TypeFlags).run s₁ = .ok (flags', s') := by
  rw [typeItems] at h
  obtain ⟨path, s₁, hpath, h⟩ := bind_eq_ok h
  dsimp only at h
  by_cases hdefault : isItem "default" path = true
  · rw [if_pos hdefault] at h
    obtain ⟨t, hs, ht, hunset, htail⟩ := flagItem_ok hpath hdefault h
    exact ⟨[t], _, _, hs, .default ht hunset, htail⟩
  rw [if_neg hdefault] at h
  by_cases hauto : isItem "auto_register" path = true
  · rw [if_pos hauto] at h
    obtain ⟨t, hs, ht, hunset, htail⟩ := flagItem_ok hpath hauto h
    exact ⟨[t], _, _, hs, .autoRegister ht hunset, htail⟩
  -- any other item fails
  rw [if_neg hauto] at h
  obtain ⟨_, _, hf, -⟩ := bind_eq_ok h
  exact absurd hf fail_ne_ok

/-- One step of the parser of a field attribute's items reads one argument, an item, and goes on
after it with the flags the item sets. -/
theorem fieldItems_succ_ok {k : Nat} {flags flags' : FieldFlags} {s s' : ParseState}
    (h : (fieldItems (k + 1) flags).run s = .ok (flags', s')) :
    ∃ arg flags₁ s₁, s.tokens = arg ++ s₁.tokens ∧ FieldStep flags arg flags₁ ∧
      (do
        if ← atEnd then return flags₁
        let _ ← punct ","
        if ← atEnd then return flags₁
        fieldItems k flags₁ : Parser FieldFlags).run s₁ = .ok (flags', s') := by
  rw [fieldItems] at h
  obtain ⟨path, s₁, hpath, h⟩ := bind_eq_ok h
  dsimp only at h
  by_cases hskip : isItem "skip" path = true
  · rw [if_pos hskip] at h
    obtain ⟨t, hs, ht, hunset, htail⟩ := flagItem_ok hpath hskip h
    exact ⟨[t], _, _, hs, .skip ht hunset, htail⟩
  rw [if_neg hskip] at h
  by_cases hadapted : isItem "adapted" path = true
  · rw [if_pos hadapted] at h
    obtain ⟨t, hs, ht, hunset, htail⟩ := flagItem_ok hpath hadapted h
    exact ⟨[t], _, _, hs, .adapted ht hunset, htail⟩
  rw [if_neg hadapted] at h
  by_cases hdefault : isItem "default" path = true
  · rw [if_pos hdefault] at h
    obtain ⟨t, hs, ht, hunset, htail⟩ := flagItem_ok hpath hdefault h
    exact ⟨[t], _, _, hs, .default ht hunset, htail⟩
  rw [if_neg hdefault] at h
  by_cases hrename : isItem "rename" path = true
  · rw [if_pos hrename] at h
    obtain ⟨t, rfl, ht⟩ := isItem_eq_true hrename
    have hs := itemPath_single hpath
    -- a second rename fails
    by_cases hfirst : flags.rename.isSome = true
    · rw [if_pos hfirst] at h
      obtain ⟨_, _, hf, -⟩ := bind_eq_ok h
      exact absurd hf fail_ne_ok
    rw [if_neg hfirst] at h
    -- `rename`, then `=`, then a string literal whose value is not empty
    obtain ⟨_, s₂, heq, h⟩ := bind_eq_ok h
    obtain ⟨hpeek, hdrop⟩ := punct_ok heq
    obtain ⟨sp, rest, hs₁⟩ := peekPunct_single (show "=".toList = ['='] from rfl) hpeek
    obtain ⟨lit, s₃, hlit, h⟩ := bind_eq_ok h
    obtain ⟨hs₂, -⟩ := stringItem_ok hlit
    by_cases hempty : ((stringValue? lit).getD "" == "") = true
    · rw [if_pos hempty] at h
      obtain ⟨_, _, hf, -⟩ := bind_eq_ok h
      exact absurd hf fail_ne_ok
    rw [if_neg hempty, run_bind_ok (pure_run _)] at h
    obtain ⟨v, hv, hne⟩ : ∃ v, stringValue? lit = some v ∧ v ≠ "" := by
      cases hv : stringValue? lit with
      | none => simp [hv] at hempty
      | some v => exact ⟨v, rfl, by simpa [hv] using hempty⟩
    have hrest : rest = lit :: s₃.tokens := by
      rw [← hs₂, hdrop, hs₁]
      rfl
    refine ⟨[t, .punct '=' sp, lit], _, s₃, ?_, .rename ht hv hne (by simpa using hfirst), h⟩
    rw [hs, hs₁, hrest]
    rfl
  -- any other item fails
  rw [if_neg hrename] at h
  obtain ⟨_, _, hf, -⟩ := bind_eq_ok h
  exact absurd hf fail_ne_ok

/-- One list of items read from `#[mapped(…)]` on a type: `default` is set exactly when one of its
arguments is `default`, and `auto_register` when one is `auto_register`. -/
theorem typeItems_ok {k : Nat} {flags flags' : TypeFlags} {s s' : ParseState}
    (h : (typeItems k flags).run s = .ok (flags', s')) :
    flags'.default = (flags.default || (splitArgs s.tokens).any (isNamedArg "default")) ∧
      flags'.autoRegister =
        (flags.autoRegister || (splitArgs s.tokens).any (isNamedArg "auto_register")) := by
  induction k generalizing flags s with
  | zero => exact absurd h fail_ne_ok
  | succ k ih =>
    obtain ⟨arg, flags₁, s₁, hs, hstep, htail⟩ := typeItems_succ_ok h
    obtain ⟨hd, ha⟩ := hstep.flags_eq
    have harg := hstep.noComma
    rcases itemsTail_ok htail with ⟨rfl, hend | ⟨c, hc, hend⟩⟩ | ⟨c, s₃, hc, hs₁, -, hloop⟩
    · rw [hs, hend, List.append_nil, splitArgs_of_noComma harg]
      simp only [List.any_cons, List.any_nil, Bool.or_false, hd, ha, and_self]
    · rw [hs, hend, splitArgs_append_comma harg hc]
      simp only [splitArgs_nil, List.any_cons, List.any_nil, isNamedArg_nil, Bool.or_false, hd, ha,
        and_self]
    · obtain ⟨hd', ha'⟩ := ih hloop
      rw [hs, hs₁, splitArgs_append_comma harg hc, hd', ha', hd, ha]
      simp only [List.any_cons, Bool.or_assoc, and_self]

/-- One list of items read from `#[mapped(…)]` on a field: `skip`, `adapted` and `default` are
set exactly when one of its arguments is that identifier, and the rename is the literal of its
argument `rename = "…"`, if it has one. -/
theorem fieldItems_ok {k : Nat} {flags flags' : FieldFlags} {s s' : ParseState}
    (h : (fieldItems k flags).run s = .ok (flags', s')) :
    flags'.skip = (flags.skip || (splitArgs s.tokens).any (isNamedArg "skip")) ∧
      flags'.adapted = (flags.adapted || (splitArgs s.tokens).any (isNamedArg "adapted")) ∧
      flags'.default = (flags.default || (splitArgs s.tokens).any (isNamedArg "default")) ∧
      flags'.rename = flags.rename.or ((splitArgs s.tokens).findSome? renameArg) := by
  induction k generalizing flags s with
  | zero => exact absurd h fail_ne_ok
  | succ k ih =>
    obtain ⟨arg, flags₁, s₂, hs, hstep, htail⟩ := fieldItems_succ_ok h
    obtain ⟨hskip, hadapted, hdefault, hrename⟩ := hstep.flags_eq
    have harg := hstep.noComma
    rcases itemsTail_ok htail with ⟨rfl, hend | ⟨c, hc, hend⟩⟩ | ⟨c, s₃, hc, hs₂, -, hloop⟩
    · rw [hs, hend, List.append_nil, splitArgs_of_noComma harg]
      simp only [List.any_cons, List.any_nil, Bool.or_false, findSome?_cons_or, List.findSome?_nil,
        Option.or_none, hskip, hadapted, hdefault, hrename, and_self]
    · rw [hs, hend, splitArgs_append_comma harg hc]
      simp only [splitArgs_nil, List.any_cons, List.any_nil, isNamedArg_nil, Bool.or_false,
        findSome?_cons_or, List.findSome?_nil, renameArg_nil, Option.or_none, hskip, hadapted,
        hdefault, hrename, and_self]
    · obtain ⟨hskip', hadapted', hdefault', hrename'⟩ := ih hloop
      rw [hs, hs₂, splitArgs_append_comma harg hc, hskip', hadapted', hdefault', hrename', hskip,
        hadapted, hdefault, hrename]
      simp only [List.any_cons, findSome?_cons_or, Bool.or_assoc, Option.or_assoc, and_self]

/-! ## All `mapped` attributes -/

/-- The argument lists of the `mapped` attributes among some attributes. -/
def mappedBodies (attrs : List Attribute) : List (List Token) :=
  (attrs.filter (·.isNamed "mapped")).filterMap fun a =>
    match a.form with
    | .list _ body => some body
    | _ => none

/-- Whether some `mapped` attribute has the item `name` among its arguments. -/
def mappedItem (attrs : List Attribute) (name : String) : Bool :=
  (mappedBodies attrs).any fun body => (splitArgs body).any (isNamedArg name)

/-- The literal of the first `rename = "…"` among the arguments of the `mapped` attributes. -/
def mappedRename (attrs : List Attribute) : Option Token :=
  (mappedBodies attrs).findSome? fun body => (splitArgs body).findSome? renameArg

theorem runAll_ok {α : Type} {p : Parser α} {ts : List Token} {a : α} (h : Parser.runAll p ts = .ok a) :
    ∃ s, p.run { tokens := ts } = .ok (a, s) := by
  unfold Parser.runAll at h
  split at h
  · cases h
  · rename_i b s hrun
    split at h
    · cases h
    · split at h
      · cases h
        exact ⟨s, hrun⟩
      · cases h

/-- Reading the `mapped` attributes in order: when a list of items changes a view of the flags
by what its arguments say, all of them change it by what each says, in order. -/
theorem readAll_view {σ β : Type} {items : Nat → σ → Parser σ} (view : σ → β)
    (upd : β → List (List Token) → β)
    (hitems : ∀ k flags s flags' s', (items k flags).run s = .ok (flags', s') →
      view flags' = upd (view flags) (splitArgs s.tokens))
    (hnil : ∀ b, upd b [[]] = b) {attrs : List Attribute} {flags flags' : σ}
    (h : readAll attrs items flags = .ok flags') :
    view flags' = (mappedBodies attrs).foldl (fun b body => upd b (splitArgs body)) (view flags) := by
  induction attrs generalizing flags with
  | nil =>
    cases h
    rfl
  | cons a attrs ih =>
    unfold readAll at h
    by_cases hm : a.isNamed "mapped" = true
    · simp only [List.filter_cons, hm, if_true, List.foldlM_cons] at h
      obtain ⟨flags₁, hread, hrest⟩ := Json.bind_eq_ok.mp h
      unfold readItems at hread
      -- only a list of items reads; its empty list changes nothing
      have hbody : ∃ d body, a.form = .list d body ∧
          view flags₁ = upd (view flags) (splitArgs body) := by
        split at hread
        · cases hread
        · cases hread
        · rename_i d body hform
          refine ⟨d, body, hform, ?_⟩
          split at hread
          · rename_i hempty
            cases hread
            rw [List.isEmpty_iff.mp hempty]
            exact (hnil _).symm
          · obtain ⟨s, hrun⟩ := runAll_ok hread
            exact hitems _ _ _ _ _ hrun
      obtain ⟨d, body, hform, hview⟩ := hbody
      have hcons : mappedBodies (a :: attrs) = body :: mappedBodies attrs := by
        simp [mappedBodies, hm, hform]
      rw [hcons, List.foldl_cons, ← hview]
      exact ih hrest
    · simp only [List.filter_cons, hm] at h
      have hskip : mappedBodies (a :: attrs) = mappedBodies attrs := by
        simp [mappedBodies, hm]
      rw [hskip]
      exact ih h

theorem foldl_or_any {P : List Token → Bool} (bodies : List (List Token)) (b : Bool) :
    bodies.foldl (fun b body => b || P body) b = (b || bodies.any P) := by
  induction bodies generalizing b with
  | nil => simp
  | cons body bodies ih => simp [ih, Bool.or_assoc]

theorem foldl_or_findSome {Q : List Token → Option Token} (bodies : List (List Token))
    (o : Option Token) :
    bodies.foldl (fun o body => o.or (Q body)) o = o.or (bodies.findSome? Q) := by
  induction bodies generalizing o with
  | nil => simp
  | cons body bodies ih => simp [ih, findSome?_cons_or, Option.or_assoc]

/-- A flag that every list of items sets exactly when one of its arguments is `name` is set after
all `mapped` attributes exactly when one of them has `name`. -/
theorem readAll_flag {σ : Type} {items : Nat → σ → Parser σ} (sel : σ → Bool) (name : String)
    (hitems : ∀ k flags s flags' s', (items k flags).run s = .ok (flags', s') →
      sel flags' = (sel flags || (splitArgs s.tokens).any (isNamedArg name)))
    {attrs : List Attribute} {flags flags' : σ} (h : readAll attrs items flags = .ok flags') :
    sel flags' = (sel flags || mappedItem attrs name) := by
  rw [readAll_view sel (fun b args => b || args.any (isNamedArg name)) hitems (by simp) h,
    foldl_or_any]
  rfl

/-- A flag of `#[mapped(…)]` on a type is set exactly when some such attribute has it. -/
theorem typeFlags_ok {attrs : List Attribute} {flags : TypeFlags} (h : typeFlags attrs = .ok flags) :
    flags.default = mappedItem attrs "default" ∧
      flags.autoRegister = mappedItem attrs "auto_register" :=
  ⟨readAll_flag TypeFlags.default "default" (fun _ _ _ _ _ hrun => (typeItems_ok hrun).1) h,
    readAll_flag TypeFlags.autoRegister "auto_register"
      (fun _ _ _ _ _ hrun => (typeItems_ok hrun).2) h⟩

/-- The flags of `#[mapped(…)]` on a field: `skip`, `adapted` and `default` are set exactly when
some such attribute has them, and the rename is the literal its `rename = "…"` gives. -/
theorem fieldFlags_ok {attrs : List Attribute} {flags : FieldFlags}
    (h : fieldFlags attrs = .ok flags) :
    flags.skip = mappedItem attrs "skip" ∧ flags.adapted = mappedItem attrs "adapted" ∧
      flags.default = mappedItem attrs "default" ∧ flags.rename = mappedRename attrs := by
  unfold fieldFlags at h
  obtain ⟨read, hread, h⟩ := Json.bind_eq_ok.mp h
  -- the check that `skip` stands alone passes the flags on as they are read
  have hflags : read = flags := by
    split at h
    · cases h
    · cases h
      rfl
  subst hflags
  refine ⟨readAll_flag FieldFlags.skip "skip" (fun _ _ _ _ _ hrun => (fieldItems_ok hrun).1) hread,
    readAll_flag FieldFlags.adapted "adapted" (fun _ _ _ _ _ hrun => (fieldItems_ok hrun).2.1) hread,
    readAll_flag FieldFlags.default "default" (fun _ _ _ _ _ hrun => (fieldItems_ok hrun).2.2.1)
      hread, ?_⟩
  rw [readAll_view FieldFlags.rename (fun o args => o.or (args.findSome? renameArg))
    (fun _ _ _ _ _ hrun => (fieldItems_ok hrun).2.2.2) (by simp) hread, foldl_or_findSome]
  rfl

/-! ## Packed records -/

/-- An argument of `repr` as the language writes one: a name, with a group of arguments in
parentheses or without (`C`, `packed`, `align(8)`). -/
def plainArg : List Token → Bool
  | [.ident _ _] => true
  | [.ident _ _, .group .paren _] => true
  | _ => false

/-- Whether an argument of `repr` asks for packing: `packed` or `packed(N)`. -/
def isPackedArg : List Token → Bool
  | [t] => isKeyword "packed" t
  | [t, .group .paren _] => isKeyword "packed" t
  | _ => false

/-- Whether arguments are all plain, the last one allowed to be empty (after a trailing comma, or
when there is none). -/
def argsPlain : List (List Token) → Bool
  | [] => true
  | [last] => last.isEmpty || plainArg last
  | arg :: rest => plainArg arg && argsPlain rest

/-- Whether some `repr` attribute asks for packing, in any position among its arguments. -/
def reprPacked (attrs : List Attribute) : Bool :=
  attrs.any fun a => a.isNamed "repr" && match a.form with
    | .list _ body => (splitArgs body).any isPackedArg
    | _ => false

/-- Whether the arguments of every `repr` attribute are plain. -/
def reprWritten (attrs : List Attribute) : Bool :=
  attrs.all fun a => !a.isNamed "repr" || match a.form with
    | .list _ body => argsPlain (splitArgs body)
    | _ => true

theorem plainArg_cases {arg : List Token} (h : plainArg arg = true) :
    (∃ n r, arg = [.ident n r]) ∨ ∃ n r g, arg = [.ident n r, .group .paren g] := by
  unfold plainArg at h
  split at h
  · exact .inl ⟨_, _, rfl⟩
  · exact .inr ⟨_, _, _, rfl⟩
  · cases h

theorem splitArgs_ne_nil (ts : List Token) : splitArgs ts ≠ [] := by
  induction ts with
  | nil => simp [splitArgs]
  | cons t rest ih =>
    unfold splitArgs
    split
    · simp
    · intro h
      exact ih (List.modifyHead_eq_nil_iff.mp h)

/-- The trees of a list are its first argument, and a comma and the rest if there are more. -/
theorem splitArgs_eq_cons {ts arg : List Token} {more : List (List Token)}
    (h : splitArgs ts = arg :: more) :
    more = [] ∧ ts = arg ∨
      ∃ c rest, c.isComma = true ∧ ts = arg ++ c :: rest ∧ splitArgs rest = more := by
  induction ts generalizing arg more with
  | nil =>
    simp only [splitArgs, List.cons.injEq] at h
    obtain ⟨rfl, rfl⟩ := h
    exact .inl ⟨rfl, rfl⟩
  | cons t rest ih =>
    unfold splitArgs at h
    split at h
    · rename_i hc
      simp only [List.cons.injEq] at h
      obtain ⟨rfl, rfl⟩ := h
      exact .inr ⟨t, rest, hc, rfl, rfl⟩
    · obtain ⟨a', m', hsplit⟩ := List.exists_cons_of_ne_nil (splitArgs_ne_nil rest)
      rw [hsplit] at h
      simp only [List.modifyHead_cons, List.cons.injEq] at h
      obtain ⟨rfl, rfl⟩ := h
      rcases ih hsplit with ⟨rfl, rfl⟩ | ⟨c, r, hc, rfl, hr⟩
      · exact .inl ⟨rfl, rfl⟩
      · exact .inr ⟨c, r, hc, rfl, hr⟩

/-- The reading of `repr` arguments stops on an empty list. -/
theorem packedIn_go_nil (k : Nat) (found : Bool) : packedIn.go k [] found = found := by
  cases k <;> rfl

/-- The reading of `repr` arguments takes a plain argument, and goes on after a comma. -/
theorem packedIn_go_arg {k : Nat} {arg rest : List Token} (found : Bool) (harg : plainArg arg = true)
    (hrest : ∀ t ∈ rest.head?, t.isComma = true) :
    packedIn.go (k + 2) (arg ++ rest) found =
      if rest.length ≤ 1 then found || isPackedArg arg
      else packedIn.go (k + 1) rest.tail (found || isPackedArg arg) := by
  -- each shape of argument, before the end, a last comma, or a comma and more
  rcases plainArg_cases harg with ⟨n, r, rfl⟩ | ⟨n, r, g, rfl⟩ <;>
  rcases rest with _ | ⟨c, rest⟩
  · rfl
  · obtain ⟨sp, rfl⟩ := Token.eq_of_isComma (hrest c rfl)
    cases rest <;> rfl
  · rfl
  · obtain ⟨sp, rfl⟩ := Token.eq_of_isComma (hrest c rfl)
    cases rest <;> rfl

/-- With fuel for every argument, the reading of plain `repr` arguments finds `packed` exactly when
one of them asks for it. -/
theorem packedIn_go_eq (k : Nat) (ts : List Token) (found : Bool)
    (hplain : argsPlain (splitArgs ts) = true) (hfuel : (splitArgs ts).length + 1 ≤ k) :
    packedIn.go k ts found = (found || (splitArgs ts).any isPackedArg) := by
  induction k generalizing ts found with
  | zero => omega
  | succ k ih =>
    obtain ⟨arg, more, hsplit⟩ := List.exists_cons_of_ne_nil (splitArgs_ne_nil ts)
    rw [hsplit] at hplain hfuel ⊢
    obtain ⟨k, rfl⟩ : ∃ k', k = k' + 1 := ⟨k - 1, by simp at hfuel; omega⟩
    rcases splitArgs_eq_cons hsplit with ⟨rfl, hts⟩ | ⟨c, rest, hc, hts, hrest⟩ <;> rw [hts]
    · -- the last argument: none, or a plain one
      rcases Bool.or_eq_true_iff.mp hplain with hempty | harg
      · rw [List.isEmpty_iff.mp hempty, packedIn_go_nil]
        simp [isPackedArg]
      · rw [← List.append_nil arg, packedIn_go_arg found harg (by simp)]
        simp
    · -- a plain argument, a comma, and the arguments after it
      obtain ⟨m, ms, hms⟩ := List.exists_cons_of_ne_nil (splitArgs_ne_nil rest)
      rw [← hrest, hms] at hplain hfuel
      rw [← hrest, hms]
      simp only [argsPlain, Bool.and_eq_true] at hplain
      rw [packedIn_go_arg found hplain.1 (by simp [hc])]
      cases rest with
      | nil =>
        simp only [splitArgs, List.cons.injEq] at hms
        obtain ⟨rfl, rfl⟩ := hms
        simp [isPackedArg]
      | cons r rs =>
        rw [if_neg (by simp), List.tail_cons, ih (r :: rs) _ (hms ▸ hplain.2) (by
          rw [hms]; simp at hfuel ⊢; omega), hms]
        simp [Bool.or_assoc]

theorem splitArgs_length_le (ts : List Token) : (splitArgs ts).length ≤ ts.length + 1 := by
  induction ts with
  | nil => simp [splitArgs]
  | cons t rest ih =>
    unfold splitArgs
    split <;> simp <;> omega

theorem Token.one_le_count (t : Token) : 1 ≤ t.count := by
  cases t <;> simp [Token.count]

theorem length_le_countList (ts : List Token) : ts.length ≤ Token.countList ts := by
  induction ts with
  | nil => simp [Token.countList]
  | cons t rest ih =>
    have ht := Token.one_le_count t
    simp only [Token.countList, List.length_cons]
    omega

/-- Plain `repr` arguments ask for packing exactly when one of them is `packed` or `packed(N)`. -/
theorem packedIn_eq {body : List Token} (hplain : argsPlain (splitArgs body) = true) :
    packedIn body = (splitArgs body).any isPackedArg := by
  unfold packedIn
  rw [packedIn_go_eq _ _ _ hplain, Bool.false_or]
  have h₁ := splitArgs_length_le body
  have h₂ := length_le_countList body
  simp only [fuelFor]
  omega

/-- A record whose `repr` arguments are plain is packed exactly when some `repr` attribute asks for
packing, in any position among its arguments. -/
theorem isPacked_eq {attrs : List Attribute} (hwritten : reprWritten attrs = true) :
    isPacked attrs = reprPacked attrs := by
  induction attrs with
  | nil => rfl
  | cons a attrs ih =>
    simp only [reprWritten, List.all_cons, Bool.and_eq_true] at hwritten
    simp only [isPacked, reprPacked, List.any_cons] at ih ⊢
    rw [ih hwritten.2]
    congr 1
    cases hrepr : a.isNamed "repr" with
    | false => rfl
    | true =>
      simp only [hrepr, Bool.not_true, Bool.false_or] at hwritten
      simp only [Bool.true_and]
      cases hform : a.form with
      | list d body =>
        rw [hform] at hwritten
        exact packedIn_eq hwritten.1
      | path => rfl
      | nameValue => rfl

end ObjectMapping.Record
