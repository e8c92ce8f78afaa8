import ObjectMapping.Proofs.DerivedRecord

/-!
# The attribute grammar of a record declaration

A declaration is accepted for generation when it is a struct with named fields and no lifetime
parameters, and its `mapped` attributes keep to their grammar. Each `mapped` attribute has its
items in a group, separated by commas, a comma after the last one allowed. On the type the items
are `default` and `auto_register`; on a field they are `skip`, `adapted`, `default` and
`rename = "…"` with a string whose value is not empty. No item appears twice among all the
`mapped` attributes of one type or of one field, and `skip` stands alone. Attributes of other
names are not read.

* `listArgs`, `TypeItem.ofArg`, `FieldItem.ofArg` and `mappedItems` read the grammar off the
  trees of the attributes, with no parser.
* `typeItems_sound` and `typeItems_complete` (and the same for fields): a run of the parser of one
  attribute's items succeeds exactly when its arguments are items, and it then sets their flags
  one after another, failing on a flag set twice (`TypeFlags.add`, `FieldFlags.add`). Setting
  flags from nothing succeeds exactly when no item is repeated, and gives the flags of the items
  (`TypeFlags.foldlM_add_ofItems`).
* `MappedRecord.ofDeclaration_accepts_grammar`: a declaration is accepted exactly when the path of
  the mapping crate is found and the declaration keeps to the grammar; the record's flags are
  then those of the items written.
-/

set_option autoImplicit false

namespace ObjectMapping.Record

open ObjectMapping.Syntax ObjectMapping.Syntax.Parser

/-! ## The grammar -/

/-- The arguments of an attribute's list, a comma after the last one allowed. -/
def listArgs (body : List Token) : List (List Token) :=
  if (splitArgs body).getLast?.any List.isEmpty then (splitArgs body).dropLast else splitArgs body

/-- An item of `#[mapped(…)]` on a type. -/
inductive TypeItem where
  | default
  | autoRegister
  deriving DecidableEq

/-- The item an argument of `#[mapped(…)]` on a type is, if any. -/
def TypeItem.ofArg : List Token → Option TypeItem
  | [t] =>
    if isKeyword "default" t then some .default
    else if isKeyword "auto_register" t then some .autoRegister
    else none
  | _ => none

/-- An item of `#[mapped(…)]` on a field; a rename keeps its literal. -/
inductive FieldItem where
  | skip
  | adapted
  | default
  | rename (literal : Token)

namespace FieldItem

/-- The name an item is written with. -/
def name : FieldItem → String
  | skip => "skip"
  | adapted => "adapted"
  | default => "default"
  | rename _ => "rename"

/-- The literal of a rename. -/
def literal? : FieldItem → Option Token
  | rename lit => some lit
  | _ => none

/-- The item an argument of `#[mapped(…)]` on a field is, if any: a flag by its name, or
`rename = "…"` with a string literal whose value is not empty. -/
def ofArg : List Token → Option FieldItem
  | [t] =>
    if isKeyword "skip" t then some skip
    else if isKeyword "adapted" t then some adapted
    else if isKeyword "default" t then some default
    else none
  | [t, .punct '=' _, lit] =>
    if isKeyword "rename" t && (stringValue? lit).any (· != "") then some (rename lit) else none
  | _ => none

end FieldItem

/-- An argument that is an item of a type is one keyword, `default` or `auto_register`. -/
theorem TypeItem.eq_of_ofArg {a : List Token} {i : TypeItem} (h : TypeItem.ofArg a = some i) :
    ∃ t, a = [t] ∧ (isKeyword "default" t = true ∧ i = .default ∨
      isKeyword "default" t = false ∧ isKeyword "auto_register" t = true ∧ i = .autoRegister) := by
  unfold TypeItem.ofArg at h
  split at h
  · rename_i t
    refine ⟨t, rfl, ?_⟩
    by_cases hd : isKeyword "default" t = true
    · rw [if_pos hd, Option.some.injEq] at h
      exact .inl ⟨hd, h.symm⟩
    · rw [if_neg hd] at h
      by_cases ha : isKeyword "auto_register" t = true
      · rw [if_pos ha, Option.some.injEq] at h
        exact .inr ⟨by simpa using hd, ha, h.symm⟩
      · rw [if_neg ha] at h
        cases h
  · cases h

/-- An argument that is an item of a field is one keyword, `skip`, `adapted` or `default`, or
`rename = "…"` with a string whose value is not empty. -/
theorem FieldItem.eq_of_ofArg {a : List Token} {i : FieldItem} (h : FieldItem.ofArg a = some i) :
    (∃ t, a = [t] ∧ (isKeyword "skip" t = true ∧ i = .skip ∨
      isKeyword "skip" t = false ∧ isKeyword "adapted" t = true ∧ i = .adapted ∨
      isKeyword "skip" t = false ∧ isKeyword "adapted" t = false ∧
        isKeyword "default" t = true ∧ i = .default)) ∨
    ∃ t sp lit v, a = [t, .punct '=' sp, lit] ∧ isKeyword "rename" t = true ∧
      stringValue? lit = some v ∧ v ≠ "" ∧ i = .rename lit := by
  unfold FieldItem.ofArg at h
  split at h
  · rename_i t
    refine .inl ⟨t, rfl, ?_⟩
    by_cases hs : isKeyword "skip" t = true
    · rw [if_pos hs, Option.some.injEq] at h
      exact .inl ⟨hs, h.symm⟩
    rw [if_neg hs] at h
    by_cases ha : isKeyword "adapted" t = true
    · rw [if_pos ha, Option.some.injEq] at h
      exact .inr (.inl ⟨by simpa using hs, ha, h.symm⟩)
    rw [if_neg ha] at h
    by_cases hd : isKeyword "default" t = true
    · rw [if_pos hd, Option.some.injEq] at h
      exact .inr (.inr ⟨by simpa using hs, by simpa using ha, hd, h.symm⟩)
    rw [if_neg hd] at h
    cases h
  · rename_i t sp lit
    by_cases hr : (isKeyword "rename" t && (stringValue? lit).any (· != "")) = true
    · rw [if_pos hr, Option.some.injEq] at h
      simp only [Bool.and_eq_true] at hr
      obtain ⟨ht, hany⟩ := hr
      cases hv : stringValue? lit with
      | none =>
        rw [hv] at hany
        cases hany
      | some v =>
        rw [hv] at hany
        exact .inr ⟨t, sp, lit, v, rfl, ht, hv, by simpa using hany, h.symm⟩
    · rw [if_neg hr] at h
      cases h
  · cases h

/-- The items of an attribute, if it has them in a group and each of its arguments is an item. -/
def attributeItems {α : Type} (item : List Token → Option α) (a : Attribute) : Option (List α) :=
  match a.form with
  | .list _ body => (listArgs body).mapM item
  | _ => none

/-- The items of the `mapped` attributes among some attributes, in order, if each of them has its
items in a group and each of its arguments is an item. -/
def mappedItems {α : Type} (item : List Token → Option α) (attrs : List Attribute) :
    Option (List α) :=
  ((attrs.filter fun (a : Attribute) => a.isNamed "mapped").mapM (attributeItems item)).map
    List.flatten

/-- Whether the `mapped` attributes of a type keep to the grammar: only `default` and
`auto_register`, each at most once. -/
def typeAttrsValid (attrs : List Attribute) : Bool :=
  (mappedItems TypeItem.ofArg attrs).any fun items => decide items.Nodup

/-- Whether the `mapped` attributes of a field keep to the grammar: only `skip`, `adapted`,
`default` and `rename = "…"`, each at most once, and `skip` alone. -/
def fieldAttrsValid (attrs : List Attribute) : Bool :=
  (mappedItems FieldItem.ofArg attrs).any fun items =>
    decide (items.map FieldItem.name).Nodup &&
      (!(items.map FieldItem.name).contains "skip" || items.length == 1)

/-- The type flags that items set. -/
def TypeFlags.ofItems (items : List TypeItem) : TypeFlags :=
  { default := items.contains .default, autoRegister := items.contains .autoRegister }

/-- The field flags that items set. -/
def FieldFlags.ofItems (items : List FieldItem) : FieldFlags :=
  { skip := (items.map FieldItem.name).contains "skip"
    adapted := (items.map FieldItem.name).contains "adapted"
    default := (items.map FieldItem.name).contains "default"
    rename := items.findSome? FieldItem.literal? }

/-! ## Arguments split at commas -/

/-- Every list of trees is a first argument with no comma, followed by nothing or by a comma and
the rest. -/
theorem eq_arg_or_arg_comma (ts : List Token) :
    ∃ a, (∀ x ∈ a, x.isComma = false) ∧
      (ts = a ∨ ∃ c rest, c.isComma = true ∧ ts = a ++ c :: rest) := by
  induction ts with
  | nil => exact ⟨[], by simp, .inl rfl⟩
  | cons t rest ih =>
    by_cases ht : t.isComma = true
    · exact ⟨[], by simp, .inr ⟨t, rest, ht, rfl⟩⟩
    obtain ⟨a, ha, hrest⟩ := ih
    refine ⟨t :: a, ?_, ?_⟩
    · intro x hx
      rcases List.mem_cons.mp hx with rfl | hx
      · simpa using ht
      · exact ha x hx
    · rcases hrest with rfl | ⟨c, r, hc, rfl⟩
      · exact .inl rfl
      · exact .inr ⟨c, r, hc, rfl⟩

@[simp] theorem listArgs_nil : listArgs [] = [] := rfl

theorem listArgs_of_noComma {a : List Token} (ha : ∀ x ∈ a, x.isComma = false) (hne : a ≠ []) :
    listArgs a = [a] := by
  unfold listArgs
  rw [splitArgs_of_noComma ha]
  simp [List.isEmpty_iff, hne]

/-- A comma after a first argument starts the arguments of the rest; a comma at the end starts
none. -/
theorem listArgs_append_comma {a rest : List Token} {c : Token}
    (ha : ∀ x ∈ a, x.isComma = false) (hc : c.isComma = true) :
    listArgs (a ++ c :: rest) = a :: listArgs rest := by
  unfold listArgs
  rw [splitArgs_append_comma ha hc]
  obtain ⟨b, bs, hsplit⟩ := List.exists_cons_of_ne_nil (splitArgs_ne_nil rest)
  rw [hsplit]
  -- the last argument is that of the rest, which is not the only one
  have hlast : (a :: b :: bs).getLast? = (b :: bs).getLast? := by simp [List.getLast?_cons_cons]
  rw [hlast]
  split <;> simp

/-! ## Setting flags one item after another -/

/-- Sets the flag of an item, failing when it is set already. -/
def TypeFlags.add (flags : TypeFlags) : TypeItem → Option TypeFlags
  | .default => if flags.default then none else some { flags with default := true }
  | .autoRegister => if flags.autoRegister then none else some { flags with autoRegister := true }

/-- Sets the flag of an item, or the rename, failing when it is set already. -/
def FieldFlags.add (flags : FieldFlags) : FieldItem → Option FieldFlags
  | .skip => if flags.skip then none else some { flags with skip := true }
  | .adapted => if flags.adapted then none else some { flags with adapted := true }
  | .default => if flags.default then none else some { flags with default := true }
  | .rename lit => if flags.rename.isSome then none else some { flags with rename := some lit }

namespace TypeFlags

@[simp] theorem ofItems_nil : ofItems [] = {} := rfl

/-- Adding an item to the flags of some items fails when it is among them, and otherwise gives
the flags of all of them. -/
theorem add_ofItems (done : List TypeItem) (i : TypeItem) :
    (ofItems done).add i = if done.contains i then none else some (ofItems (done ++ [i])) := by
  cases i <;> simp only [add, ofItems] <;> split <;> simp_all

/-- Adding items one after another to the flags of distinct items succeeds exactly when all are
distinct, and gives the flags of all of them. -/
theorem foldlM_add_ofItems {done : List TypeItem} (hdone : done.Nodup) (items : List TypeItem)
    (flags : TypeFlags) :
    items.foldlM add (ofItems done) = some flags ↔
      (done ++ items).Nodup ∧ flags = ofItems (done ++ items) := by
  induction items generalizing done with
  | nil => simp [hdone, eq_comm]
  | cons i items ih =>
    rw [List.foldlM_cons, add_ofItems]
    by_cases hi : i ∈ done
    · -- the item is there already: adding it fails, and the items are not distinct
      have hdup : ¬(done ++ i :: items).Nodup := fun h =>
        (List.nodup_append.mp h).2.2 i hi i List.mem_cons_self rfl
      simp [hi, hdup]
    · have hdone' : (done ++ [i]).Nodup := List.nodup_append.mpr ⟨hdone, List.nodup_singleton i,
        fun a ha b hb hab => hi (by rw [List.mem_singleton] at hb; rw [← hb, ← hab]; exact ha)⟩
      simp only [List.contains_iff_mem, hi, if_false, Option.bind_eq_bind,
        Option.bind_some, ih hdone', List.append_assoc, List.singleton_append]

end TypeFlags

namespace FieldFlags

@[simp] theorem ofItems_nil : ofItems [] = {} := rfl

/-- The items hold a rename exactly when one of them is named `rename`. -/
theorem findSome?_literal_isSome (done : List FieldItem) :
    (done.findSome? FieldItem.literal?).isSome = (done.map FieldItem.name).contains "rename" := by
  induction done with
  | nil => rfl
  | cons i done ih =>
    cases i <;> simp only [List.findSome?_cons, FieldItem.literal?, List.map_cons, FieldItem.name,
      List.contains_cons, ih] <;> simp

/-- Adding an item to the flags of some items fails when one of them has its name, and otherwise
gives the flags of all of them. -/
theorem add_ofItems (done : List FieldItem) (i : FieldItem) :
    (ofItems done).add i =
      if (done.map FieldItem.name).contains i.name then none else some (ofItems (done ++ [i])) := by
  have hlit := findSome?_literal_isSome done
  by_cases hc : (done.map FieldItem.name).contains i.name = true
  · rw [if_pos hc]
    cases i <;> simp_all only [add, ofItems, FieldItem.name, if_true]
  · rw [if_neg hc]
    cases i with
    | rename lit =>
      -- no rename yet: the literal becomes the rename
      have hnone : done.findSome? FieldItem.literal? = none := by
        rw [← Option.not_isSome_iff_eq_none, hlit]
        exact hc
      simp only [add, ofItems, hnone, Option.isSome_none, Bool.false_eq_true, if_false,
        List.map_append, List.contains_append, List.findSome?_append, List.map_singleton]
      simp [FieldItem.name, FieldItem.literal?]
    | _ =>
      simp only [FieldItem.name] at hc
      simp only [add, ofItems, hc, Bool.false_eq_true, if_false, List.map_append,
        List.contains_append, List.findSome?_append, List.map_singleton]
      simp [FieldItem.name, FieldItem.literal?]

/-- Adding items one after another to the flags of items with distinct names succeeds exactly
when all names are distinct, and gives the flags of all of them. -/
theorem foldlM_add_ofItems {done : List FieldItem} (hdone : (done.map FieldItem.name).Nodup)
    (items : List FieldItem) (flags : FieldFlags) :
    items.foldlM add (ofItems done) = some flags ↔
      ((done ++ items).map FieldItem.name).Nodup ∧ flags = ofItems (done ++ items) := by
  induction items generalizing done with
  | nil => simp [hdone, eq_comm]
  | cons i items ih =>
    rw [List.foldlM_cons, add_ofItems]
    by_cases hi : i.name ∈ done.map FieldItem.name
    · -- an item of that name is there already: adding it fails, and the names are not distinct
      have hdup : ¬(done.map FieldItem.name ++ i.name :: items.map FieldItem.name).Nodup :=
        fun h => (List.nodup_append.mp h).2.2 i.name hi i.name List.mem_cons_self rfl
      simp [hi, hdup]
    · have hdone' : ((done ++ [i]).map FieldItem.name).Nodup := by
        rw [List.map_append, List.map_singleton]
        exact List.nodup_append.mpr ⟨hdone, List.nodup_singleton _,
          fun a ha b hb hab => hi (by rw [List.mem_singleton] at hb; rw [← hb, ← hab]; exact ha)⟩
      simp only [List.contains_iff_mem, hi, if_false, Option.bind_eq_bind,
        Option.bind_some, ih hdone', List.append_assoc, List.singleton_append]

end FieldFlags

/-! ## Runs of the item parsers -/

theorem peekPunct_path_comma {c : Token} (hc : c.isComma = true) (rest : List Token) :
    peekPunct "::" (c :: rest) = false := by
  obtain ⟨sp, rfl⟩ := Token.eq_of_isComma hc
  rfl

/-- An identifier with no `::` after it is read as the path of that identifier. -/
theorem itemPath_run_ident {k : Nat} {n : String} {raw : Bool} {rest : List Token}
    (lo : Option Delimiter) (hrest : peekPunct "::" rest = false) :
    (itemPath (k + 1)).run ⟨.ident n raw :: rest, lo⟩ =
      .ok ((false, [.ident n raw]), ⟨rest, lo⟩) := by
  have hcolon : peekPunct.go [':', ':'] rest = false := hrest
  simp [itemPath, itemSegments, punct?, peek, atEnd, identAny, hcolon, peekPunct, peekPunct.go,
    anyIdentNext, isAnyIdent]

/-- The arguments of a list that holds one argument, with or without a comma after it. -/
theorem listArgs_last {a rest : List Token} (ha : ∀ x ∈ a, x.isComma = false) (hne : a ≠ []) :
    (rest = [] ∨ ∃ c, c.isComma = true ∧ rest = [c]) → listArgs (a ++ rest) = [a] := by
  rintro (rfl | ⟨c, hc, rfl⟩)
  · rw [List.append_nil]
    exact listArgs_of_noComma ha hne
  · rw [listArgs_append_comma ha hc]
    rfl

/-- A parser `loop` of items that, at each step, reads one argument that is an item and goes on
after it with the flags the item adds, reads arguments that are items and adds their flags one
after another. -/
theorem items_sound {σ β : Type} {ofArg : List Token → Option β} {add : σ → β → Option σ}
    {loop : Nat → σ → Parser σ} (hnil : ofArg [] = none)
    (hzero : ∀ {flags flags' : σ} {s s' : ParseState}, (loop 0 flags).run s ≠ .ok (flags', s'))
    (hstep : ∀ {k : Nat} {flags flags' : σ} {s s' : ParseState},
      (loop (k + 1) flags).run s = .ok (flags', s') →
      ∃ arg item flags₁ s₁, s.tokens = arg ++ s₁.tokens ∧ (∀ x ∈ arg, x.isComma = false) ∧
        ofArg arg = some item ∧ add flags item = some flags₁ ∧
        (do
          if ← atEnd then return flags₁
          let _ ← punct ","
          if ← atEnd then return flags₁
          loop k flags₁ : Parser σ).run s₁ = .ok (flags', s'))
    {k : Nat} {flags flags' : σ} {s s' : ParseState} (h : (loop k flags).run s = .ok (flags', s')) :
    ∃ items, (listArgs s.tokens).mapM ofArg = some items ∧ items.foldlM add flags = some flags' := by
  induction k generalizing flags s with
  | zero => exact absurd h hzero
  | succ k ih =>
    obtain ⟨arg, item, flags₁, s₁, hs, harg, hitem, hadd, htail⟩ := hstep h
    have hne : arg ≠ [] := by
      rintro rfl
      rw [hnil] at hitem
      cases hitem
    rcases itemsTail_ok htail with ⟨rfl, hend⟩ | ⟨c, s₂, hc, hs₁, -, hloop⟩
    · -- the last item
      refine ⟨[item], ?_, by simpa using hadd⟩
      rw [hs, listArgs_last harg hne hend]
      simp [hitem]
    · -- a comma, and the items after it
      obtain ⟨items, hitems, hflags⟩ := ih hloop
      refine ⟨item :: items, ?_, ?_⟩
      · rw [hs, hs₁, listArgs_append_comma harg hc]
        simp [hitem, hitems]
      · simp [hadd, hflags]

/-- A step of the parser of a type's items reads an item, which adds the flags the step sets. -/
theorem TypeStep.item {flags flags₁ : TypeFlags} {arg : List Token}
    (h : TypeStep flags arg flags₁) :
    ∃ item, TypeItem.ofArg arg = some item ∧ flags.add item = some flags₁ := by
  cases h with
  | default ht hunset =>
    exact ⟨.default, by simp [TypeItem.ofArg, ht], by simp [TypeFlags.add, hunset]⟩
  | autoRegister ht hunset =>
    exact ⟨.autoRegister, by simp [TypeItem.ofArg, isKeyword_eq_of ht],
      by simp [TypeFlags.add, hunset]⟩

/-- A step of the parser of a field's items reads an item, which adds the flags the step sets. -/
theorem FieldStep.item {flags flags₁ : FieldFlags} {arg : List Token}
    (h : FieldStep flags arg flags₁) :
    ∃ item, FieldItem.ofArg arg = some item ∧ flags.add item = some flags₁ := by
  cases h with
  | skip ht hunset =>
    exact ⟨.skip, by simp [FieldItem.ofArg, ht], by simp [FieldFlags.add, hunset]⟩
  | adapted ht hunset =>
    exact ⟨.adapted, by simp [FieldItem.ofArg, isKeyword_eq_of ht],
      by simp [FieldFlags.add, hunset]⟩
  | default ht hunset =>
    exact ⟨.default, by simp [FieldItem.ofArg, isKeyword_eq_of ht],
      by simp [FieldFlags.add, hunset]⟩
  | @rename t lit sp v ht hv hne hnone =>
    exact ⟨.rename lit, by simp [FieldItem.ofArg, ht, hv, hne], by simp [FieldFlags.add, hnone]⟩

/-- A run of the parser of a type attribute's items reads arguments that are items, and sets
their flags one after another. -/
theorem typeItems_sound {k : Nat} {flags flags' : TypeFlags} {s s' : ParseState}
    (h : (typeItems k flags).run s = .ok (flags', s')) :
    ∃ items, (listArgs s.tokens).mapM TypeItem.ofArg = some items ∧
      items.foldlM TypeFlags.add flags = some flags' := by
  refine items_sound rfl fail_ne_ok (fun hrun => ?_) h
  obtain ⟨arg, flags₁, s₁, hs, hstep, htail⟩ := typeItems_succ_ok hrun
  obtain ⟨item, hitem, hadd⟩ := hstep.item
  exact ⟨arg, item, flags₁, s₁, hs, hstep.noComma, hitem, hadd, htail⟩

/-- A keyword is the identifier of its name, not raw. -/
theorem eq_ident_of_isKeyword {name : String} {t : Token} (h : isKeyword name t = true) :
    t = .ident name false := by
  unfold isKeyword at h
  split at h
  · simp only [beq_iff_eq] at h
    rw [h]
  · cases h

theorem mapM_cons_eq_some {α β : Type} {f : α → Option β} {a : α} {l : List α} {r : List β}
    (h : (a :: l).mapM f = some r) : ∃ b bs, f a = some b ∧ l.mapM f = some bs ∧ r = b :: bs := by
  simp only [List.mapM_cons, Option.bind_eq_bind, Option.bind_eq_some_iff, Option.pure_def,
    Option.some.injEq] at h
  obtain ⟨b, hb, bs, hbs, rfl⟩ := h
  exact ⟨b, bs, hb, hbs, rfl⟩

theorem foldlM_cons_eq_some {α β : Type} {f : β → α → Option β} {a : α} {l : List α} {b r : β}
    (h : (a :: l).foldlM f b = some r) : ∃ b₁, f b a = some b₁ ∧ l.foldlM f b₁ = some r := by
  simp only [List.foldlM_cons, Option.bind_eq_bind, Option.bind_eq_some_iff] at h
  exact h

section Tail

variable {σ : Type} {loop : Parser σ} (flags : σ) (lo : Option Delimiter)

theorem itemsTail_run_nil :
    (do
      if ← atEnd then return flags
      let _ ← punct ","
      if ← atEnd then return flags
      loop : Parser σ).run ⟨[], lo⟩ = .ok (flags, ⟨[], lo⟩) := rfl

theorem itemsTail_run_last_comma {c : Token} (hc : c.isComma = true) :
    (do
      if ← atEnd then return flags
      let _ ← punct ","
      if ← atEnd then return flags
      loop : Parser σ).run ⟨[c], lo⟩ = .ok (flags, ⟨[], lo⟩) := by
  obtain ⟨sp, rfl⟩ := Token.eq_of_isComma hc
  rfl

theorem itemsTail_run_comma {c : Token} (hc : c.isComma = true) {rest : List Token}
    (hrest : rest ≠ []) :
    (do
      if ← atEnd then return flags
      let _ ← punct ","
      if ← atEnd then return flags
      loop : Parser σ).run ⟨c :: rest, lo⟩ = loop.run ⟨rest, lo⟩ := by
  obtain ⟨sp, rfl⟩ := Token.eq_of_isComma hc
  obtain ⟨r, rs, rfl⟩ := List.exists_cons_of_ne_nil hrest
  rfl

end Tail

theorem punct_eq_run (sp : Spacing) (rest : List Token) (lo : Option Delimiter) :
    (punct "=").run ⟨.punct '=' sp :: rest, lo⟩ = .ok (Tokens.op "=", ⟨rest, lo⟩) := rfl

/-- A string literal is read as an item's value. -/
theorem stringItem_run {lit : Token} {v : String} (hv : stringValue? lit = some v)
    (rest : List Token) (lo : Option Delimiter) :
    stringItem.run ⟨lit :: rest, lo⟩ = .ok (lit, ⟨rest, lo⟩) := by
  simp [stringItem, atEnd, Parser.rest, next, hv]

/-- The first item of a list of arguments that are items, and the rest of the list after it: when
a parser `loop` of items reads every shorter such list to its end, it reads the rest. -/
theorem first_item_then_rest {σ β : Type} {ofArg : List Token → Option β}
    {add : σ → β → Option σ} {loop : σ → Parser σ} {k : Nat} {flags flags' : σ}
    {ts : List Token} {items : List β} (lo : Option Delimiter) (hnil : ofArg [] = none)
    (hloop : ∀ {flags : σ} {ts : List Token} {items : List β}, ts.length < k → ts ≠ [] →
      (listArgs ts).mapM ofArg = some items → items.foldlM add flags = some flags' →
      (loop flags).run ⟨ts, lo⟩ = .ok (flags', ⟨[], lo⟩))
    (hfuel : ts.length < k + 1) (hne : ts ≠ [])
    (hitems : (listArgs ts).mapM ofArg = some items) (hflags : items.foldlM add flags = some flags') :
    ∃ a tail item flags₁, ts = a ++ tail ∧ ofArg a = some item ∧ add flags item = some flags₁ ∧
      (tail = [] ∨ ∃ c rest, c.isComma = true ∧ tail = c :: rest) ∧
      (do
        if ← atEnd then return flags₁
        let _ ← punct ","
        if ← atEnd then return flags₁
        loop flags₁ : Parser σ).run ⟨tail, lo⟩ = .ok (flags', ⟨[], lo⟩) := by
  obtain ⟨a, ha, hts⟩ := eq_arg_or_arg_comma ts
  -- the first argument, and the arguments after it
  obtain ⟨tail, rest, rfl, hlist, htail⟩ : ∃ tail rest, ts = a ++ tail ∧
      listArgs ts = a :: listArgs rest ∧
      (tail = [] ∧ rest = [] ∨ ∃ c, c.isComma = true ∧ tail = c :: rest) := by
    rcases hts with rfl | ⟨c, rest, hc, rfl⟩
    · exact ⟨[], [], by simp, by rw [listArgs_of_noComma ha hne]; rfl, .inl ⟨rfl, rfl⟩⟩
    · exact ⟨c :: rest, rest, rfl, listArgs_append_comma ha hc, .inr ⟨c, hc, rfl⟩⟩
  rw [hlist] at hitems
  obtain ⟨item, items', hitem, hitems', rfl⟩ := mapM_cons_eq_some hitems
  obtain ⟨flags₁, hadd, hflags'⟩ := foldlM_cons_eq_some hflags
  have hlen : 0 < a.length := List.length_pos_iff.mpr fun h => by rw [h, hnil] at hitem; cases hitem
  refine ⟨a, tail, item, flags₁, rfl, hitem, hadd, ?_, ?_⟩
  · rcases htail with ⟨rfl, -⟩ | ⟨c, hc, rfl⟩
    · exact .inl rfl
    · exact .inr ⟨c, rest, hc, rfl⟩
  -- no more items after the end or a last comma; after a comma, the items of the rest
  rcases htail with ⟨rfl, rfl⟩ | ⟨c, hc, rfl⟩
  · simp only [listArgs_nil, List.mapM_nil, Option.pure_def, Option.some.injEq] at hitems'
    subst hitems'
    cases hflags'
    exact itemsTail_run_nil _ _
  · by_cases hrest : rest = []
    · subst hrest
      simp only [listArgs_nil, List.mapM_nil, Option.pure_def, Option.some.injEq] at hitems'
      subst hitems'
      cases hflags'
      exact itemsTail_run_last_comma _ _ hc
    · rw [itemsTail_run_comma _ _ hc hrest]
      exact hloop (by simp only [List.length_append, List.length_cons] at hfuel; omega) hrest
        hitems' hflags'

/-- An item of a type that can be added to the flags is a step of the parser. -/
theorem TypeStep.of_item {flags flags₁ : TypeFlags} {arg : List Token} {item : TypeItem}
    (hitem : TypeItem.ofArg arg = some item) (hadd : flags.add item = some flags₁) :
    TypeStep flags arg flags₁ := by
  obtain ⟨t, rfl, ⟨hd, rfl⟩ | ⟨-, ha, rfl⟩⟩ := TypeItem.eq_of_ofArg hitem
  · obtain ⟨hunset, rfl⟩ : flags.default = false ∧ { flags with default := true } = flags₁ := by
      simpa [TypeFlags.add] using hadd
    exact .default hd hunset
  · obtain ⟨hunset, rfl⟩ :
        flags.autoRegister = false ∧ { flags with autoRegister := true } = flags₁ := by
      simpa [TypeFlags.add] using hadd
    exact .autoRegister ha hunset

/-- A step of the parser of a type's items reads its argument, when no `::` follows it, and goes
on after it with the flags it sets. -/
theorem TypeStep.run {k : Nat} {flags flags₁ : TypeFlags} {arg tail : List Token}
    (h : TypeStep flags arg flags₁) (lo : Option Delimiter) (hcolon : peekPunct "::" tail = false) :
    (typeItems (k + 1 + 1) flags).run ⟨arg ++ tail, lo⟩ =
      (do
        if ← atEnd then return flags₁
        let _ ← punct ","
        if ← atEnd then return flags₁
        typeItems (k + 1) flags₁ : Parser TypeFlags).run ⟨tail, lo⟩ := by
  rw [typeItems]
  cases h with
  | default ht hunset =>
    obtain rfl := eq_ident_of_isKeyword ht
    rw [List.singleton_append, run_bind_ok (itemPath_run_ident lo hcolon)]
    dsimp only
    rw [if_pos (by decide), hunset,
      run_bind_ok (rfl : (setOnce false).run ⟨tail, lo⟩ = .ok (true, ⟨tail, lo⟩)),
      run_bind_ok (pure_run _)]
  | autoRegister ht hunset =>
    obtain rfl := eq_ident_of_isKeyword ht
    rw [List.singleton_append, run_bind_ok (itemPath_run_ident lo hcolon)]
    dsimp only
    rw [if_neg (by decide), if_pos (by decide), hunset,
      run_bind_ok (rfl : (setOnce false).run ⟨tail, lo⟩ = .ok (true, ⟨tail, lo⟩)),
      run_bind_ok (pure_run _)]

/-- A list of arguments that are items, whose flags can be set one after another, is read to its
end by the parser of a type attribute's items, given more fuel than it has trees. -/
theorem typeItems_complete {k : Nat} {flags flags' : TypeFlags} {ts : List Token}
    {items : List TypeItem} (lo : Option Delimiter) (hfuel : ts.length < k) (hne : ts ≠ [])
    (hitems : (listArgs ts).mapM TypeItem.ofArg = some items)
    (hflags : items.foldlM TypeFlags.add flags = some flags') :
    (typeItems k flags).run ⟨ts, lo⟩ = .ok (flags', ⟨[], lo⟩) := by
  induction k generalizing flags ts items with
  | zero => omega
  | succ k ih =>
    obtain ⟨a, tail, item, flags₁, rfl, hitem, hadd, htail, hrest⟩ :=
      first_item_then_rest lo rfl ih hfuel hne hitems hflags
    -- the first argument is one keyword, with no `::` after it
    have hcolon : peekPunct "::" tail = false := by
      rcases htail with rfl | ⟨c, rest, hc, rfl⟩
      · rfl
      · exact peekPunct_path_comma hc rest
    have hlen : 0 < a.length := List.length_pos_iff.mpr fun h => by rw [h] at hitem; cases hitem
    obtain ⟨k, rfl⟩ : ∃ k', k = k' + 1 := ⟨k - 1, by simp at hfuel; omega⟩
    rw [(TypeStep.of_item hitem hadd).run lo hcolon]
    exact hrest

/-- A run of the parser of a field attribute's items reads arguments that are items, and sets
their flags and rename one after another. -/
theorem fieldItems_sound {k : Nat} {flags flags' : FieldFlags} {s s' : ParseState}
    (h : (fieldItems k flags).run s = .ok (flags', s')) :
    ∃ items, (listArgs s.tokens).mapM FieldItem.ofArg = some items ∧
      items.foldlM FieldFlags.add flags = some flags' := by
  refine items_sound rfl fail_ne_ok (fun hrun => ?_) h
  obtain ⟨arg, flags₁, s₁, hs, hstep, htail⟩ := fieldItems_succ_ok hrun
  obtain ⟨item, hitem, hadd⟩ := hstep.item
  exact ⟨arg, item, flags₁, s₁, hs, hstep.noComma, hitem, hadd, htail⟩

/-- An item of a field that can be added to the flags is a step of the parser. -/
theorem FieldStep.of_item {flags flags₁ : FieldFlags} {arg : List Token} {item : FieldItem}
    (hitem : FieldItem.ofArg arg = some item) (hadd : flags.add item = some flags₁) :
    FieldStep flags arg flags₁ := by
  rcases FieldItem.eq_of_ofArg hitem with ⟨t, rfl, hkind⟩ | ⟨t, sp, lit, v, rfl, ht, hv, hne, rfl⟩
  · rcases hkind with ⟨hs, rfl⟩ | ⟨-, ha, rfl⟩ | ⟨-, -, hd, rfl⟩
    · obtain ⟨hunset, rfl⟩ : flags.skip = false ∧ { flags with skip := true } = flags₁ := by
        simpa [FieldFlags.add] using hadd
      exact .skip hs hunset
    · obtain ⟨hunset, rfl⟩ : flags.adapted = false ∧ { flags with adapted := true } = flags₁ := by
        simpa [FieldFlags.add] using hadd
      exact .adapted ha hunset
    · obtain ⟨hunset, rfl⟩ : flags.default = false ∧ { flags with default := true } = flags₁ := by
        simpa [FieldFlags.add] using hadd
      exact .default hd hunset
  · obtain ⟨hunset, rfl⟩ :
        flags.rename = none ∧ { flags with rename := some lit } = flags₁ := by
      simpa [FieldFlags.add] using hadd
    exact .rename ht hv hne hunset

/-- A step of the parser of a field's items reads its argument, when no `::` follows it, and goes
on after it with the flags it sets. -/
theorem FieldStep.run {k : Nat} {flags flags₁ : FieldFlags} {arg tail : List Token}
    (h : FieldStep flags arg flags₁) (lo : Option Delimiter) (hcolon : peekPunct "::" tail = false) :
    (fieldItems (k + 1 + 1) flags).run ⟨arg ++ tail, lo⟩ =
      (do
        if ← atEnd then return flags₁
        let _ ← punct ","
        if ← atEnd then return flags₁
        fieldItems (k + 1) flags₁ : Parser FieldFlags).run ⟨tail, lo⟩ := by
  rw [fieldItems]
  cases h with
  | skip ht hunset =>
    obtain rfl := eq_ident_of_isKeyword ht
    rw [List.singleton_append, run_bind_ok (itemPath_run_ident lo hcolon)]
    dsimp only
    rw [if_pos (by decide), hunset,
      run_bind_ok (rfl : (setOnce false).run ⟨tail, lo⟩ = .ok (true, ⟨tail, lo⟩)),
      run_bind_ok (pure_run _)]
  | adapted ht hunset =>
    obtain rfl := eq_ident_of_isKeyword ht
    rw [List.singleton_append, run_bind_ok (itemPath_run_ident lo hcolon)]
    dsimp only
    rw [if_neg (by decide), if_pos (by decide), hunset,
      run_bind_ok (rfl : (setOnce false).run ⟨tail, lo⟩ = .ok (true, ⟨tail, lo⟩)),
      run_bind_ok (pure_run _)]
  | default ht hunset =>
    obtain rfl := eq_ident_of_isKeyword ht
    rw [List.singleton_append, run_bind_ok (itemPath_run_ident lo hcolon)]
    dsimp only
    rw [if_neg (by decide), if_neg (by decide), if_pos (by decide), hunset,
      run_bind_ok (rfl : (setOnce false).run ⟨tail, lo⟩ = .ok (true, ⟨tail, lo⟩)),
      run_bind_ok (pure_run _)]
  | @rename t lit sp v ht hv hne hnone =>
    -- `rename`, then `=` and the literal; the `=` after the keyword is no `::`
    obtain rfl := eq_ident_of_isKeyword ht
    simp only [List.cons_append, List.nil_append]
    rw [run_bind_ok (itemPath_run_ident lo
        (rfl : peekPunct "::" (.punct '=' sp :: lit :: tail) = false)),
      if_neg (by decide), if_neg (by decide), if_neg (by decide), if_pos (by decide),
      if_neg (by simp [hnone]), run_bind_ok (punct_eq_run sp (lit :: tail) lo),
      run_bind_ok (stringItem_run hv tail lo), hv, Option.getD_some, if_neg (by simpa using hne),
      run_bind_ok (pure_run _)]

/-- A list of arguments that are items, whose flags and rename can be set one after another, is
read to its end by the parser of a field attribute's items, given more fuel than it has trees. -/
theorem fieldItems_complete {k : Nat} {flags flags' : FieldFlags} {ts : List Token}
    {items : List FieldItem} (lo : Option Delimiter) (hfuel : ts.length < k) (hne : ts ≠ [])
    (hitems : (listArgs ts).mapM FieldItem.ofArg = some items)
    (hflags : items.foldlM FieldFlags.add flags = some flags') :
    (fieldItems k flags).run ⟨ts, lo⟩ = .ok (flags', ⟨[], lo⟩) := by
  induction k generalizing flags ts items with
  | zero => omega
  | succ k ih =>
    obtain ⟨a, tail, item, flags₁, rfl, hitem, hadd, htail, hrest⟩ :=
      first_item_then_rest lo rfl ih hfuel hne hitems hflags
    -- the first argument is an item, with no `::` after it
    have hcolon : peekPunct "::" tail = false := by
      rcases htail with rfl | ⟨c, rest, hc, rfl⟩
      · rfl
      · exact peekPunct_path_comma hc rest
    have hlen : 0 < a.length := List.length_pos_iff.mpr fun h => by rw [h] at hitem; cases hitem
    obtain ⟨k, rfl⟩ : ∃ k', k = k' + 1 := ⟨k - 1, by simp at hfuel; omega⟩
    rw [(FieldStep.of_item hitem hadd).run lo hcolon]
    exact hrest

/-! ## All `mapped` attributes -/

section Attributes

variable {σ β : Type} {items : Nat → σ → Parser σ} {ofArg : List Token → Option β}
  {add : σ → β → Option σ}

/-- An attribute's items are read exactly when they are items whose flags can be set one after
another, for a parser of items that is sound and, given fuel, complete. -/
theorem readItems_eq_ok
    (hsound : ∀ {k : Nat} {flags flags' : σ} {s s' : ParseState},
      (items k flags).run s = .ok (flags', s') →
      ∃ is, (listArgs s.tokens).mapM ofArg = some is ∧ is.foldlM add flags = some flags')
    (hcomplete : ∀ {k : Nat} {flags flags' : σ} {ts : List Token} {is : List β}
      (lo : Option Delimiter), ts.length < k → ts ≠ [] → (listArgs ts).mapM ofArg = some is →
      is.foldlM add flags = some flags' → (items k flags).run ⟨ts, lo⟩ = .ok (flags', ⟨[], lo⟩))
    (a : Attribute) (flags flags' : σ) :
    readItems a items flags = .ok flags' ↔
      ∃ is, attributeItems ofArg a = some is ∧ is.foldlM add flags = some flags' := by
  obtain ⟨lc, segs, form, toks⟩ := a
  cases form with
  | path => simp [readItems, attributeItems]
  | nameValue => simp [readItems, attributeItems]
  | list d body =>
    simp only [readItems, attributeItems]
    by_cases hempty : body.isEmpty = true
    · -- an empty group sets nothing
      rw [if_pos hempty, List.isEmpty_iff.mp hempty]
      simp [eq_comm]
    rw [if_neg hempty]
    have hne : body ≠ [] := fun h => hempty (by rw [h]; rfl)
    constructor
    · intro h
      obtain ⟨s, hrun⟩ := runAll_ok h
      exact hsound hrun
    · rintro ⟨is, his, hflags⟩
      -- more fuel than trees: twice the trees, and four more
      have hfuel : body.length < fuelFor body := by
        have := length_le_countList body
        unfold fuelFor
        omega
      unfold Parser.runAll
      rw [show ({ tokens := body } : ParseState) = ⟨body, none⟩ from rfl,
        hcomplete none hfuel hne his hflags]
      rfl

/-- All `mapped` attributes are read exactly when their items, in order, can be set one after
another. -/
theorem readAll_eq_ok
    (hread : ∀ (a : Attribute) (flags flags' : σ), readItems a items flags = .ok flags' ↔
      ∃ is, attributeItems ofArg a = some is ∧ is.foldlM add flags = some flags')
    (attrs : List Attribute) (flags flags' : σ) :
    readAll attrs items flags = .ok flags' ↔
      ∃ is, mappedItems ofArg attrs = some is ∧ is.foldlM add flags = some flags' := by
  induction attrs generalizing flags with
  | nil => simp [readAll, mappedItems, eq_comm]
  | cons a attrs ih =>
    by_cases hm : a.isNamed "mapped" = true
    · have hstep : readAll (a :: attrs) items flags =
          readItems a items flags >>= fun f => readAll attrs items f := by
        simp [readAll, hm]
      rw [hstep, Json.bind_eq_ok]
      simp only [hread, ih]
      constructor
      · rintro ⟨f, ⟨is₁, h₁, hf₁⟩, is₂, h₂, hf₂⟩
        refine ⟨is₁ ++ is₂, ?_, ?_⟩
        · simp only [mappedItems, Option.map_eq_some_iff] at h₂ ⊢
          obtain ⟨iss, hiss, rfl⟩ := h₂
          refine ⟨is₁ :: iss, ?_, by simp⟩
          simp [hm, h₁, hiss]
        · simp [List.foldlM_append, hf₁, hf₂]
      · rintro ⟨is, his, hflags⟩
        simp only [mappedItems, Option.map_eq_some_iff, List.filter_cons, hm, if_true] at his
        obtain ⟨iss, hiss, rfl⟩ := his
        obtain ⟨is₁, iss', h₁, hiss', rfl⟩ := mapM_cons_eq_some hiss
        rw [List.flatten_cons, List.foldlM_append] at hflags
        obtain ⟨f, hf₁, hf₂⟩ := Option.bind_eq_some_iff.mp hflags
        exact ⟨f, ⟨is₁, h₁, hf₁⟩, iss'.flatten, by simp [mappedItems, hiss'], hf₂⟩
    · have hskip : readAll (a :: attrs) items flags = readAll attrs items flags := by
        simp [readAll, hm]
      have hitems : mappedItems ofArg (a :: attrs) = mappedItems ofArg attrs := by
        simp [mappedItems, hm]
      rw [hskip, hitems]
      exact ih flags

end Attributes

/-- The `mapped` attributes of a type are read exactly when they keep to the grammar, and then give
the flags of their items. -/
theorem typeFlags_eq_ok (attrs : List Attribute) (flags : TypeFlags) :
    typeFlags attrs = .ok flags ↔
      ∃ is, mappedItems TypeItem.ofArg attrs = some is ∧ is.Nodup ∧
        flags = TypeFlags.ofItems is := by
  unfold typeFlags
  rw [← TypeFlags.ofItems_nil,
    readAll_eq_ok (readItems_eq_ok typeItems_sound fun lo => typeItems_complete lo)]
  simp only [TypeFlags.foldlM_add_ofItems List.nodup_nil, List.nil_append]

theorem FieldItem.name_mem (i : FieldItem) : i.name ∈ ["skip", "adapted", "default", "rename"] := by
  cases i <;> simp [FieldItem.name]

/-- Among items of distinct names, `skip` goes with another item exactly when `skip` is among
them and they are not one item alone. -/
theorem FieldFlags.ofItems_skip_with_other {is : List FieldItem}
    (hnd : (is.map FieldItem.name).Nodup) :
    ((ofItems is).skip &&
        ((ofItems is).adapted || (ofItems is).default || (ofItems is).rename.isSome)) =
      !(!(is.map FieldItem.name).contains "skip" || is.length == 1) := by
  have hrename : (ofItems is).rename.isSome = (is.map FieldItem.name).contains "rename" :=
    findSome?_literal_isSome is
  rw [hrename, show is.length = (is.map FieldItem.name).length by simp]
  simp only [ofItems]
  generalize hnames : is.map FieldItem.name = names at hnd
  have hkinds : ∀ n ∈ names, n ∈ ["skip", "adapted", "default", "rename"] := by
    intro n hn
    rw [← hnames] at hn
    obtain ⟨i, -, rfl⟩ := List.mem_map.mp hn
    exact FieldItem.name_mem i
  by_cases hs : "skip" ∈ names
  · by_cases hother : "adapted" ∈ names ∨ "default" ∈ names ∨ "rename" ∈ names
    · -- two distinct names: at least two items
      have h2 : 2 ≤ names.length := by
        obtain ⟨x, hx, hxs⟩ : ∃ x, x ∈ names ∧ x ≠ "skip" := by
          rcases hother with h | h | h
          · exact ⟨_, h, by decide⟩
          · exact ⟨_, h, by decide⟩
          · exact ⟨_, h, by decide⟩
        have hpair : (["skip", x] : List String).length ≤ names.length :=
          List.Nodup.length_le_of_subset (by simp [Ne.symm hxs]) (by simp [List.subset_def, hs, hx])
        simpa using hpair
      have hne : names.length ≠ 1 := by omega
      rcases hother with h | h | h <;> simp [hs, h, hne]
    · -- `skip` alone: one item
      simp only [not_or] at hother
      have hsub : names ⊆ ["skip"] := by
        intro n hn
        have := hkinds n hn
        simp only [List.mem_cons, List.not_mem_nil, or_false] at this
        rcases this with rfl | rfl | rfl | rfl
        · simp
        · exact absurd hn hother.1
        · exact absurd hn hother.2.1
        · exact absurd hn hother.2.2
      have hone : names.length = 1 := by
        have h1 := hnd.length_le_of_subset hsub
        have h0 := List.length_pos_of_mem hs
        simp only [List.length_singleton] at h1
        omega
      simp [hs, hother, hone]
  · simp [hs]

/-- The `mapped` attributes of a field are read exactly when they keep to the grammar, and then
give the flags and rename of their items. -/
theorem fieldFlags_eq_ok (attrs : List Attribute) (flags : FieldFlags) :
    fieldFlags attrs = .ok flags ↔
      ∃ is, mappedItems FieldItem.ofArg attrs = some is ∧ (is.map FieldItem.name).Nodup ∧
        (!(is.map FieldItem.name).contains "skip" || is.length == 1) = true ∧
        flags = FieldFlags.ofItems is := by
  have hnil : (([] : List FieldItem).map FieldItem.name).Nodup := List.nodup_nil
  unfold fieldFlags
  rw [Json.bind_eq_ok, ← FieldFlags.ofItems_nil]
  simp only [readAll_eq_ok (readItems_eq_ok fieldItems_sound fun lo => fieldItems_complete lo),
    FieldFlags.foldlM_add_ofItems hnil, List.nil_append]
  constructor
  · rintro ⟨_, ⟨is, his, hnd, rfl⟩, hcheck⟩
    -- the check that `skip` stands alone passed
    rw [FieldFlags.ofItems_skip_with_other hnd] at hcheck
    split at hcheck
    · cases hcheck
    · rename_i halone
      cases hcheck
      refine ⟨is, his, hnd, ?_, rfl⟩
      generalize (!(is.map FieldItem.name).contains "skip" || is.length == 1) = b at halone
      cases b <;> simp_all
  · rintro ⟨is, his, hnd, halone, rfl⟩
    refine ⟨_, ⟨is, his, hnd, rfl⟩, ?_⟩
    rw [FieldFlags.ofItems_skip_with_other hnd, halone]
    rfl

/-- The `mapped` attributes of a type keep to the grammar exactly when they are read. -/
theorem typeAttrsValid_iff (attrs : List Attribute) :
    typeAttrsValid attrs = true ↔ ∃ flags, typeFlags attrs = .ok flags := by
  simp only [typeFlags_eq_ok, typeAttrsValid, Option.any_eq_true, decide_eq_true_eq]
  constructor
  · rintro ⟨is, his, hnd⟩
    exact ⟨_, is, his, hnd, rfl⟩
  · rintro ⟨_, is, his, hnd, -⟩
    exact ⟨is, his, hnd⟩

/-- The `mapped` attributes of a field keep to the grammar exactly when they are read. -/
theorem fieldAttrsValid_iff (attrs : List Attribute) :
    fieldAttrsValid attrs = true ↔ ∃ flags, fieldFlags attrs = .ok flags := by
  simp only [fieldFlags_eq_ok, fieldAttrsValid, Option.any_eq_true, Bool.and_eq_true,
    decide_eq_true_eq]
  constructor
  · rintro ⟨is, his, hnd, halone⟩
    exact ⟨_, is, his, hnd, halone, rfl⟩
  · rintro ⟨_, is, his, hnd, halone, -⟩
    exact ⟨is, his, hnd, halone⟩

/-- `skip` in one `mapped` attribute and a rename in another do not go together. -/
example : fieldAttrsValid
    [⟨false, [.ident "mapped" false], .list .paren [.ident "skip" false], []⟩,
      ⟨false, [.ident "mapped" false],
        .list .paren [.ident "rename" false, .punct '=' .alone, .literal "\"id\"", .punct ',' .alone],
        []⟩] = false := by decide

/-- A rename with a comma after it keeps to the grammar. -/
example : fieldAttrsValid
    [⟨false, [.ident "mapped" false],
      .list .paren [.ident "rename" false, .punct '=' .alone, .literal "\"id\"", .punct ',' .alone],
      []⟩] = true := by decide

end ObjectMapping.Record

namespace ObjectMapping

open ObjectMapping.Syntax ObjectMapping.Record

theorem mapM_eq_ok_of_forall₂ {α β ε : Type} {f : α → Except ε β} {xs : List α} {ys : List β}
    (h : List.Forall₂ (fun y x => f x = .ok y) ys xs) : xs.mapM f = .ok ys := by
  induction h with
  | nil => rfl
  | cons hy _ ih => simp [List.mapM_cons, hy, ih]

theorem exists_forall₂_of_forall {α β : Type} {R : β → α → Prop} {xs : List α}
    (h : ∀ x ∈ xs, ∃ y, R y x) : ∃ ys, List.Forall₂ R ys xs := by
  induction xs with
  | nil => exact ⟨[], .nil⟩
  | cons x xs ih =>
    obtain ⟨y, hy⟩ := h x List.mem_cons_self
    obtain ⟨ys, hys⟩ := ih fun x' hx' => h x' (List.mem_cons_of_mem x hx')
    exact ⟨y :: ys, .cons hy hys⟩

namespace MappedRecord

/-- What accepting a declaration gives: a struct with named fields and no lifetime parameter,
whose field and type attributes are read, under a crate path that is found; the record keeps
the declaration's parts with the flags read. -/
theorem ofDeclaration_eq_ok {d : Declaration} {path : Except String (List Token)}
    {m : MappedRecord} :
    ofDeclaration d path = .ok m ↔
      ∃ fs, d.body = .struct (.named fs) ∧ d.params.any isLifetime = false ∧
        path = .ok m.cratePath ∧ typeFlags d.attrs = .ok m.flags ∧
        List.Forall₂ (fun (mf : MappedField) (f : Field) =>
          mf.ident = f.ident ∧ mf.ty = f.ty ∧ fieldFlags f.attrs = .ok mf.flags) m.fields fs ∧
        m.ident = d.ident ∧ m.params = d.params ∧ m.predicates = d.predicates ∧
        m.packed = isPacked d.attrs := by
  constructor
  · intro h
    unfold ofDeclaration at h
    dsimp only at h
    split at h
    · cases h
    · cases h
    · rename_i fs hbody
      rw [pure_bind] at h
      split at h
      · cases h
      · rename_i hlife
        obtain ⟨fields, hfields, h₁⟩ := Json.bind_eq_ok.mp h
        obtain ⟨crate, hcrate, h₂⟩ := Json.bind_eq_ok.mp h₁
        obtain ⟨flags, hflags, h₃⟩ := Json.bind_eq_ok.mp h₂
        cases h₃
        refine ⟨fs, hbody, by simpa using hlife, mapError_eq_ok hcrate, mapError_eq_ok hflags,
          (mapM_forall₂ hfields).imp fun f g hf => ?_, rfl, rfl, rfl, rfl⟩
        obtain ⟨ff, hff, hf⟩ := Json.bind_eq_ok.mp hf
        cases hf
        exact ⟨rfl, rfl, mapError_eq_ok hff⟩
    · cases h
  · rintro ⟨fs, hbody, hlife, hpath, htype, hfields, hident, hparams, hpreds, hpacked⟩
    -- each field is read into the record's field
    have hmap : fs.mapM (fun f => do
        let flags ← (fieldFlags f.attrs).mapError Refusal.invalid
        pure ({ ident := f.ident, ty := f.ty, flags } : MappedField)) = .ok m.fields := by
      refine mapM_eq_ok_of_forall₂ (hfields.imp fun mf f ⟨hi, ht, hf⟩ => ?_)
      obtain ⟨i, t, flags⟩ := mf
      simp only at hi ht hf
      simp [hf, hi, ht, Except.mapError]
    obtain ⟨cratePath, ident, params, predicates, flags, packed, fields⟩ := m
    simp only at hpath htype hident hparams hpreds hpacked hmap
    unfold ofDeclaration
    simp only [hbody, hlife, Bool.false_eq_true, if_false, pure_bind, hmap]
    simp [hpath, htype, Except.mapError, hident, hparams, hpreds, hpacked]

theorem forall₂_exists_of_mem_right {α β : Type} {R : α → β → Prop} {l₁ : List α} {l₂ : List β}
    (h : List.Forall₂ R l₁ l₂) {b : β} (hb : b ∈ l₂) : ∃ a ∈ l₁, R a b := by
  induction h with
  | nil => cases hb
  | cons hab _ ih =>
    rcases List.mem_cons.mp hb with rfl | hb
    · exact ⟨_, List.mem_cons_self, hab⟩
    · obtain ⟨a, ha, hr⟩ := ih hb
      exact ⟨a, List.mem_cons_of_mem _ ha, hr⟩

/-- A declaration is accepted exactly when the crate path is found and the declaration keeps to
the attribute grammar: a struct with named fields and no lifetime parameter, whose `mapped`
attributes on the type and on each field have only their own items, each at most once, with
`skip` alone. The record's flags are then those of the items written, and its renames the
literals written. -/
theorem ofDeclaration_accepts_grammar (d : Declaration) (path : Except String (List Token)) :
    ((∃ m, ofDeclaration d path = .ok m) ↔
      (∃ p, path = .ok p) ∧
        (∃ fs, d.body = .struct (.named fs) ∧ ∀ f ∈ fs, fieldAttrsValid f.attrs = true) ∧
        (∀ q ∈ d.params, isLifetime q = false) ∧ typeAttrsValid d.attrs = true) ∧
    ∀ m, ofDeclaration d path = .ok m →
      (∃ is, mappedItems TypeItem.ofArg d.attrs = some is ∧ m.flags = TypeFlags.ofItems is) ∧
      ∃ fs, d.body = .struct (.named fs) ∧
        List.Forall₂ (fun (mf : MappedField) (f : Field) => ∃ is,
          mappedItems FieldItem.ofArg f.attrs = some is ∧ mf.flags = FieldFlags.ofItems is)
          m.fields fs := by
  refine ⟨⟨fun ⟨m, h⟩ => ?_, fun ⟨⟨p, hp⟩, ⟨fs, hbody, hfields⟩, hlife, htype⟩ => ?_⟩,
    fun m h => ?_⟩
  · -- accepted: every part of the declaration was read
    obtain ⟨fs, hbody, hlife, hpath, htype, hfields, -⟩ := ofDeclaration_eq_ok.mp h
    refine ⟨⟨_, hpath⟩, ⟨fs, hbody, fun f hf => ?_⟩, by simpa using hlife,
      (typeAttrsValid_iff _).mpr ⟨_, htype⟩⟩
    obtain ⟨mf, -, -, -, hff⟩ := forall₂_exists_of_mem_right hfields hf
    exact (fieldAttrsValid_iff _).mpr ⟨_, hff⟩
  · -- keeping to the grammar: every part is read, and the record is made of them
    obtain ⟨tflags, htflags⟩ := (typeAttrsValid_iff _).mp htype
    obtain ⟨mfs, hmfs⟩ := exists_forall₂_of_forall (R := fun (mf : MappedField) (f : Field) =>
        mf.ident = f.ident ∧ mf.ty = f.ty ∧ fieldFlags f.attrs = .ok mf.flags) fun f hf => by
      obtain ⟨ff, hff⟩ := (fieldAttrsValid_iff _).mp (hfields f hf)
      exact ⟨⟨f.ident, f.ty, ff⟩, rfl, rfl, hff⟩
    exact ⟨⟨p, d.ident, d.params, d.predicates, tflags, isPacked d.attrs, mfs⟩,
      ofDeclaration_eq_ok.mpr ⟨fs, hbody, by simpa using hlife, hp, htflags, hmfs, rfl, rfl, rfl,
        rfl⟩⟩
  · -- the flags read are those of the items
    obtain ⟨fs, hbody, -, -, htype, hfields, -⟩ := ofDeclaration_eq_ok.mp h
    obtain ⟨is, his, -, hflags⟩ := (typeFlags_eq_ok _ _).mp htype
    refine ⟨⟨is, his, hflags⟩, fs, hbody, hfields.imp fun mf f ⟨_, _, hff⟩ => ?_⟩
    obtain ⟨is', his', -, -, hflags'⟩ := (fieldFlags_eq_ok _ _).mp hff
    exact ⟨is', his', hflags'⟩

end MappedRecord

end ObjectMapping
