import Mathlib
import ObjectMapping.Manifest.CratePath

/-!
# How a manifest resolves the path of a crate

The rules `Manifest.cratePath` follows, stated on their own terms:

* `ListedAs deps package key`: a dependency table lists `package` under `key`, its own name
  when that is a key of the table, or else the first key, in table order, whose entry renames
  `package`;
* `ShortName name module`: `name` is `vc_module`;
* `TablePath deps name segs`: the segments a table gives for a crate: its own key, or for a
  crate `vc_m` the key of the umbrella crate followed by `m`, or else `vc` and `m` when the
  table has a key `vc`;
* `Resolves doc name segs`: the first of `dependencies` and `dev-dependencies` that gives
  segments, and `[name]` when neither does.

`cratePath_eq_of_resolves` and `exists_resolves` show that the manifest's path is the path of
these segments, and that some segments always exist (`crate_path_resolution`). The segments are
the keys as the manifest writes them: no `-` becomes `_`. A key Cargo accepts that is not an
identifier, such as `my-crate`, is a segment as it is, and the path parser refuses it
(`pathOf_hyphenated`), so that the path of a crate renamed under it is an error
(`hyphenated_alias_refused`).
-/

namespace ObjectMapping.Manifest

/-- A dependency table lists `package` under `key`. -/
inductive ListedAs (deps : Toml.Entries) (package : String) : String → Prop
  /-- The package is a key of the table. -/
  | own : package ∈ deps.map (·.1) → ListedAs deps package package
  /-- The first entry renamed to the package, when it is not a key itself. -/
  | renamed {key : String} {item : Toml.Item} (before after : Toml.Entries) :
      package ∉ deps.map (·.1) → deps = before ++ (key, item) :: after →
      packageOf item = some package → (∀ e ∈ before, packageOf e.2 ≠ some package) →
      ListedAs deps package key

/-- `name` is the crate `vc_module` of the umbrella's family. -/
def ShortName (name module : String) : Prop := name = cratePrefix ++ module

/-- The segments of the path a dependency table gives for a crate. -/
inductive TablePath (deps : Toml.Entries) (name : String) : List String → Prop
  /-- The crate is listed. -/
  | listed {key : String} : ListedAs deps name key → TablePath deps name [key]
  /-- The crate is not listed, but the umbrella crate is. -/
  | umbrella {key module : String} : (∀ k, ¬ ListedAs deps name k) → ShortName name module →
      ListedAs deps umbrella key → TablePath deps name [key, module]
  /-- Neither is listed, but the table has the umbrella's short name as a key. -/
  | short {module : String} : (∀ k, ¬ ListedAs deps name k) → ShortName name module →
      (∀ k, ¬ ListedAs deps umbrella k) → shortUmbrella ∈ deps.map (·.1) →
      TablePath deps name [shortUmbrella, module]

/-- The table of a manifest at a key gives these segments. -/
def Gives (doc : Toml.Document) (table name : String) (segs : List String) : Prop :=
  ∃ deps, section? doc table = some deps ∧ TablePath deps name segs

/-- The segments of the path of a crate a manifest resolves. -/
inductive Resolves (doc : Toml.Document) (name : String) : List String → Prop
  /-- The `dependencies` table gives segments. -/
  | dependencies {segs : List String} : Gives doc "dependencies" name segs →
      Resolves doc name segs
  /-- It gives none, and `dev-dependencies` does. -/
  | devDependencies {segs : List String} : (∀ s, ¬ Gives doc "dependencies" name s) →
      Gives doc "dev-dependencies" name segs → Resolves doc name segs
  /-- Neither gives any: the crate's own name. -/
  | fallback : (∀ s, ¬ Gives doc "dependencies" name s) →
      (∀ s, ¬ Gives doc "dev-dependencies" name s) → Resolves doc name [name]

/-! ## Keys -/

section Keys

variable {deps : Toml.Entries} {package key : String}

theorem any_key_iff : deps.any (·.1 == package) = true ↔ package ∈ deps.map (·.1) := by
  simp

/-- `dependencyKey` finds exactly the key a table lists a package under. -/
theorem dependencyKey_eq_some_iff :
    dependencyKey deps package = some key ↔ ListedAs deps package key := by
  unfold dependencyKey
  by_cases hown : package ∈ deps.map (·.1)
  · rw [if_pos (any_key_iff.mpr hown), Option.some.injEq]
    constructor
    · rintro rfl
      exact .own hown
    · rintro (_ | ⟨_, _, hnot⟩)
      · rfl
      · exact absurd hown hnot
  · rw [if_neg (mt any_key_iff.mp hown), Option.map_eq_some_iff]
    constructor
    · rintro ⟨⟨k, item⟩, hfind, rfl⟩
      obtain ⟨hpackage, before, after, hdeps, hbefore⟩ := List.find?_eq_some_iff_append.mp hfind
      exact .renamed before after hown hdeps (by simpa using hpackage)
        fun e he => by simpa using hbefore e he
    · rintro (hmem | ⟨before, after, _, hdeps, hpackage, hbefore⟩)
      · exact absurd hmem hown
      · refine ⟨_, List.find?_eq_some_iff_append.mpr
          ⟨by simpa using hpackage, before, after, hdeps, fun e he => by simpa using hbefore e he⟩,
          rfl⟩

theorem dependencyKey_eq_none_iff :
    dependencyKey deps package = none ↔ ∀ k, ¬ ListedAs deps package k := by
  simp only [Option.eq_none_iff_forall_ne_some, ne_eq, dependencyKey_eq_some_iff]

end Keys

/-- The short name the code cuts off a crate's name is the one `ShortName` speaks of. -/
theorem shortName_iff {name module : String} : ShortName name module ↔
    name.startsWith cratePrefix = true ∧
      module = String.ofList (name.toList.drop cratePrefix.length) := by
  rw [String.startsWith_string_iff, ShortName]
  constructor
  · rintro rfl
    simp [String.toList_append, ← String.length_toList]
  · rintro ⟨⟨rest, hrest⟩, rfl⟩
    rw [← String.toList_inj, String.toList_append, String.toList_ofList, ← hrest,
      ← String.length_toList, List.drop_left]

/-! ## One table -/

section Table

variable {deps : Toml.Entries} {name : String}

/-- Every path the rules give for a table is the one `inDependencies` gives. -/
theorem inDependencies_of_tablePath {segs : List String} (h : TablePath deps name segs) :
    inDependencies deps name = some (pathOf segs) := by
  cases h with
  | listed hkey => simp [inDependencies, dependencyKey_eq_some_iff.mpr hkey]
  | umbrella hnot hshort hkey =>
    obtain ⟨hstart, rfl⟩ := shortName_iff.mp hshort
    simp [inDependencies, dependencyKey_eq_none_iff.mpr hnot, hstart,
      dependencyKey_eq_some_iff.mpr hkey]
  | short hnot hshort hnone hvc =>
    obtain ⟨hstart, rfl⟩ := shortName_iff.mp hshort
    simp [inDependencies, dependencyKey_eq_none_iff.mpr hnot, hstart,
      dependencyKey_eq_none_iff.mpr hnone, any_key_iff.mpr hvc]

/-- Every path `inDependencies` gives comes from a rule. -/
theorem exists_tablePath_of_inDependencies {r : Except String CratePath}
    (h : inDependencies deps name = some r) :
    ∃ segs, TablePath deps name segs ∧ r = pathOf segs := by
  unfold inDependencies at h
  cases hkey : dependencyKey deps name with
  | some key =>
    rw [hkey, Option.some.injEq] at h
    exact ⟨[key], .listed (dependencyKey_eq_some_iff.mp hkey), h.symm⟩
  | none =>
    have hnot := dependencyKey_eq_none_iff.mp hkey
    rw [hkey] at h
    by_cases hstart : name.startsWith cratePrefix = true
    · have hshort := shortName_iff.mpr ⟨hstart, rfl⟩
      simp only [hstart, if_true] at h
      cases humbrella : dependencyKey deps umbrella with
      | some key =>
        rw [humbrella, Option.some.injEq] at h
        exact ⟨_, .umbrella hnot hshort (dependencyKey_eq_some_iff.mp humbrella), h.symm⟩
      | none =>
        rw [humbrella] at h
        by_cases hvc : shortUmbrella ∈ deps.map (·.1)
        · rw [if_pos (any_key_iff.mpr hvc), Option.some.injEq] at h
          exact ⟨_, .short hnot hshort (dependencyKey_eq_none_iff.mp humbrella) hvc, h.symm⟩
        · rw [if_neg (mt any_key_iff.mp hvc)] at h
          cases h
    · simp [hstart] at h

theorem inDependencies_eq_none_iff :
    inDependencies deps name = none ↔ ∀ segs, ¬ TablePath deps name segs := by
  constructor
  · intro h segs hpath
    simp [inDependencies_of_tablePath hpath] at h
  · intro h
    rw [Option.eq_none_iff_forall_ne_some]
    intro r hr
    obtain ⟨segs, hpath, -⟩ := exists_tablePath_of_inDependencies hr
    exact h segs hpath

end Table

/-! ## The manifest -/

section Manifest

variable {doc : Toml.Document} {table name : String}

theorem bind_inDependencies_of_gives {segs : List String} (h : Gives doc table name segs) :
    (section? doc table).bind (inDependencies · name) = some (pathOf segs) := by
  obtain ⟨deps, hsection, hpath⟩ := h
  simp [hsection, inDependencies_of_tablePath hpath]

theorem bind_inDependencies_eq_none (h : ∀ segs, ¬ Gives doc table name segs) :
    (section? doc table).bind (inDependencies · name) = none := by
  cases hsection : section? doc table with
  | none => rfl
  | some deps =>
    exact inDependencies_eq_none_iff.mpr fun segs hpath => h segs ⟨deps, hsection, hpath⟩

/-- The manifest's path is the path of the segments the rules give. -/
theorem cratePath_eq_of_resolves {segs : List String} (h : Resolves doc name segs) :
    cratePath doc name = pathOf segs := by
  cases h with
  | dependencies hgives => simp [cratePath, bind_inDependencies_of_gives hgives]
  | devDependencies hnone hgives =>
    simp [cratePath, bind_inDependencies_eq_none hnone, bind_inDependencies_of_gives hgives]
  | fallback hnone hnone' =>
    simp [cratePath, bind_inDependencies_eq_none hnone, bind_inDependencies_eq_none hnone']

/-- The rules give segments for every crate and manifest. -/
theorem exists_resolves (doc : Toml.Document) (name : String) :
    ∃ segs, Resolves doc name segs := by
  by_cases hdeps : ∃ segs, Gives doc "dependencies" name segs
  · obtain ⟨segs, hgives⟩ := hdeps
    exact ⟨segs, .dependencies hgives⟩
  · rw [not_exists] at hdeps
    by_cases hdev : ∃ segs, Gives doc "dev-dependencies" name segs
    · obtain ⟨segs, hgives⟩ := hdev
      exact ⟨segs, .devDependencies hdeps hgives⟩
    · exact ⟨[name], .fallback hdeps (not_exists.mp hdev)⟩

end Manifest

/-- Crate path resolution follows its rules. The path of a crate in a manifest is made from
the first of the `dependencies` and `dev-dependencies` tables that gives segments, and from the
crate's own name when neither does. A table gives the key the crate is listed under (its own
name, or else the first key renamed to it); for a crate `vc_m`, the umbrella's key and `m`; or
else `vc` and `m` when `vc` is a key. Each key is a segment as the manifest writes it. -/
theorem crate_path_resolution (doc : Toml.Document) (name : String) :
    (∃ segs, Resolves doc name segs) ∧
      ∀ segs, Resolves doc name segs → cratePath doc name = pathOf segs :=
  ⟨exists_resolves doc name, fun _ h => cratePath_eq_of_resolves h⟩

/-! ## A key that is not an identifier

Lexing runs on the characters of a text, one token a step; these lemmas take the steps of a text
with no brackets, blanks or comments. -/

section Lexing

open ObjectMapping.Tokens ObjectMapping.Text

variable {c : Char} {rest : List Char}

theorem skipBlank_cons {fuel : Nat} (hslash : c ≠ '/') (hblank : isSourceBlank c = false) :
    skipBlank (fuel + 1) (c :: rest) = c :: rest := by
  simp only [skipBlank]
  simp [startsWith, Ne.symm hslash, hblank]

theorem docComment?_cons (hslash : c ≠ '/') : docComment? (c :: rest) = none := by
  simp [docComment?, startsWith, Ne.symm hslash]

/-- One step of the lexer at a character that opens no bracket, blank or comment. -/
theorem lexLoop_leaf {fuel : Nat} {rest' : List Char} {stack : List (Delimiter × List Token)}
    {acc : List Token} {t : Token}
    (hplain : c ≠ '/' ∧ isSourceBlank c = false ∧ opening? c = none ∧ closing? c = none)
    (hleaf : leafToken? (c :: rest) = some (t, rest')) :
    lexLoop (fuel + 1) (c :: rest) stack acc = lexLoop fuel rest' stack (t :: acc) := by
  obtain ⟨hslash, hblank, hopen, hclose⟩ := hplain
  simp only [lexLoop, skipBlank_cons hslash hblank, docComment?_cons hslash, hopen, hclose, hleaf,
    ite_self]

theorem lexLoop_nil {fuel : Nat} {acc : List Token} :
    lexLoop (fuel + 1) [] [] acc = some acc.reverse := by
  simp [lexLoop, skipBlank, docComment?, startsWith]

theorem lex_of_unmarked {source : String} (hsource : source.toList = c :: rest)
    (hmark : c ≠ '\uFEFF') : lex source = lexLoop ((c :: rest).length + 1) (c :: rest) [] [] := by
  unfold lex
  rw [hsource]
  split
  · rename_i hbom
    cases hbom
    exact absurd rfl hmark
  · rfl

/-- `::my-crate` reads as `::`, `my`, `-` and `crate`. -/
theorem lex_hyphenated : lex "::my-crate" = some [.punct ':' .joint, .punct ':' .alone,
    .ident "my" false, .punct '-' .alone, .ident "crate" false] := by
  have htext : "::my-crate".toList = [':', ':', 'm', 'y', '-', 'c', 'r', 'a', 't', 'e'] := by
    decide
  -- each token: `isPunctChar` is a membership test, and the rest evaluates
  have h1 : leafToken? [':', ':', 'm', 'y', '-', 'c', 'r', 'a', 't', 'e'] =
      some (.punct ':' .joint, [':', 'm', 'y', '-', 'c', 'r', 'a', 't', 'e']) := by
    simp only [leafToken?, punctToken?, punctChar?, isPunctChar, String.contains_char_eq]
    rfl
  have h2 : leafToken? [':', 'm', 'y', '-', 'c', 'r', 'a', 't', 'e'] =
      some (.punct ':' .alone, ['m', 'y', '-', 'c', 'r', 'a', 't', 'e']) := by
    simp only [leafToken?, punctToken?, punctChar?, isPunctChar, String.contains_char_eq]
    rfl
  have h3 : leafToken? ['m', 'y', '-', 'c', 'r', 'a', 't', 'e'] =
      some (.ident "my" false, ['-', 'c', 'r', 'a', 't', 'e']) := by
    simp only [leafToken?, punctToken?, punctChar?, isPunctChar, String.contains_char_eq]
    rfl
  have h4 : leafToken? ['-', 'c', 'r', 'a', 't', 'e'] =
      some (.punct '-' .alone, ['c', 'r', 'a', 't', 'e']) := by
    simp only [leafToken?, punctToken?, punctChar?, isPunctChar, String.contains_char_eq]
    rfl
  have h5 : leafToken? ['c', 'r', 'a', 't', 'e'] = some (.ident "crate" false, []) := by
    simp only [leafToken?, punctToken?, punctChar?, isPunctChar, String.contains_char_eq]
    rfl
  rw [lex_of_unmarked htext (by decide)]
  simp only [List.length_cons, List.length_nil]
  rw [lexLoop_leaf (by decide) h1, lexLoop_leaf (by decide) h2, lexLoop_leaf (by decide) h3,
    lexLoop_leaf (by decide) h4, lexLoop_leaf (by decide) h5, lexLoop_nil]
  rfl

end Lexing

/-- The path `::my-crate` is not one: the `-` after `my` is left over. -/
theorem pathOf_hyphenated : pathOf ["my-crate"] = .error "`::my-crate` is not a valid path" := by
  have htext : String.join (["my-crate"].map ("::" ++ ·)) = "::my-crate" := by cbv
  unfold pathOf
  rw [htext]
  dsimp only
  rw [lex_hyphenated]
  rfl

/-- A manifest that depends on `vc_mapper` under the hyphenated key `my-crate`. -/
def hyphenatedManifest : String :=
  "[dependencies]\nmy-crate = \x7b package = \"vc_mapper\", version = \"0.0.1\" \x7d\n"

/-- The key `my-crate` Cargo accepts is the first segment as written, and the path of
`vc_mapper` is refused instead of being `::my_crate`. -/
theorem hyphenated_alias_refused :
    ∃ doc, Toml.parse hyphenatedManifest = .ok doc ∧ Resolves doc "vc_mapper" ["my-crate"] ∧
      (Source.text hyphenatedManifest).cratePath "vc_mapper" =
        .error "`::my-crate` is not a valid path" := by
  let entry : Toml.Item := .value (.table [("package", .string "vc_mapper"),
    ("version", .string "0.0.1")] false)
  let doc : Toml.Document := [("dependencies", .table [("my-crate", entry)] .header)]
  have hparse : Toml.parse hyphenatedManifest = .ok doc := by cbv
  have hresolves : Resolves doc "vc_mapper" ["my-crate"] :=
    .dependencies ⟨_, rfl, .listed (.renamed [] [] (by decide) rfl rfl (by simp))⟩
  refine ⟨doc, hparse, hresolves, ?_⟩
  rw [Source.cratePath, hparse]
  exact (cratePath_eq_of_resolves hresolves).trans pathOf_hyphenated

end ObjectMapping.Manifest
