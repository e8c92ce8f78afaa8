import ObjectMapping.Toml.Document
import ObjectMapping.Syntax.Grammar
import ObjectMapping.Tokens.Lexer

/-!
# Where generated code finds the mapping crate

Generated code names the items of the mapping crate by an absolute path, and which path depends
on how the package being compiled depends on it. `Manifest.cratePath` reads that from the
package manifest, for the `dependencies` table and then `dev-dependencies`:

1. a dependency under the crate's own name gives `::name`;
2. a dependency renamed to it (`alias = { package = "name" }`) gives `::alias`;
3. for a crate `vc_m`, the umbrella crate `vc_mapping`, listed or renamed, gives `::key::m`;
4. for a crate `vc_m`, a dependency named `vc` gives `::vc::m`.

The first table that gives a path wins; without one the path is `::name`. A path is made from
text, and text that is not a path (`::my-crate`) is a failure that aborts generation.

`Manifest.Source` is where the manifest comes from; every way it can be missing or broken aborts
with its own message.
-/

namespace ObjectMapping.Manifest

open ObjectMapping.Syntax

/-- A path to a crate: its tokens and the text of its segments. -/
structure CratePath where
  tokens : List Token
  segments : List String
  deriving Inhabited

/-- The text of an identifier token. -/
def segmentText : Token → String
  | .ident name raw => Token.identText name raw
  | t => t.render

/-- The path `::a::b` of some segments, if that text is a path. -/
def pathOf (segments : List String) : Except String CratePath :=
  let text := String.join (segments.map ("::" ++ ·))
  let invalid : Except String CratePath := .error ("`" ++ text ++ "` is not a valid path")
  match Tokens.lex text with
  | none => invalid
  | some ts =>
    match Parser.runAll (path (fuelFor ts) false) ts with
    | .ok p => .ok { tokens := p.tokens, segments := p.segments.map (segmentText ·.1) }
    | .error _ => invalid

/-- The table of a document at a top-level key, if it is a table with a header or made on the
way (not an inline table). -/
def section? (doc : Toml.Document) (name : String) : Option (List (String × Toml.Item)) :=
  match doc.find? (·.1 == name) with
  | some (_, .table entries _) => some entries
  | _ => none

/-- The `package` string of a dependency entry, in a table or an inline table. -/
def packageOf : Toml.Item → Option String
  | .table entries _ =>
    match entries.find? (·.1 == "package") with
    | some (_, .value (.string s)) => some s
    | _ => none
  | .value (.table entries _) =>
    match entries.find? (·.1 == "package") with
    | some (_, .string s) => some s
    | _ => none
  | _ => none

/-- The key under which a package is a dependency: its own name, or the first key renamed to
it. -/
def dependencyKey (deps : List (String × Toml.Item)) (package : String) : Option String :=
  if deps.any (·.1 == package) then some package
  else (deps.find? fun (_, item) => packageOf item == some package).map (·.1)

/-- The umbrella crate and its short name. -/
def umbrella : String := "vc_mapping"
def shortUmbrella : String := "vc"
def cratePrefix : String := "vc_"

/-- The path a dependency table gives for a crate, if any. -/
def inDependencies (deps : List (String × Toml.Item)) (name : String) :
    Option (Except String CratePath) :=
  match dependencyKey deps name with
  | some key => some (pathOf [key])
  | none =>
    if name.startsWith cratePrefix then
      let module := String.ofList (name.toList.drop cratePrefix.length)
      match dependencyKey deps umbrella with
      | some key => some (pathOf [key, module])
      | none =>
        if deps.any (·.1 == shortUmbrella) then some (pathOf [shortUmbrella, module]) else none
    else none

/-- The path of a crate as the manifest resolves it. -/
def cratePath (doc : Toml.Document) (name : String) : Except String CratePath :=
  match ["dependencies", "dev-dependencies"].findSome? fun s =>
      (section? doc s).bind (inDependencies · name) with
  | some path => path
  | none => pathOf [name]

/-- Where the package manifest comes from. -/
inductive Source where
  /-- A manifest with this text. -/
  | text (contents : String)
  /-- No package directory is known. -/
  | unset
  /-- The package directory has no manifest. -/
  | missing
  /-- The manifest cannot be read. -/
  | unreadable
  deriving Inhabited

/-- The manifest's place in messages. -/
def manifestPlace : String := "$MANIFEST_DIR/Cargo.toml"

/-- The path of a crate as the manifest from a source resolves it, or why generation aborts. -/
def Source.cratePath (src : Source) (name : String) : Except String CratePath :=
  match src with
  | .unset => .error "CARGO_MANIFEST_DIR should be auto-defined by cargo."
  | .missing => .error ("Cargo manifest does not exist at path " ++ manifestPlace)
  | .unreadable => .error ("Unable to read cargo manifest: " ++ manifestPlace)
  | .text contents =>
    match Toml.parse contents with
    | .error _ => .error ("Failed to parse cargo manifest: " ++ manifestPlace)
    | .ok doc => Manifest.cratePath doc name

end ObjectMapping.Manifest
