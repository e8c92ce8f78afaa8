import ObjectMapping.Service.Setup
import ObjectMapping.Record.Generate
import ObjectMapping.Manifest.CratePath

/-!
# Generating code for record declarations

`derive` reads a struct declaration and answers the generated code as text, or the error that
generated code would carry (kind `Derive`, with the compile error it becomes); a source text
with no reading as tokens is refused as input, and a broken manifest aborts (kind `Panic`). `manifest_path` resolves a crate path in a manifest given as text, and
`full_path` shows the absolute paths of the standard items generated code uses.
-/

namespace ObjectMapping.Service

open ObjectMapping.Json

/-- The manifest of a package that depends on the mapping crate directly. -/
def defaultManifest : String :=
  "[package]\nname = \"driver\"\n\n[dependencies]\nvc_mapper = \"0.0.1\"\n"

/-- Where a request says the manifest is: `manifest_dir` names a directory with no manifest;
`manifest` is its text, `null` for no package directory, or `{"directory": true}` for a
manifest that cannot be read. Without either, the manifest is `defaultManifest`. -/
def manifestSource (request : Tree) : ServiceM Manifest.Source := do
  match request.get? "manifest_dir" with
  | some (.string _) => return .missing
  | some .null | none => pure ()
  | some _ => refuse "`manifest_dir` must be a string"
  match request.get? "manifest" with
  | none => pure (.text defaultManifest)
  | some .null => pure .unset
  | some (.string s) => pure (.text s)
  | some m@(.object _) =>
    match m.get? "directory" with
    | some (.bool true) => pure .unreadable
    | _ => refuse "unknown `manifest` object"
  | some _ => refuse "`manifest` must be a string, null or an object"

/-- The answer to an invalid declaration: the message and the compile error it becomes. -/
def invalidDeclaration (message : String) : Fault :=
  .other "Derive" message
    [("compile_error", .string (Token.renderList (MappedRecord.compileError message)))]

/-- `derive`: the code generated for a declaration. -/
def deriveRequest (request : Tree) : ServiceM Tree := do
  let source ← stringField request "source"
  let manifest ← manifestSource request
  match Syntax.Declaration.parse source with
  | .error .untokenizable => refuse ("lex error: " ++ Syntax.ReadFailure.untokenizable.message)
  | .error (.invalid message) => throw (invalidDeclaration message)
  | .ok d =>
    let path := (manifest.cratePath MappedRecord.crateName).map (·.tokens)
    match MappedRecord.ofDeclaration d path with
    | .error (.invalid message) => throw (invalidDeclaration message)
    | .error (.abort message) => throw (.panic message)
    | .ok m => pure (.object [("tokens", .string (Token.renderList m.generate))])

/-- `manifest_path`: the path of a crate as a manifest resolves it. -/
def manifestPathRequest (request : Tree) : ServiceM Tree := do
  let text ← stringField request "manifest"
  let name ← stringField request "name"
  match Toml.parse text with
  | .error e => refuse ("toml: " ++ e.render text)
  | .ok doc =>
    match Manifest.cratePath doc name with
    | .error message => throw (.panic message)
    | .ok p =>
      pure (.object [
        ("path", .string (Token.renderList p.tokens)),
        ("segments", .array (p.segments.map Tree.string)),
        ("leading_colon", .bool true)])

/-- `full_path`: the absolute paths of the standard items, and one nested in another. -/
def fullPathRequest : Tree :=
  let shown (name : String) (path : List Token) : Tree :=
    .array [.string name, .string (Token.renderList path), .string name]
  .array [
    shown "FQAny" FullPath.any,
    shown "FQBox" FullPath.box,
    shown "FQDefault" FullPath.default,
    shown "FQOption" FullPath.option,
    shown "FQResult" FullPath.result,
    .array [.string "nested",
      .string (Token.renderList (FullPath.option ++ Tokens.op "<" ++ FullPath.box ++
        Tokens.op "<" ++ Tokens.words "u8" ++ Tokens.op ">>")),
      .string ""]]

end ObjectMapping.Service
