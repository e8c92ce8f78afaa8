import ObjectMapping.Toml.Token

/-!
# Problems in a TOML text

A `Toml.Problem` says what is wrong with a TOML text and where: a description, what was
expected instead (nothing given, nothing at all, or a list of things), and the span it is about.

* `Problem.message` is the description followed by `, expected …`: a literal is quoted in
  backticks, a line feed is called `newline`, and an empty list is `nothing`.
* `Problem.render` writes the problem with the line it is on and carets under its span, one
  caret at least and one a byte; lines and columns are counted from one, columns in
  characters unless the place is at a character wider than a byte (`lineAndColumn`).
-/

namespace ObjectMapping.Toml

/-- Something a reader expected to find. -/
inductive Expectation where
  /-- A piece of text, written quoted. -/
  | literal (text : String)
  /-- A kind of thing, written as its description. -/
  | description (text : String)
  deriving Repr, Inhabited

/-- How an expectation reads in a message. -/
def Expectation.render : Expectation → String
  | .literal "\n" => "newline"
  | .literal text => "`" ++ text ++ "`"
  | .description text => text

/-- What is wrong with a text, and where. -/
structure Problem where
  description : String
  expected : Option (List Expectation)
  span : Span
  deriving Repr, Inhabited

/-- A problem with no expectation. -/
def Problem.plain (description : String) (span : Span) : Problem := ⟨description, none, span⟩

/-- The message of a problem. -/
def Problem.message (p : Problem) : String :=
  match p.expected with
  | none => p.description
  | some [] => p.description ++ ", expected nothing"
  | some es => p.description ++ ", expected " ++ ", ".intercalate (es.map Expectation.render)

/-- The line and column of a place in a text, both from zero. The column counts characters up
to a character of one byte, and bytes up to a wider one, where the text before the place
ends in the middle of a character and can only be measured in bytes. A place at the very end
counts as one past the last character, on that character's line even when it is a line
feed. -/
def lineAndColumn (cs : List Char) (p : Nat) : Nat × Nat :=
  if cs.isEmpty then (0, p)
  else
    let safe := min p (cs.length - 1)
    let before := cs.take safe
    let lineStart := before.length - (before.reverse.takeWhile (· != '\n')).length
    let onLine := before.drop lineStart
    let column :=
      if p < cs.length && (cs.getD p ' ').utf8Size != 1 then
        (onLine.map Char.utf8Size).foldr (· + ·) 0
      else onLine.length
    ((before.take lineStart).count '\n', column + (p - safe))

/-- A problem written with the line it is on and carets under its span. The carets are as many
as the span has bytes, at most up to the end of the line, and one at least. -/
def Problem.render (p : Problem) (text : String) : String :=
  let cs := text.toList
  let (line, column) := lineAndColumn cs p.span.start
  let content := (text.splitOn "\n").getD line ""
  let lineNum := toString (line + 1)
  let gutter := String.ofList (List.replicate (lineNum.length + 1) ' ')
  let spanBytes := (((cs.drop p.span.start).take (p.span.stop - p.span.start)).map
    Char.utf8Size).foldr (· + ·) 0
  let width := min spanBytes (content.utf8ByteSize - column)
  let carets := String.ofList (List.replicate (max width 1) '^')
  "TOML parse error at line " ++ lineNum ++ ", column " ++ toString (column + 1) ++ "\n" ++
    gutter ++ "|\n" ++
    lineNum ++ " | " ++ content ++ "\n" ++
    gutter ++ "|" ++ String.ofList (List.replicate (column + 1) ' ') ++ carets ++ "\n" ++
    p.message ++ "\n"

end ObjectMapping.Toml
