import ObjectMapping.Text.Unicode

/-!
# Quoted text

Two ways of writing a string between quotes.

* `Text.jsonQuote`: JSON string syntax. A quote, a backslash and the control characters below
  U+0020 are escaped (`\b \t \n \f \r` by name, the others as `\u00XX` in lower-case hex);
  everything else, non-ASCII included, is written as it is.
* `Text.debugQuote` and `Text.debugChar`: the quoted form a debug view shows. Control and
  other invisible characters, and combining marks, are written `\u{X}` with the code point in
  lower-case hex; `\0 \t \r \n \\` by name; the enclosing quote is escaped, the other is not.

The debug form takes its character classes from `Text.isVisible` and `Text.isExtending`.
-/

namespace ObjectMapping.Text

/-- Lower-case hexadecimal digits of a natural number, without leading zeros. -/
def hexDigits (n : Nat) : String :=
  String.ofList (Nat.toDigits 16 n)

/-- Lower-case hexadecimal digits, padded with zeros on the left to `width`. -/
def hexPadded (width n : Nat) : String :=
  let s := Nat.toDigits 16 n
  String.ofList (List.replicate (width - s.length) '0' ++ s)

/-- JSON text of one character inside a string. -/
def jsonChar (c : Char) : String :=
  match c with
  | '"' => "\\\""
  | '\\' => "\\\\"
  | '\n' => "\\n"
  | '\r' => "\\r"
  | '\t' => "\\t"
  | _ =>
    if c.toNat = 8 then "\\b"
    else if c.toNat = 12 then "\\f"
    else if c.toNat < 0x20 then "\\u" ++ hexPadded 4 c.toNat
    else c.toString

/-- A string in JSON syntax, quotes included. -/
def jsonQuote (s : String) : String :=
  "\"" ++ String.join (s.toList.map jsonChar) ++ "\""

/-- The debug text of one character, inside a string (`inString`) or a character literal. -/
def debugEscape (inString : Bool) (c : Char) : String :=
  match c with
  | '\x00' => "\\0"
  | '\t' => "\\t"
  | '\r' => "\\r"
  | '\n' => "\\n"
  | '\\' => "\\\\"
  | '"' => if inString then "\\\"" else "\""
  | '\'' => if inString then "'" else "\\'"
  | _ =>
    if isExtending c || !isVisible c then "\\u\x7b" ++ hexDigits c.toNat ++ "\x7d"
    else c.toString

/-- A string as a debug view writes it, quotes included. -/
def debugQuote (s : String) : String :=
  "\"" ++ String.join (s.toList.map (debugEscape true)) ++ "\""

/-- A character as a debug view writes it, quotes included. -/
def debugChar (c : Char) : String :=
  "'" ++ debugEscape false c ++ "'"

end ObjectMapping.Text
