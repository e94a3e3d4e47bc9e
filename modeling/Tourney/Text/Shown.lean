import Tourney.Text.Hidden

/-!
# Characters in messages

A message shows a single character between apostrophes: a common control character by its short
escape, another character without a glyph by its number, and every other character as it is.
-/

namespace Tourney.Text

/-- The number of a code point in lower-case hexadecimal digits. -/
def hexadecimal (n : Nat) : String :=
  String.ofList (Nat.toDigits 16 n)

/-- A character as it stands between the apostrophes. -/
def shownBody (c : Char) : String :=
  match c with
  | '\x00' => "\\0"
  | '\t' => "\\t"
  | '\r' => "\\r"
  | '\n' => "\\n"
  | '\'' => "\\'"
  | '\\' => "\\\\"
  | c => if isHidden c then "\\u\x7b" ++ hexadecimal c.toNat ++ "\x7d" else c.toString

/-- A character as a message shows it. -/
def shown (c : Char) : String :=
  "'" ++ shownBody c ++ "'"

end Tourney.Text
