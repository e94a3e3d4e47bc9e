import Tourney.Slot.Basic
import Tourney.Text.Numeral

/-!
# Reading team slots

A text without braces is an identifier. A text with braces has to be a reference: one opening brace
first, one closing brace last, and between them three or four fields separated by colons. The field
`league` before the last one announces a rank, whatever follows. Reading looks nothing up.
-/

namespace Tourney

/-- A position in a reference: a numeral from one up to the largest 64-bit number. -/
def position? (field : List Char) : Option Nat :=
  (Text.numeral? Text.limit64 field).filter (0 < ·)

/-- An identifier in a reference. -/
def identField? (field : List Char) : Option Ident :=
  Ident.parse? (String.ofList field)

/-- The target that the fields after stage and group stand for. -/
def Target.ofFields? : List (List Char) → Option Target
  | [n] => (position? n).map .position
  | [m, last] =>
      if m = "league".toList then (position? last).map .rank
      else if last = "winner".toList then (identField? m).map .winner
      else if last = "loser".toList then (identField? m).map .loser
      else none
  | _ => none

namespace Reference

/-- The reference that a list of fields stands for. -/
def ofFields? : List (List Char) → Option Reference
  | stage :: group :: rest => do
      let target ← Target.ofFields? rest
      let stage ← identField? stage
      let group ← identField? group
      return ⟨stage, group, target⟩
  | _ => none

/-- Whether a character is a brace. -/
def isBrace (c : Char) : Bool :=
  c == '{' || c == '}'

/-- The text between an opening brace in front and a closing brace at the end. -/
def inner? : List Char → Option (List Char)
  | '{' :: rest => if rest.getLast? = some '}' then some rest.dropLast else none
  | _ => none

/-- The reference that a text is. -/
def ofChars? (cs : List Char) : Option Reference := do
  let body ← inner? cs
  if body.any isBrace then none else ofFields? (body.splitOn ':')

/-- The most characters of a malformed reference that its error repeats. -/
def excerptLength : Nat := 30

/-- A text cut to the length that errors repeat. -/
def excerpt (text : String) : String :=
  if text.toList.length ≤ excerptLength then text
  else String.ofList (text.toList.take excerptLength) ++ "..."

end Reference

/-- The slot that a text is. `context` says in an error where the text stands. -/
def TeamSlot.parse (context text : String) : Except Error TeamSlot :=
  if text.toList.any Reference.isBrace then
    match Reference.ofChars? text.toList with
    | some r => .ok (.reference r)
    | none => .error (.malformedReference context (Reference.excerpt text))
  else
    (Ident.parse text).map .literal

/-- The context of a slot that stands on its own. -/
def TeamSlot.ownContext : String := "team slot"

end Tourney
