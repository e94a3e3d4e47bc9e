import Tourney.Json.Token

/-!
# Reading JSON

A text is a JSON value if its tokens are, with nothing left over. Every step of the reader uses up
a token, so as many steps as there are tokens suffice.
-/

namespace Tourney

namespace Json

mutual
/-- Reads a value in at most so many steps, and returns what follows it. -/
def value? : Nat → List JsonToken → Option (Json × List JsonToken)
  | 0, _ => none
  | _ + 1, .null :: rest => some (.null, rest)
  | _ + 1, .bool b :: rest => some (.bool b, rest)
  | _ + 1, .number n :: rest => some (.number n, rest)
  | _ + 1, .string s :: rest => some (.string s, rest)
  | _ + 1, .openArray :: .closeArray :: rest => some (.array [], rest)
  | steps + 1, .openArray :: rest => do
      let (items, rest) ← items? steps rest
      return (.array items, rest)
  | _ + 1, .openObject :: .closeObject :: rest => some (.object [], rest)
  | steps + 1, .openObject :: rest => do
      let (members, rest) ← members? steps rest
      return (.object members, rest)
  | _ + 1, _ => none

/-- Reads the items of an array up to its end. -/
def items? : Nat → List JsonToken → Option (List Json × List JsonToken)
  | 0, _ => none
  | steps + 1, tokens => do
      let (item, rest) ← value? steps tokens
      match rest with
      | .closeArray :: rest => return ([item], rest)
      | .comma :: rest => do
          let (items, rest) ← items? steps rest
          return (item :: items, rest)
      | _ => none

/-- Reads the members of an object up to its end. -/
def members? : Nat → List JsonToken → Option (List (Option String × Json) × List JsonToken)
  | steps + 1, .string name :: .colon :: tokens => do
      let (value, rest) ← value? steps tokens
      match rest with
      | .closeObject :: rest => return ([(name, value)], rest)
      | .comma :: rest => do
          let (members, rest) ← members? steps rest
          return ((name, value) :: members, rest)
      | _ => none
  | _, _ => none
end

/-- The value that a text is. -/
def parse? (text : String) : Option Json := do
  let tokens ← JsonToken.scan? text.toList
  match value? tokens.length tokens with
  | some (value, []) => some value
  | _ => none

end Json

end Tourney
