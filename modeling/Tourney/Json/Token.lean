import Tourney.Json.Value

/-!
# JSON tokens

A text is read character by character into tokens. Between tokens only spaces, tabs and line ends
may stand. Words are `null`, `true`, `false` and numbers in strict JSON notation. Strings hold no
control characters, and an escaped surrogate has to be followed by its other half to be a text.
-/

namespace Tourney

inductive JsonToken
  | openObject
  | closeObject
  | openArray
  | closeArray
  | comma
  | colon
  | null
  | bool (b : Bool)
  | number (n : JsonNumber)
  | string (s : Option String)

/-! ## Numbers -/

namespace JsonNumber

/-- The digits in front of a text, and what follows them. -/
def splitDigits (cs : List Char) : List Char × List Char :=
  cs.span Char.isDigit

/-- The value of an exponent after its letter: digits with an optional sign. -/
def exponent? (cs : List Char) : Option Int :=
  let (negative, digits) := match cs with
    | '-' :: rest => (true, rest)
    | '+' :: rest => (false, rest)
    | rest => (false, rest)
  if digits ≠ [] ∧ digits.all Char.isDigit then
    let n : Int := Nat.ofDigitChars 10 digits 0
    some (if negative then -n else n)
  else none

/-- The exponent at the end of a number, zero if there is none. -/
def trailingExponent? : List Char → Option Int
  | [] => some 0
  | c :: rest => if c = 'e' ∨ c = 'E' then exponent? rest else none

/-- Whether digits are a whole part: no zero stands in front of others. -/
def isWholePart : List Char → Bool
  | [] => false
  | '0' :: rest => rest.isEmpty
  | _ => true

/-- The number without a sign that a list of characters is. -/
def unsigned? (negative : Bool) (cs : List Char) : Option JsonNumber :=
  let (lead, rest) := splitDigits cs
  let value := Nat.ofDigitChars 10 lead 0
  if !isWholePart lead then none
  else match rest with
    | [] =>
        if negative then some (if value = 0 then .decimal 0 0 else .whole (-(value : Int)))
        else some (.whole value)
    | '.' :: rest =>
        let (fraction, rest) := splitDigits rest
        if fraction.isEmpty then none
        else (trailingExponent? rest).map fun e =>
          .decimal (Nat.ofDigitChars 10 fraction value) (e - fraction.length)
    | rest => (trailingExponent? rest).map fun e => .decimal value e

/-- The number that a list of characters is. -/
def ofChars? : List Char → Option JsonNumber
  | '-' :: rest => unsigned? true rest
  | cs => unsigned? false cs

end JsonNumber

namespace JsonToken

/-- The token that a word is. -/
def ofWord? (cs : List Char) : Option JsonToken :=
  if cs = "null".toList then some .null
  else if cs = "true".toList then some (.bool true)
  else if cs = "false".toList then some (.bool false)
  else (JsonNumber.ofChars? cs).map .number

/-- Whether a character may stand in a word. -/
def isWordChar (c : Char) : Bool :=
  c.isAlphanum || c == '-' || c == '+' || c == '.'

/-! ## Strings -/

/-- A string of which a part has been read. -/
structure PartialText where
  /-- The characters read so far, the last first. -/
  chars : List Char
  /-- A first half of a surrogate pair, directly before this point. -/
  high : Option Nat
  /-- Whether all halves before that have their other half. -/
  paired : Bool

namespace PartialText

def empty : PartialText := ⟨[], none, true⟩

def push (t : PartialText) (c : Char) : PartialText :=
  ⟨c :: t.chars, none, t.paired && t.high.isNone⟩

/-- Adds a 16-bit unit, which may be half of a surrogate pair. -/
def pushUnit (t : PartialText) (unit : Nat) : PartialText :=
  if 0xd800 ≤ unit ∧ unit < 0xdc00 then ⟨t.chars, some unit, t.paired && t.high.isNone⟩
  else if 0xdc00 ≤ unit ∧ unit < 0xe000 then
    match t.high with
    | some high =>
        let c := Char.ofNat (0x10000 + (high - 0xd800) * 0x400 + (unit - 0xdc00))
        ⟨c :: t.chars, none, t.paired⟩
    | none => ⟨t.chars, none, false⟩
  else t.push (Char.ofNat unit)

/-- The text, if all surrogates are paired. -/
def text? (t : PartialText) : Option String :=
  if t.paired && t.high.isNone then some (String.ofList t.chars.reverse) else none

end PartialText

/-- The character that a short escape stands for. -/
def escaped? : Char → Option Char
  | '\"' => some '\"'
  | '\\' => some '\\'
  | '/' => some '/'
  | 'b' => some '\x08'
  | 'f' => some '\x0c'
  | 'n' => some '\n'
  | 'r' => some '\r'
  | 't' => some '\t'
  | _ => none

/-- The value of a hexadecimal digit. -/
def hexDigit? (c : Char) : Option Nat :=
  if c.isDigit then some (c.toNat - '0'.toNat)
  else if 'a' ≤ c ∧ c ≤ 'f' then some (c.toNat - 'a'.toNat + 10)
  else if 'A' ≤ c ∧ c ≤ 'F' then some (c.toNat - 'A'.toNat + 10)
  else none

/-! ## Scanning -/

/-- Where in a token a text has been read to. -/
inductive Reading
  | between
  /-- In a word, of which the characters are given, the last first. -/
  | word (chars : List Char)
  | text (t : PartialText)
  /-- In a string, after a backslash. -/
  | escape (t : PartialText)
  /-- In a string, with so many hexadecimal digits of a unit still to come. -/
  | unit (t : PartialText) (missing value : Nat)

/-- The tokens read so far, the last first, and where the text has been read to. -/
structure Scan where
  tokens : List JsonToken
  reading : Reading

namespace Scan

/-- Adds a token, and reads on after it. -/
def emit (s : Scan) (t : JsonToken) : Scan :=
  ⟨t :: s.tokens, .between⟩

/-- Reads a character between two tokens. -/
def start? (s : Scan) (c : Char) : Option Scan :=
  match c with
  | ' ' | '\t' | '\n' | '\r' => some { s with reading := .between }
  | '{' => some (s.emit .openObject)
  | '}' => some (s.emit .closeObject)
  | '[' => some (s.emit .openArray)
  | ']' => some (s.emit .closeArray)
  | ',' => some (s.emit .comma)
  | ':' => some (s.emit .colon)
  | '\"' => some { s with reading := .text .empty }
  | c => if isWordChar c then some { s with reading := .word [c] } else none

def endWord? (s : Scan) (chars : List Char) : Option Scan :=
  (ofWord? chars.reverse).map s.emit

def step? (s : Scan) (c : Char) : Option Scan :=
  match s.reading with
  | .between => s.start? c
  | .word chars =>
      if isWordChar c then some { s with reading := .word (c :: chars) }
      else (s.endWord? chars).bind (·.start? c)
  | .text t =>
      if c = '\"' then some (s.emit (.string t.text?))
      else if c = '\\' then some { s with reading := .escape t }
      else if c.toNat < 0x20 then none
      else some { s with reading := .text (t.push c) }
  | .escape t =>
      if c = 'u' then some { s with reading := .unit t 4 0 }
      else (escaped? c).map fun e => { s with reading := .text (t.push e) }
  | .unit t missing value =>
      (hexDigit? c).map fun d =>
        let value := value * 16 + d
        if missing = 1 then { s with reading := .text (t.pushUnit value) }
        else { s with reading := .unit t (missing - 1) value }

def finish? (s : Scan) : Option (List JsonToken) :=
  match s.reading with
  | .between => some s.tokens.reverse
  | .word chars => (s.endWord? chars).map (·.tokens.reverse)
  | _ => none

end Scan

/-- The tokens of a text. -/
def scan? (cs : List Char) : Option (List JsonToken) := do
  (← cs.foldlM Scan.step? ⟨[], .between⟩).finish?

end JsonToken

end Tourney
