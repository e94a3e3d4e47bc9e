import Tourney.Error

/-!
# Identifiers

Every team, club, player, contact, stage, group and match is named by an identifier: 1 to 100
printable ASCII characters, none of them reserved for references. An `Ident` holds the proof of
this, and `Ident.parse` is the way to get one from a text.
-/

namespace Tourney

namespace Ident

/-- The most characters that an identifier has. -/
def maxLength : Nat := 100

/-- The printable characters that references and documents reserve. -/
def reserved : List Char := ['\"', ':', '{', '}', '?', '=']

/-- Whether a character may stand in an identifier. -/
def allowed (c : Char) : Bool :=
  0x20 ≤ c.toNat && c.toNat ≤ 0x7e && !reserved.contains c

/-- A text that is an identifier. -/
def WellFormed (text : String) : Prop :=
  text.toList ≠ [] ∧ text.toList.length ≤ maxLength ∧ ∀ c ∈ text.toList, allowed c = true

end Ident

structure Ident where
  text : String
  wellFormed : Ident.WellFormed text
deriving DecidableEq

namespace Ident

/-- The identifier that a text is, or the first rule that the text breaks: it is not empty, it is
not too long, and each of its characters is allowed. -/
def parse (text : String) : Except Error Ident :=
  if empty : text.toList = [] then .error (.invalid .emptyIdent)
  else if long : maxLength < text.toList.length then .error (.invalid (.longIdent text))
  else
    match found : text.toList.find? (fun c => !allowed c) with
    | some c => .error (.invalid (.identCharacter text c))
    | none => .ok ⟨text, empty, Nat.le_of_not_lt long, fun c mem => by
        simpa using List.find?_eq_none.mp found c mem⟩

/-- The identifier that a text is, if it is one. -/
def parse? (text : String) : Option Ident :=
  (parse text).toOption

/-- Whether one identifier comes before another or equals it, character by character. -/
def le (a b : Ident) : Bool :=
  decide (a.text ≤ b.text)

/-- Identifiers in ascending order. -/
def sorted (ids : List Ident) : List Ident :=
  ids.mergeSort le

theorem ext_text {a b : Ident} (h : a.text = b.text) : a = b := by
  cases a; cases b; cases h; rfl

/-- Every identifier is the identifier of its own text. -/
theorem parse_text (id : Ident) : parse id.text = .ok id := by
  obtain ⟨text, nonempty, short, clean⟩ := id
  have none : text.toList.find? (fun c => !allowed c) = none := by
    simpa [List.find?_eq_none] using clean
  simp only [parse, nonempty, ↓reduceDIte, Nat.not_lt.mpr short]
  split
  · next c found => simp [none] at found
  · rfl

theorem text_of_parse {text : String} {id : Ident} (h : parse text = .ok id) : id.text = text := by
  unfold parse at h
  split at h
  · cases h
  · split at h
    · cases h
    · split at h
      · cases h
      · cases h; rfl

end Ident

/-- Puts a value in the place of the first one with its key. -/
def putFirst {α κ : Type} [DecidableEq κ] (key : α → κ) (x : α) : List α → List α
  | [] => []
  | y :: ys => if key y = key x then x :: ys else y :: putFirst key x ys

end Tourney
