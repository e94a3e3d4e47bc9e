import Tourney.Error

/-!
# Calls

A value is changed in place by one call after another. A call succeeds or fails, and either way the
next one finds the value as this one has left it.
-/

namespace Tourney

/-- A computation that changes a value in place. -/
abbrev Changing (σ : Type) := ExceptT Error (StateM σ)

namespace Calls

variable {κ σ : Type}

/-- The value after calls one after another, successful or failing. -/
def run (perform : κ → σ → Except Error Unit × σ) (calls : List κ) (s : σ) : σ :=
  calls.foldl (fun s call => (perform call s).2) s

/-- The calls that succeed, in their order. -/
def successes (perform : κ → σ → Except Error Unit × σ) : List κ → σ → List κ
  | [], _ => []
  | call :: rest, s =>
      let (result, s') := perform call s
      if result.isOk then call :: successes perform rest s' else successes perform rest s'

end Calls

end Tourney
