import Tourney.Call

/-!
# Runs of calls

What every call keeps is kept by a run of calls. Where a call that fails leaves the value as it was,
a run comes to what its successful calls alone come to (`Calls.Performs.replay`).
-/

namespace Tourney.Calls

variable {κ σ : Type} {perform : κ → σ → Except Error Unit × σ} {attempt : κ → σ → Except Error σ}
  {call : κ} {s s' : σ} {e : Error}

theorem run_preserves {P : σ → Prop} (step : ∀ call s, P s → P (perform call s).2)
    (calls : List κ) (start : P s) : P (run perform calls s) := by
  induction calls generalizing s with
  | nil => exact start
  | cons call calls ih => exact ih (step call s start)

/-- A call leads to the value that is attempted, or it fails and leaves the value as it was. -/
def Performs (perform : κ → σ → Except Error Unit × σ) (attempt : κ → σ → Except Error σ) : Prop :=
  ∀ call s, perform call s =
    match attempt call s with
    | .ok s' => (.ok (), s')
    | .error e => (.error e, s)

namespace Performs

theorem eq_ok (h : Performs perform attempt) :
    perform call s = (.ok (), s') ↔ attempt call s = .ok s' := by
  rw [h]
  cases attempt call s <;> simp

theorem fst_eq_error (h : Performs perform attempt) :
    (perform call s).1 = .error e ↔ attempt call s = .error e := by
  rw [h]
  cases attempt call s <;> simp

theorem unchanged (h : Performs perform attempt) (failed : (perform call s).1 = .error e) :
    (perform call s).2 = s := by
  rw [h, h.fst_eq_error.mp failed]

/-- The successful calls of a run succeed again without the others, and come to the same value. -/
theorem replay (h : Performs perform attempt) (calls : List κ) (s : σ) :
    (successes perform calls s).foldlM (fun s call => attempt call s) s =
      .ok (run perform calls s) := by
  induction calls generalizing s with
  | nil => rfl
  | cons call calls ih =>
      rw [successes, run, List.foldl_cons, ← run, h]
      cases attempted : attempt call s with
      | ok s' =>
          have first : attempt call s >>= (successes perform calls s').foldlM
              (fun s call => attempt call s) = .ok (run perform calls s') := by
            rw [attempted]
            exact ih s'
          exact first
      | error e => exact ih s

end Performs

end Tourney.Calls
