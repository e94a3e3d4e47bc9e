import Mathlib.Data.List.Induction
import Tourney.Match.Call
import Tourney.Proofs.Match.Sides

/-!
# What a match has recorded

The scores and the state of a match are two fields that three kinds of calls change. They stay in
step: a match is complete if the last of these calls that succeeded has recorded a complete score,
and then its state is the evaluation of its scores; else it is pending with what has been recorded
last since it was cleared (`MatchCall.recorded_of_run`).
-/

namespace Tourney

theorem Match.scored_eq_ok {α : Type} {m : Match} {x : Except ScoreFault α} {a : α} :
    m.scored x = .ok a ↔ x = .ok a := by
  cases x <;> simp [scored, Except.mapError]

namespace MatchCall

variable {call : MatchCall} {calls done : List MatchCall} {m m' : Match}

/-! ## One call -/

/-- The match that a call leads to, if it succeeds. -/
def attempt : MatchCall → Match → Except Error Match
  | record scoring scores, m => m.record scoring scores
  | recordPartial scoring scores, m => m.recordPartial scoring scores
  | clear, m => .ok m.clear
  | setFriendly friendly, m => .ok { m with friendly := friendly }
  | setManager manager, m => .ok { m with manager := manager }
  | setOfficials officials, m => .ok { m with officials := officials }

/-- A call that fails leaves the match as it was. -/
theorem perform_eq (call : MatchCall) (m : Match) :
    call.perform m =
      match call.attempt m with
      | .ok m' => (.ok (), m')
      | .error e => (.error e, m) := by
  cases call with
  | record scoring scores =>
      simp only [attempt, Match.record, perform, act, Match.scored]
      cases scoring.evaluate scores <;> rfl
  | recordPartial scoring scores =>
      simp only [attempt, Match.recordPartial, perform, act, Match.scored]
      cases scoring.checkPartial scores <;> rfl
  | clear | setFriendly friendly | setManager manager | setOfficials officials => rfl

theorem perform_of_failed {e : Error} (failed : (call.perform m).1 = .error e) :
    (call.perform m).2 = m := by
  rw [perform_eq] at failed ⊢
  cases attempted : call.attempt m with
  | ok m' => simp [attempted] at failed
  | error e => rfl

/-! ## A run of calls -/

/-- The calls that succeed, in their order. -/
def successes : List MatchCall → Match → List MatchCall
  | [], _ => []
  | call :: rest, m =>
      let (result, m') := call.perform m
      if result.isOk then call :: successes rest m' else successes rest m'

theorem run_concat (calls : List MatchCall) (call : MatchCall) (m : Match) :
    run (calls ++ [call]) m = (call.perform (run calls m)).2 :=
  List.foldl_concat ..

theorem successes_concat (calls : List MatchCall) (call : MatchCall) (m : Match) :
    successes (calls ++ [call]) m =
      successes calls m ++ if (call.perform (run calls m)).1.isOk then [call] else [] := by
  induction calls generalizing m with
  | nil => rfl
  | cons first rest ih =>
      have later := ih (first.perform m).2
      simp only [List.cons_append, successes, later]
      split <;> rfl

/-- Whether a call is about the score. -/
def isScoring : MatchCall → Bool
  | record _ _ | recordPartial _ _ | clear => true
  | setFriendly _ | setManager _ | setOfficials _ => false

/-- The last call about the score. -/
def lastScoring? (done : List MatchCall) : Option MatchCall :=
  done.reverse.find? isScoring

def partial? : MatchCall → Option (Scoring × List SetScore)
  | recordPartial scoring scores => some (scoring, scores)
  | _ => none

/-- The last score of a match in progress since the match was cleared, with its rules. -/
def lastPartial? (done : List MatchCall) : Option (Scoring × List SetScore) :=
  (done.reverse.takeWhile (· ≠ clear)).findSome? partial?

theorem lastScoring?_concat (done : List MatchCall) (call : MatchCall) :
    lastScoring? (done ++ [call]) = if call.isScoring then some call else lastScoring? done := by
  rw [lastScoring?, List.reverse_concat, List.find?_cons]
  split <;> simp_all [lastScoring?]

theorem lastPartial?_concat (done : List MatchCall) (call : MatchCall) :
    lastPartial? (done ++ [call]) =
      if call = clear then none else call.partial?.or (lastPartial? done) := by
  rw [lastPartial?, List.reverse_concat, List.takeWhile_cons]
  by_cases cleared : call = clear
  · simp [cleared]
  · cases found : call.partial? <;> simp [cleared, found, lastPartial?]

/-- What a match has recorded after the calls that have succeeded. -/
structure Recorded (done : List MatchCall) (m : Match) : Prop where
  complete : ∀ e, m.state = .complete e ↔
    ∃ scoring, lastScoring? done = some (.record scoring m.scores) ∧
      scoring.evaluate m.scores = .ok e
  pending : m.state = .pending →
    match lastPartial? done with
    | some (scoring, scores) => m.scores = scores ∧ scoring.checkPartial scores = .ok ()
    | none => m.scores = []

theorem recorded_new (id : Ident) (home away : TeamSlot) : Recorded [] (.new id home away) where
  complete e := by simp [Match.new, lastScoring?]
  pending _ := rfl

theorem Recorded.attempt (recorded : Recorded done m) (attempted : call.attempt m = .ok m') :
    Recorded (done ++ [call]) m' := by
  cases call with
  | record scoring scores =>
      obtain ⟨e, evaluated, heq⟩ := bind_eq_ok.mp attempted
      rw [Match.scored_eq_ok] at evaluated
      cases heq
      refine ⟨fun e' => ?_, nofun⟩
      simp [lastScoring?_concat, isScoring, evaluated, eq_comm]
  | recordPartial scoring scores =>
      obtain ⟨⟨⟩, checked, heq⟩ := bind_eq_ok.mp attempted
      rw [Match.scored_eq_ok] at checked
      cases heq
      refine ⟨fun e => ?_, fun _ => ?_⟩
      · simp [lastScoring?_concat, isScoring]
      · simp [lastPartial?_concat, partial?, checked]
  | clear =>
      cases attempted
      refine ⟨fun e => ?_, fun _ => ?_⟩
      · simp [lastScoring?_concat, isScoring, Match.clear]
      · simp [lastPartial?_concat, Match.clear]
  | setFriendly friendly | setManager manager | setOfficials officials =>
      cases attempted
      refine ⟨fun e => ?_, fun pending => ?_⟩
      · simpa [lastScoring?_concat, isScoring] using recorded.complete e
      · simpa [lastPartial?_concat, partial?] using recorded.pending pending

theorem Recorded.run (recorded : Recorded [] m) (calls : List MatchCall) :
    Recorded (successes calls m) (MatchCall.run calls m) := by
  induction calls using List.reverseRecOn with
  | nil => exact recorded
  | append_singleton calls call ih =>
      rw [run_concat, successes_concat, perform_eq]
      cases attempted : call.attempt (MatchCall.run calls m) with
      | ok m' => exact ih.attempt attempted
      | error e => simpa [Except.isOk, Except.toBool] using ih

/-- However a match is called, it is complete if and only if the last call about its score that
succeeded has recorded a complete score, and its state is then the evaluation of its scores under
the rules of that call. Else it has the last score in progress that was accepted since it was
cleared, or none. A call that fails leaves it as it was. It has a winning and a losing side, which
are opposite, if and only if it is complete and not drawn. -/
theorem recorded_of_run (id : Ident) (home away : TeamSlot) (calls : List MatchCall) :
    let done := successes calls (.new id home away)
    let m := run calls (.new id home away)
    (∀ e, m.state = .complete e ↔
      ∃ scoring, lastScoring? done = some (.record scoring m.scores) ∧
        scoring.evaluate m.scores = .ok e) ∧
    (m.state = .pending →
      match lastPartial? done with
      | some (scoring, scores) => m.scores = scores ∧ scoring.checkPartial scores = .ok ()
      | none => m.scores = []) ∧
    (∀ (call : MatchCall) (e : Error), (call.perform m).1 = .error e → (call.perform m).2 = m) ∧
    ((∃ side, m.winnerSide = .ok side) ↔ ∃ e, m.state = .complete e ∧ e.outcome ≠ .draw) ∧
    ((∃ side, m.loserSide = .ok side) ↔ ∃ e, m.state = .complete e ∧ e.outcome ≠ .draw) ∧
    ∀ winner loser, m.winnerSide = .ok winner → m.loserSide = .ok loser →
      loser = winner.opposite := by
  intro done m
  have recorded : Recorded done m := (recorded_new id home away).run calls
  refine ⟨recorded.complete, recorded.pending, fun call e failed => perform_of_failed failed, ?_⟩
  exact ⟨Match.exists_winnerSide, Match.exists_loserSide, fun _ _ => Match.eq_opposite_of_sides⟩

end MatchCall

namespace ReopenedMatch

def name : Ident := ⟨"REPLAY", by decide, by decide, List.all_eq_true.mp rfl⟩

def fresh : Match := .new name (.literal name) (.literal name)

/-- A complete score is recorded and another one refused. -/
def played : List MatchCall :=
  [.record ⟨.standard, .sets, false⟩ [⟨25, 20⟩, ⟨25, 20⟩, ⟨25, 20⟩],
    .record ⟨.standard, .sets, false⟩ [], .setFriendly true]

/-- A score in progress is recorded under other rules. -/
def reopened : List MatchCall :=
  played ++ [.recordPartial ⟨.standard, .continuous, true⟩ [⟨3, 2⟩]]

theorem reopened_recorded :
    (MatchCall.run played fresh).state = .complete ⟨.wonBy .home, ⟨3, 0⟩⟩ ∧
      (∃ scoring, MatchCall.lastScoring? (MatchCall.successes played fresh) =
          some (.record scoring (MatchCall.run played fresh).scores) ∧
        scoring.evaluate (MatchCall.run played fresh).scores = .ok ⟨.wonBy .home, ⟨3, 0⟩⟩) ∧
      (MatchCall.run reopened fresh).state = .pending ∧
      (MatchCall.run reopened fresh).scores = [⟨3, 2⟩] ∧
      Scoring.checkPartial ⟨.standard, .continuous, true⟩ [⟨3, 2⟩] = .ok () := by
  obtain ⟨complete, -⟩ := MatchCall.recorded_of_run name (.literal name) (.literal name) played
  obtain ⟨-, pending, -⟩ := MatchCall.recorded_of_run name (.literal name) (.literal name) reopened
  have won : (MatchCall.run played fresh).state = .complete ⟨.wonBy .home, ⟨3, 0⟩⟩ := rfl
  have waits : (MatchCall.run reopened fresh).state = .pending := rfl
  exact ⟨won, (complete _).mp won, waits, pending waits⟩

end ReopenedMatch

end Tourney
