import Tourney.Proofs.League.Order
import Tourney.Proofs.League.Totals

/-!
# Tables do not depend on the presentation of results

A table reads its results in two ways only: it adds up what they bring to each team, and it counts
the wins among some of the teams. Neither sees the order of the results, nor which of two teams is
written first (`table_of_presentation`).
-/

namespace Tourney

/-- The same result with the away team written first. -/
def LeagueResult.turned (r : LeagueResult) : LeagueResult where
  home := r.away
  away := r.home
  evaluation := r.evaluation.swap
  scores := r.scores.map SetScore.swap

variable {teams : List Ident} {results turned results' : List LeagueResult} {form : MatchForm}
  {award : PointsAward} {config : LeagueConfig} {r : LeagueResult}

/-! ## Results that are turned round -/

namespace LeagueResult

theorem points_turned (r : LeagueResult) (side : Side) :
    r.turned.points side = r.points side.opposite := by
  simp only [points, turned, List.foldr_map]
  cases side <;> rfl

theorem byOne_turned (r : LeagueResult) (form : MatchForm) : r.turned.byOne form = r.byOne form := by
  simp [byOne, turned, Evaluation.swap, Bool.or_comm]

theorem award_turned (r : LeagueResult) (form : MatchForm) (award : PointsAward) (side : Side) :
    r.turned.award form award side = r.award form award side.opposite := by
  unfold LeagueResult.award
  rw [byOne_turned]
  cases outcome : r.evaluation.outcome with
  | draw => simp [turned, Evaluation.swap, Outcome.swap, outcome]
  | wonBy winner =>
      simp [turned, Evaluation.swap, Outcome.swap, outcome, Side.opposite_eq_comm]

theorem line_turned (r : LeagueResult) (form : MatchForm) (award : PointsAward) (side : Side) :
    r.turned.line form award side = r.line form award side.opposite := by
  have sets (side : Side) : r.turned.evaluation.sets.of side = r.evaluation.sets.of side.opposite := by
    cases side <;> rfl
  have won (side : Side) :
      r.turned.evaluation.outcome = .wonBy side ↔ r.evaluation.outcome = .wonBy side.opposite := by
    cases outcome : r.evaluation.outcome <;>
      simp [turned, Evaluation.swap, Outcome.swap, outcome, Side.opposite_eq_comm]
  have drawn : r.turned.evaluation.outcome = .draw ↔ r.evaluation.outcome = .draw := by
    cases outcome : r.evaluation.outcome <;> simp [turned, Evaluation.swap, Outcome.swap, outcome]
  simp only [line, won, drawn, sets, points_turned, award_turned]

/-- A result brings the same to a team when it is turned round. -/
theorem lines_turned_perm (r : LeagueResult) (form : MatchForm) (award : PointsAward)
    (team : Ident) : (r.turned.lines form award team).Perm (r.lines form award team) := by
  unfold lines
  rw [line_turned, line_turned]
  exact List.perm_append_comm

theorem isAmong_turned (r : LeagueResult) (teams : List Ident) :
    r.turned.isAmong teams = r.isAmong teams :=
  Bool.and_comm _ _

theorem winner?_turned (r : LeagueResult) : r.turned.winner? = r.winner? := by
  unfold winner?
  cases outcome : r.evaluation.outcome with
  | draw => simp [turned, Evaluation.swap, Outcome.swap, Outcome.winner?, outcome]
  | wonBy winner =>
      simp only [turned, Evaluation.swap, Outcome.swap, Outcome.winner?, outcome, Option.map_some]
      cases winner <;> rfl

/-- Two results bring the same to every team and have the same winner. -/
structure Alike (form : MatchForm) (award : PointsAward) (r r' : LeagueResult) : Prop where
  among : ∀ teams, r.isAmong teams = r'.isAmong teams
  winner : r.winner? = r'.winner?
  lines : ∀ team, (r.lines form award team).Perm (r'.lines form award team)

theorem alike_of_turned {r' : LeagueResult} (h : r' = r ∨ r' = r.turned) : Alike form award r r' := by
  rcases h with rfl | rfl
  · exact ⟨fun _ => rfl, rfl, fun _ => .rfl⟩
  · exact ⟨fun teams => (r.isAmong_turned teams).symm, r.winner?_turned.symm,
      fun team => (r.lines_turned_perm form award team).symm⟩

end LeagueResult

/-! ## What a table reads -/

/-- Two lists of results bring the same to every team, and every team has the same wins in them
among any teams. -/
structure SameReads (form : MatchForm) (award : PointsAward) (results results' : List LeagueResult) :
    Prop where
  lines : ∀ teams team,
    ((results.filter (·.isAmong teams)).flatMap (·.lines form award team)).Perm
      ((results'.filter (·.isAmong teams)).flatMap (·.lines form award team))
  wins : ∀ teams team, Table.winsAmong results teams team = Table.winsAmong results' teams team

namespace SameReads

theorem tally (h : SameReads form award results results') (teams : List Ident) :
    tally teams results form award = Tourney.tally teams results' form award := by
  have records : (fun team => Record.sum
        ((results.filter (·.isAmong teams)).flatMap (·.lines form award team))) =
      fun team => Record.sum
        ((results'.filter (·.isAmong teams)).flatMap (·.lines form award team)) :=
    funext fun team => Record.sum_perm (h.lines teams team)
  simp only [Tourney.tally, records]

theorem headToHead (h : SameReads form award results results') (teams : List Ident)
    (block : List Row) :
    Table.headToHead results teams block = Table.headToHead results' teams block := by
  induction block with
  | nil => rfl
  | cons row rest ih => simp only [Table.headToHead, h.wins, ih]

theorem rank (h : SameReads form award results results') (keys : List RankKey) (block : List Row) :
    Table.rank results keys block = Table.rank results' keys block := by
  induction keys generalizing block with
  | nil => rfl
  | cons key keys ih =>
      have valued : Table.valued results key block = Table.valued results' key block := by
        cases key <;> simp only [Table.valued, h.headToHead]
      rw [Table.rank, Table.rank, valued, funext ih]

theorem table (h : SameReads form config.points results results') (teams : List Ident) :
    table teams results form config = Tourney.table teams results' form config := by
  rw [Tourney.table, Tourney.table, h.tally, h.rank]

theorem trans {results'' : List LeagueResult} (h : SameReads form award results results')
    (h' : SameReads form award results' results'') : SameReads form award results results'' :=
  ⟨fun teams team => (h.lines teams team).trans (h'.lines teams team),
    fun teams team => (h.wins teams team).trans (h'.wins teams team)⟩

end SameReads

theorem sameReads_of_perm (order : results.Perm results') : SameReads form award results results' :=
  ⟨fun _ _ => (order.filter _).flatMap_right _, fun _ _ => (order.filter _).length_eq⟩

theorem sameReads_of_alike
    (alike : List.Forall₂ (LeagueResult.Alike form award) results results') :
    SameReads form award results results' := by
  induction alike with
  | nil => exact ⟨fun _ _ => .rfl, fun _ _ => rfl⟩
  | @cons r r' results results' first _ ih =>
      constructor
      · intro teams team
        rw [List.filter_cons, List.filter_cons, first.among]
        cases r'.isAmong teams with
        | false => exact ih.lines teams team
        | true => exact (first.lines team).append (ih.lines teams team)
      · intro teams team
        have rest := ih.wins teams team
        unfold Table.winsAmong at rest ⊢
        rw [List.filter_cons, List.filter_cons, first.among, first.winner]
        split
        · rw [List.length_cons, List.length_cons, rest]
        · exact rest

/-- A table stays the same when its results are listed in another order and any of them are turned
round. -/
theorem table_of_presentation (teams : List Ident) (form : MatchForm) (config : LeagueConfig)
    (same : List.Forall₂ (fun r r' => r' = r ∨ r' = r.turned) results turned)
    (order : turned.Perm results') :
    table teams results form config = table teams results' form config := by
  have alike : List.Forall₂ (LeagueResult.Alike form config.points) results turned :=
    same.imp fun _ _ => LeagueResult.alike_of_turned
  exact ((sameReads_of_alike alike).trans (sameReads_of_perm order)).table teams

namespace Derby

/-- The hosts win the return match, which is written from the side of the guests. -/
def revenge : LeagueResult where
  home := guest
  away := host
  evaluation := ⟨.wonBy .away, ⟨1, 2⟩⟩
  scores := [⟨25, 20⟩, ⟨20, 25⟩, ⟨10, 15⟩]

theorem table_of_return_match :
    List.Forall₂ (fun r r' => r' = r ∨ r' = r.turned) [upset, revenge] [upset, revenge.turned] ∧
      [upset, revenge.turned].Perm [revenge.turned, upset] ∧
      table [host, guest] [upset, revenge] .sets .standard =
        table [host, guest] [revenge.turned, upset] .sets .standard := by
  have same : List.Forall₂ (fun r r' => r' = r ∨ r' = r.turned) [upset, revenge]
      [upset, revenge.turned] := .cons (.inl rfl) (.cons (.inr rfl) .nil)
  have order : [upset, revenge.turned].Perm [revenge.turned, upset] := .swap _ _ _
  exact ⟨same, order, table_of_presentation [host, guest] .sets .standard same order⟩

end Derby

end Tourney
