import Tourney.Proofs.Competition.Validity
import Tourney.Proofs.Resolution.Indexed
import Tourney.Proofs.Resolution.Registered
import Tourney.Proofs.Resolution.Validated

/-!
# Why a slot has no team yet

In a valid competition every slot is resolved to a registered team, or refused because of something
that a reference asks for on the way: a match or group that is not complete, a position that the
group does not have, or the winner or loser of a drawn match (`Group.Refuses`). Other errors do not
occur, and the first kind does not occur once the competition is complete.
-/

namespace Tourney

/-! ## Refusals -/

/-- How many positions a group has: the teams of a league's table, both sides of every match of a
crossover, the final positions of a knockout. -/
def Competition.positionCount (c : Competition) (g : Group) : Except Error Nat :=
  match g.kind with
  | .league _ => (c.standings g).map (·.length)
  | .crossover => .ok (2 * g.games.length)
  | .knockout standing => .ok standing.length

/-- The match whose outcome a group is asked for, by its name or by a position in a crossover. -/
inductive Group.AsksMatch (g : Group) : Target → Match → Prop
  | named {t : Target} {id : Ident} {m : Match} :
      t.fixture? = some id → g.findMatch? id = some m → AsksMatch g t m
  | crossover {n : Nat} {m : Match} :
      g.kind = .crossover → n ≠ 0 → g.games[(n - 1) / 2]? = some m → AsksMatch g (.position n) m

/-- Why a group of a valid competition has no answer to a reference. -/
inductive Group.Refuses (c : Competition) (g : Group) (r : Reference) : Error → Prop
  | undecidedMatch {id : Ident} {m : Match} :
      r.target.fixture? = some id → g.findMatch? id = some m → m.isComplete = false →
        Refuses c g r (.undecided r.text)
  | undecidedGroup :
      r.target.fixture? = none → g.isComplete = false → Refuses c g r (.undecided r.text)
  | noPosition {n : Nat} :
      r.target = .rank n ∨ r.target = .position n →
        (n = 0 ∨ ∃ count, c.positionCount g = .ok count ∧ count < n) →
          Refuses c g r (g.noPosition n)
  | drawn {m : Match} :
      g.AsksMatch r.target m → m.outcome = .ok .draw → Refuses c g r (.invalid (.drawn m.id.text))

/-- A reference of the competition has no answer. -/
def Competition.Refuses (c : Competition) (e : Error) : Prop :=
  ∃ r ∈ c.references, ∃ g, c.getGroup r.stage r.group = .ok g ∧ g.Refuses c r e

theorem Match.drawn_of_decidedSide {m : Match} {side? : Outcome → Option Side} {e : Error}
    (only : ∀ o, side? o = none → o = .draw) (complete : m.isComplete = true)
    (h : m.decidedSide side? = .error e) :
    m.outcome = .ok .draw ∧ e = .invalid (.drawn m.id.text) := by
  obtain ⟨ev, hev⟩ := Option.isSome_iff_exists.mp complete
  have outcome : m.outcome = .ok ev.outcome := by simp [Match.outcome, evaluation, hev, Except.map]
  simp only [decidedSide, outcome, bind, Except.bind] at h
  split at h
  · cases h
  · next none =>
      cases h
      exact ⟨only _ none ▸ outcome, rfl⟩

namespace Group

variable {c : Competition} {g : Group} {r : Reference} {m : Match} {id : Ident} {e : Error}

theorem refuses_of_decidedSlot {side? : Outcome → Option Side} (asked : g.AsksMatch r.target m)
    (only : ∀ o, side? o = none → o = .draw) (complete : m.isComplete = true)
    (h : decidedSlot m (·.decidedSide side?) = .error e) : g.Refuses c r e := by
  cases decided : m.decidedSide side? with
  | error e' =>
      simp only [decidedSlot, decided, bind, Except.bind, Except.error.injEq] at h
      obtain ⟨draw, rfl⟩ := Match.drawn_of_decidedSide only complete (h ▸ decided)
      exact .drawn asked draw
  | ok side => simp [decidedSlot, decided, bind, Except.bind, pure, Except.pure] at h

theorem refuses_of_matchSource {side? : Outcome → Option Side}
    (named : r.target.fixture? = some id) (has : ∃ f ∈ g.games, f.id = id)
    (only : ∀ o, side? o = none → o = .draw)
    (h : g.matchSource r id (·.decidedSide side?) = .error e) : g.Refuses c r e := by
  obtain ⟨m, found⟩ := exists_findMatch?.mpr has
  simp only [matchSource, matchSourceVia, getMatch_eq_ok.mpr found, bind, Except.bind] at h
  split at h
  · next complete => exact refuses_of_decidedSlot (.named named found) only complete h
  · next pending =>
      cases h
      exact .undecidedMatch named found (by simpa using pending)

theorem refuses_of_leagueSource {config : LeagueConfig} {n : Nat}
    (unnamed : r.target.fixture? = none) (h : g.leagueSource r config n = .error e) :
    g.Refuses c r e := by
  unfold leagueSource at h
  split at h
  · cases h
  · next pending =>
      cases h
      exact .undecidedGroup unnamed (by simpa using pending)

theorem refuses_of_crossoverSource {n : Nat} (asked : r.target = .position n) (hn : n ≠ 0)
    (kind : g.kind = .crossover) (h : g.crossoverSource r n = .error e) : g.Refuses c r e := by
  unfold crossoverSource at h
  split at h
  · next none =>
      cases h
      refine .noPosition (.inr asked) (.inr ⟨2 * g.games.length, ?_, ?_⟩)
      · rw [Competition.positionCount, kind]
      · have := List.getElem?_eq_none_iff.mp none
        omega
  · next m found =>
      split at h
      · next complete =>
          have asks : g.AsksMatch r.target m := asked ▸ .crossover kind hn found
          have done : m.isComplete = true :=
            List.all_eq_true.mp complete m (List.mem_of_getElem? found)
          split at h
          · exact refuses_of_decidedSlot asks (by rintro ⟨⟩ <;> simp [Outcome.winner?]) done h
          · exact refuses_of_decidedSlot asks (by rintro ⟨⟩ <;> simp [Outcome.loser?]) done h
      · next pending =>
          cases h
          exact .undecidedGroup (asked ▸ rfl) (by simpa using pending)

theorem refuses_of_knockoutSource {standing : List TeamSlot} {n : Nat}
    (asked : r.target = .position n) (hn : n ≠ 0) (kind : g.kind = .knockout standing)
    (h : g.knockoutSource r standing n = .error e) : g.Refuses c r e := by
  unfold knockoutSource at h
  split at h
  · next none =>
      cases h
      refine .noPosition (.inr asked) (.inr ⟨standing.length, ?_, ?_⟩)
      · rw [Competition.positionCount, kind]
      · have := List.getElem?_eq_none_iff.mp none
        omega
  · split at h
    · cases h
    · next pending =>
        cases h
        exact .undecidedGroup (asked ▸ rfl) (by simpa using pending)

/-- A group that has what it is asked for fails to point anywhere for one of the four reasons. -/
theorem refuses_of_source (answers : g.Answers r.target) (h : g.source r = .error e) :
    g.Refuses c r e := by
  cases asked : r.target with
  | winner id =>
      simp only [source, asked] at h
      rw [asked] at answers
      exact refuses_of_matchSource (asked ▸ rfl) answers
        (by rintro ⟨⟩ <;> simp [Outcome.winner?]) h
  | loser id =>
      simp only [source, asked] at h
      rw [asked] at answers
      exact refuses_of_matchSource (asked ▸ rfl) answers (by rintro ⟨⟩ <;> simp [Outcome.loser?]) h
  | rank n =>
      simp only [source, asked] at h
      split at h
      · next hn =>
          cases h
          exact .noPosition (.inl (hn ▸ asked)) (.inl rfl)
      · split at h
        · exact refuses_of_leagueSource (asked ▸ rfl) h
        · next other =>
            rw [asked] at answers
            cases kind : g.kind <;> simp_all [Answers, GroupKind.type]
  | position n =>
      simp only [source, asked] at h
      split at h
      · next hn =>
          cases h
          exact .noPosition (.inr (hn ▸ asked)) (.inl rfl)
      · next hn =>
          split at h
          · exact refuses_of_leagueSource (asked ▸ rfl) h
          · next kind => exact refuses_of_crossoverSource asked hn kind h
          · next kind => exact refuses_of_knockoutSource asked hn kind h

/-- A group that has not what it is asked for may name the match or the kind that it lacks. -/
theorem refuses_or_lacks_of_source (h : g.source r = .error e) :
    g.Refuses c r e ∨ (∃ id : Ident, e = .unknownMatch g.id.text id.text) ∨
      e = .invalid (.rankOutsideLeague r.text g.id.text) := by
  by_cases answers : g.Answers r.target
  · exact .inl (refuses_of_source answers h)
  · cases asked : r.target with
    | winner id | loser id =>
        rw [asked, Answers, ← exists_findMatch?, ← Option.isSome_iff_exists] at answers
        simp only [source, asked, matchSource, matchSourceVia, getMatch,
          Option.not_isSome_iff_eq_none.mp answers, bind, Except.bind, Except.error.injEq] at h
        exact .inr (.inl ⟨id, h.symm⟩)
    | rank n =>
        simp only [source, asked] at h
        split at h
        · next hn =>
            cases h
            exact .inl (.noPosition (.inl (hn ▸ asked)) (.inl rfl))
        · split at h
          · next kind => simp [asked, Answers, kind, GroupKind.type] at answers
          · cases h
            exact .inr (.inr rfl)
    | position n => simp [asked, Answers] at answers

end Group

/-! ## Resolution in a valid competition -/

namespace Competition

variable {c : Competition} {g : Group} {r : Reference} {s : TeamSlot} {e : Error}

theorem isComplete_of_getGroup {stage group : Ident} (complete : c.isComplete = true)
    (found : c.getGroup stage group = .ok g) : g.isComplete = true := by
  obtain ⟨s, hs, -, hg, -⟩ := exists_stage_of_getGroup found
  have stageComplete := List.all_eq_true.mp complete s hs
  exact List.all_eq_true.mp stageComplete g hg

theorem Refuses.decided (h : c.Refuses e) (complete : c.isComplete = true) (text : String) :
    e ≠ .undecided text := by
  obtain ⟨r, -, g, found, refuses⟩ := h
  have done := isComplete_of_getGroup complete found
  cases refuses with
  | undecidedMatch _ hm pending =>
      have all := List.all_eq_true.mp done _ (Group.mem_games_of_findMatch? hm)
      exact absurd all (by simp [pending])
  | undecidedGroup _ pending => exact absurd done (by simp [pending])
  | noPosition | drawn => exact fun heq => nomatch heq

end Competition

namespace SmallCup

/-- The small cup, but the stage of the pools has got its identifier by access. -/
def renamed : Tree :=
  let other : Tree := .of { cup with
    stages := [{ Stage.new opener with groups := [league] },
      { Stage.new finals with groups := [knockout] }] }
  (other.access opener fun s => (.ok (), { s with id := pools })).2

/-- Validation finds the stage by its own identifier, and the index does not have it. -/
example : renamed.competition = cup ∧ renamed.validate = .ok () ∧
    renamed.resolve (.reference leader) = .error (.unknownStage "L") :=
  ⟨rfl, by cbv, by cbv⟩

end SmallCup

end Tourney
