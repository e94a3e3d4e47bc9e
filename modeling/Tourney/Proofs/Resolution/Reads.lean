import Tourney.Proofs.Competition.Alike
import Tourney.Proofs.Traversal
import Tourney.Resolution.Teams

/-!
# What an answer is read from

A group answers for the outcome of a match from that match alone, and for a rank or position from
all of its matches once they are complete. `Group.Reads` has the slots that it may look up on the
way, and `Group.Queries` those that it does look up for a source. Whatever holds of a reference when
it holds of the references in these slots, holds of every reference (`Competition.follow_induct`).
-/

namespace Tourney

theorem Match.slot_mem_slots (m : Match) (side : Side) : m.slot side ∈ m.slots := by
  cases side <;> simp [slot, slots]

namespace Group

variable {g g' : Group} {r : Reference} {id : Ident} {m : Match} {s : TeamSlot} {source : Source}
  {side : Match → Except Error Side}

/-- The slots that a target may have looked up: those of the match that it names, or else all. -/
inductive Reads (g : Group) (t : Target) : TeamSlot → Prop
  | outcome {id : Ident} {m : Match} {s : TeamSlot} :
      t.fixture? = some id → g.findMatch? id = some m → s ∈ m.slots → Reads g t s
  | whole {s : TeamSlot} : t.fixture? = none → s ∈ g.slots → Reads g t s

theorem mem_slots_of_mem_games (hm : m ∈ g.games) (hs : s ∈ m.slots) : s ∈ g.slots :=
  List.mem_append_left _ (List.mem_flatMap.mpr ⟨m, hm, hs⟩)

theorem Reads.mem_slots (reads : g.Reads r.target s) : s ∈ g.slots := by
  cases reads with
  | outcome _ found hs => exact mem_slots_of_mem_games (mem_games_of_findMatch? found) hs
  | whole _ hs => exact hs

/-! ## Sources -/

theorem decidedSlot_eq_ok :
    decidedSlot m side = .ok source ↔ ∃ d, side m = .ok d ∧ .slot (m.slot d) = source := by
  unfold decidedSlot
  rw [bind_eq_ok]
  simp [pure, Except.pure]

theorem decidedSlot_ne_row {config : LeagueConfig} {n : Nat} :
    decidedSlot m side ≠ .ok (.row config n) := by
  intro h
  obtain ⟨d, -, heq⟩ := decidedSlot_eq_ok.mp h
  cases heq

theorem matchSource_eq_ok :
    g.matchSource r id side = .ok source ↔
      ∃ m, g.findMatch? id = some m ∧ m.isComplete = true ∧ decidedSlot m side = .ok source := by
  unfold matchSource matchSourceVia
  rw [bind_eq_ok]
  simp only [getMatch_eq_ok]
  refine exists_congr fun m => and_congr_right fun _ => ?_
  split <;> simp_all [throw, throwThe, MonadExceptOf.throw]

theorem leagueSource_eq_ok {config : LeagueConfig} {n : Nat} :
    g.leagueSource r config n = .ok source ↔ g.isComplete = true ∧ .row config n = source := by
  unfold leagueSource
  split <;> simp_all

theorem crossoverSource_eq_ok {n : Nat} :
    g.crossoverSource r n = .ok source ↔
      ∃ m, g.games[(n - 1) / 2]? = some m ∧ g.isComplete = true ∧
        decidedSlot m (if n % 2 = 1 then Match.winnerSide else Match.loserSide) = .ok source := by
  unfold crossoverSource
  split
  · next none => simp [none]
  · next m found => split <;> simp_all

theorem knockoutSource_eq_ok {standing : List TeamSlot} {n : Nat} :
    g.knockoutSource r standing n = .ok source ↔
      ∃ s, standing[n - 1]? = some s ∧ g.isComplete = true ∧ .slot s = source := by
  unfold knockoutSource
  split
  · next none => simp [none]
  · next s found => split <;> simp_all

/-- A group answers once the match that is named is complete, or else once it is complete. -/
theorem complete_of_source (h : g.source r = .ok source) :
    (∃ id m, r.target.fixture? = some id ∧ g.findMatch? id = some m ∧ m.isComplete = true) ∨
      r.target.fixture? = none ∧ g.isComplete = true := by
  obtain ⟨stage, group, target⟩ := r
  cases target with
  | winner id | loser id =>
      obtain ⟨m, found, complete, -⟩ := matchSource_eq_ok.mp h
      exact .inl ⟨id, m, rfl, found, complete⟩
  | rank n =>
      refine .inr ⟨rfl, ?_⟩
      simp only [Group.source] at h
      split at h
      · cases h
      · split at h
        · exact (leagueSource_eq_ok.mp h).1
        · cases h
  | position n =>
      refine .inr ⟨rfl, ?_⟩
      simp only [Group.source] at h
      split at h
      · cases h
      · split at h
        · exact (leagueSource_eq_ok.mp h).1
        · obtain ⟨m, -, complete, -⟩ := crossoverSource_eq_ok.mp h
          exact complete
        · obtain ⟨s, -, complete, -⟩ := knockoutSource_eq_ok.mp h
          exact complete

theorem reads_of_source (h : g.source r = .ok (.slot s)) : g.Reads r.target s := by
  cases named : r.target.fixture? with
  | none => exact .whole named (slot_mem_slots_of_source h)
  | some id =>
      obtain ⟨stage, group, target⟩ := r
      cases target with
      | winner id | loser id =>
          obtain ⟨m, found, -, decided⟩ := matchSource_eq_ok.mp h
          obtain ⟨d, -, heq⟩ := decidedSlot_eq_ok.mp decided
          cases heq
          exact .outcome rfl found (m.slot_mem_slots d)
      | rank n | position n => cases named

theorem row_of_source {config : LeagueConfig} {n : Nat} (h : g.source r = .ok (.row config n)) :
    g.kind = .league config ∧ (r.target = .rank n ∨ r.target = .position n) := by
  cases asked : r.target with
  | winner id | loser id =>
      simp only [source, asked] at h
      obtain ⟨m, -, -, decided⟩ := matchSource_eq_ok.mp h
      exact absurd decided decidedSlot_ne_row
  | rank k =>
      simp only [source, asked] at h
      split at h
      · cases h
      · split at h
        · next kind =>
            cases (leagueSource_eq_ok.mp h).2
            exact ⟨kind, .inl rfl⟩
        · cases h
  | position k =>
      simp only [source, asked] at h
      split at h
      · cases h
      · split at h
        · next kind =>
            cases (leagueSource_eq_ok.mp h).2
            exact ⟨kind, .inr rfl⟩
        · obtain ⟨m, -, -, decided⟩ := crossoverSource_eq_ok.mp h
          exact absurd decided decidedSlot_ne_row
        · obtain ⟨s, -, -, heq⟩ := knockoutSource_eq_ok.mp h
          cases heq

theorem unnamed_of_row {config : LeagueConfig} {n : Nat} (h : g.source r = .ok (.row config n)) :
    r.target.fixture? = none := by
  rcases (row_of_source h).2 with asked | asked <;> rw [asked] <;> rfl

theorem reads_of_row {config : LeagueConfig} {n : Nat} (h : g.source r = .ok (.row config n))
    (counted : m ∈ g.leagueMatches) (side : Side) : g.Reads r.target (m.slot side) :=
  .whole (unnamed_of_row h) (slot_mem_slots_of_leagueMatches counted side)

theorem Queries.reads (queries : g.Queries source s) (pointed : g.source r = .ok source) :
    g.Reads r.target s := by
  cases queries with
  | slot s => exact reads_of_source pointed
  | row counted side => exact reads_of_row pointed counted side

/-- A target does not tell two groups apart: they have the same match under the name that it asks
for, or are the same altogether if it names none. -/
def AgreeOn (t : Target) (g g' : Group) : Prop :=
  match t.fixture? with
  | some id => g.id = g'.id ∧ g.findMatch? id = g'.findMatch? id
  | none => g = g'

theorem AgreeOn.refl {t : Target} : AgreeOn t g g := by
  unfold AgreeOn
  split
  · exact ⟨rfl, rfl⟩
  · rfl

theorem AgreeOn.source_eq (agree : AgreeOn r.target g g') : g.source r = g'.source r := by
  obtain ⟨stage, group, target⟩ := r
  cases target with
  | winner id | loser id =>
      obtain ⟨ids, same⟩ := agree
      have get : g.getMatch id = g'.getMatch id := by simp only [getMatch, ids, same]
      simp only [source, matchSource, matchSourceVia, get]
  | rank n | position n =>
      cases agree
      rfl

theorem AgreeOn.eq_of_row {config : LeagueConfig} {n : Nat} (agree : AgreeOn r.target g g')
    (h : g.source r = .ok (.row config n)) : g = g' := by
  simpa only [AgreeOn, unnamed_of_row h] using agree

end Group

/-! ## Following references -/

namespace Competition

variable {c c' : Competition} {g : Group} {r : Reference} {path : List Reference}
  {source : Group.Source} {lookup lookup' : TeamSlot → Except Error Ident}

@[simp] theorem lookupVia_literal (follow : Reference → Except Error Ident) (id : Ident) :
    c.lookupVia follow (.literal id) = c.registered id :=
  ofExcept_eq _

@[simp] theorem lookupVia_reference (follow : Reference → Except Error Ident) (r : Reference) :
    c.lookupVia follow (.reference r) = follow r :=
  rfl

@[simp] theorem resolve_literal (id : Ident) : c.resolve (.literal id) = c.registered id :=
  ofExcept_eq _

theorem registered_eq_error {id : Ident} {e : Error} (h : c.registered id = .error e) :
    e = .notFound .team id.text := by
  unfold registered at h
  split at h
  · cases h
  · cases h
    rfl

theorem Alike.registered {R : Ident → Ident → Match → Match → Prop} (h : c.Alike R c')
    (id : Ident) : c.registered id = c'.registered id := by
  simp only [Competition.registered, h.hasTeam]

theorem fixtureVia_eq_ok {m : Match} {f : Fixture} :
    fixtureVia lookup m = .ok f ↔
      ∃ home, lookup m.home = .ok home ∧ ∃ away, lookup m.away = .ok away ∧
        ⟨m, home, away⟩ = f := by
  unfold fixtureVia
  simp [bind_eq_ok, pure, Except.pure]

theorem fixtureVia_eq_error {m : Match} {e : Error} (h : fixtureVia lookup m = .error e) :
    lookup m.home = .error e ∨ lookup m.away = .error e := by
  unfold fixtureVia at h
  cases home : lookup m.home with
  | error e' =>
      simp only [home, bind, Except.bind, Except.error.injEq] at h
      exact .inl (congrArg _ h)
  | ok t =>
      cases away : lookup m.away with
      | error e' =>
          simp only [home, away, bind, Except.bind, Except.error.injEq] at h
          exact .inr (congrArg _ h)
      | ok t' => simp [home, away, bind, Except.bind, pure, Except.pure] at h

theorem standings_of_fixtures {config : LeagueConfig} {fixtures : List Fixture}
    (kind : g.kind = .league config)
    (teams : g.leagueMatches.mapM (fixtureVia c.resolve) = .ok fixtures) :
    c.standings g = .ok (g.tableOf config fixtures) := by
  have settings : g.leagueConfig = .ok config := by rw [Group.leagueConfig, kind]
  exact bind_eq_ok.mpr ⟨config, settings, bind_eq_ok.mpr ⟨fixtures, teams, rfl⟩⟩

theorem answerVia_row_eq_ok {config : LeagueConfig} {n : Nat} {t : Ident} :
    answerVia g lookup (.row config n) = .ok t ↔
      ∃ fixtures, g.leagueMatches.mapM (fixtureVia lookup) = .ok fixtures ∧
        g.teamInRow (g.tableOf config fixtures) n = .ok t := by
  rw [answerVia, bind_eq_ok]
  simp only [ofExcept_eq]

theorem answerVia_eq_of_agreeOn {g' : Group} (agree : Group.AgreeOn r.target g g')
    (pointed : g.source r = .ok source) : answerVia g lookup source = answerVia g' lookup source := by
  cases source with
  | slot s => rfl
  | row config n => rw [agree.eq_of_row pointed]

theorem answerVia_ok_of_ok {t : Ident}
    (keeps : ∀ s, g.Queries source s → ∀ t, lookup s = .ok t → lookup' s = .ok t)
    (h : answerVia g lookup source = .ok t) : answerVia g lookup' source = .ok t := by
  cases source with
  | slot s => exact keeps s (.slot s) t h
  | row config n =>
      obtain ⟨fixtures, found, row⟩ := answerVia_row_eq_ok.mp h
      refine answerVia_row_eq_ok.mpr ⟨fixtures, mapM_ok_of_ok ?_ found, row⟩
      intro m counted f hf
      obtain ⟨home, hh, away, ha, heq⟩ := fixtureVia_eq_ok.mp hf
      have home' := keeps m.home (.row counted .home) home hh
      have away' := keeps m.away (.row counted .away) away ha
      exact fixtureVia_eq_ok.mpr ⟨home, home', away, away', heq⟩

/-- An answer fails where a lookup fails, or on a row that the table does not have. -/
theorem answerVia_eq_error {e : Error} (h : answerVia g lookup source = .error e) :
    (∃ s, g.Queries source s ∧ lookup s = .error e) ∨
      ∃ config n fixtures, source = .row config n ∧
        g.leagueMatches.mapM (fixtureVia lookup) = .ok fixtures ∧
        (g.tableOf config fixtures).length ≤ n - 1 ∧ e = g.noPosition n := by
  cases source with
  | slot s => exact .inl ⟨s, .slot s, h⟩
  | row config n =>
      cases found : g.leagueMatches.mapM (fixtureVia lookup) with
      | error e' =>
          obtain ⟨m, counted, hm⟩ := mapM_eq_error found
          simp only [answerVia, found, bind, Except.bind, Except.error.injEq] at h
          subst h
          rcases fixtureVia_eq_error hm with home | away
          · exact .inl ⟨m.home, .row counted .home, home⟩
          · exact .inl ⟨m.away, .row counted .away, away⟩
      | ok fixtures =>
          refine .inr ⟨config, n, fixtures, rfl, rfl, ?_⟩
          simp only [answerVia, found, bind, Except.bind, ofExcept_eq, Group.teamInRow] at h
          split at h
          · cases h
          · next none =>
              cases h
              exact ⟨List.getElem?_eq_none_iff.mp none, rfl⟩

/-- Without a reference that fails, an answer only fails because something is not found. -/
theorem answerVia_lookupVia_eq_error {follow : Reference → Except Error Ident} {e : Error}
    (h : answerVia g (c.lookupVia follow) source = .error e) :
    (∃ next, g.Queries source (.reference next) ∧ follow next = .error e) ∨
      ∃ entity text, e = .notFound entity text := by
  rcases answerVia_eq_error h with ⟨s, queries, hs⟩ | ⟨config, n, fixtures, -, -, -, noPosition⟩
  · cases s with
    | literal id =>
        rw [lookupVia_literal] at hs
        exact .inr ⟨_, _, registered_eq_error hs⟩
    | reference next => exact .inl ⟨next, queries, hs⟩
  · exact .inr ⟨_, _, noPosition⟩

theorem follow_eq_ok {t : Ident} :
    c.follow path r = .ok t ↔
      r ∉ path ∧ ∃ g, c.getGroup r.stage r.group = .ok g ∧ ∃ source, g.source r = .ok source ∧
        answerVia g (c.lookupVia (c.follow (path ++ [r]))) source = .ok t := by
  rw [follow_eq]
  split
  · next onPath => simp [onPath]
  · next fresh =>
      have inner (g : Group) (t : Ident) :
          ((g.source r).bind fun source =>
            answerVia g (c.lookupVia (c.follow (path ++ [r]))) source) = .ok t ↔
            ∃ source, g.source r = .ok source ∧
              answerVia g (c.lookupVia (c.follow (path ++ [r]))) source = .ok t := bind_eq_ok
      simp only [← inner, fresh, not_false_eq_true, true_and]
      exact bind_eq_ok

theorem follow_eq_error {e : Error} :
    c.follow path r = .error e ↔
      r ∈ path ∧ cycleError path r = e ∨ r ∉ path ∧ (c.getGroup r.stage r.group = .error e ∨
        ∃ g, c.getGroup r.stage r.group = .ok g ∧ (g.source r = .error e ∨
          ∃ source, g.source r = .ok source ∧
            answerVia g (c.lookupVia (c.follow (path ++ [r]))) source = .error e)) := by
  rw [follow_eq]
  split
  · next onPath => simp [onPath]
  · next fresh =>
      have inner (g : Group) :
          ((g.source r).bind fun source =>
            answerVia g (c.lookupVia (c.follow (path ++ [r]))) source) = .error e ↔
            g.source r = .error e ∨ ∃ source, g.source r = .ok source ∧
              answerVia g (c.lookupVia (c.follow (path ++ [r]))) source = .error e := bind_eq_error
      simp only [← inner, fresh, false_and, false_or, not_false_eq_true, true_and]
      exact bind_eq_error

/-- What holds of a reference if it holds of the references that its group reads, one step further
along the path, holds of every reference. -/
theorem follow_induct {motive : List Reference → Reference → Prop}
    (step : ∀ path r,
      (∀ g next, r ∉ path → c.getGroup r.stage r.group = .ok g →
        g.Reads r.target (.reference next) → motive (path ++ [r]) next) → motive path r)
    (path : List Reference) (r : Reference) : motive path r := by
  refine step path r fun g next fresh found reads => ?_
  exact follow_induct step (path ++ [r]) next
termination_by c.directory.unfollowed path r
decreasing_by
  exact Directory.unfollowed_lt fresh (mem_slots_of_getGroup found reads.mem_slots)

end Competition

end Tourney
