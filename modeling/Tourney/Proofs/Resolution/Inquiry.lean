import Tourney.Proofs.Resolution.Cycles
import Tourney.Resolution.Inquiry

/-!
# Inquiries leave no trace

Looked up one after another, the slots of a league yield the same table as if each of its matches had
its teams found once (`Competition.standingsVia_eq`): a slot that has been looked up for the teams has
the same answer when it is looked up for the results. A reference that is put on the path is taken
off whether its group answers or not. So every inquiry leaves its resolver as it was, and none has any
bearing on those after it (`Resolver.ask_traceless`). Inquiries finish (`Resolver.ask_finishes`), and a
cycle that one of them reports is one (`Resolver.isCycle_of_ask`).
-/

namespace Tourney

/-! ## Teams in order of first appearance -/

theorem foldl_enlist (ts seen : List Ident) :
    ts.foldl enlist seen = seen ++ (ts.filter (· ∉ seen)).eraseDups := by
  induction ts generalizing seen with
  | nil => simp
  | cons t ts ih =>
      rw [List.foldl_cons, ih, enlist]
      by_cases known : t ∈ seen
      · rw [if_pos known, List.filter_cons_of_neg (by simpa using known)]
      · rw [if_neg known, List.filter_cons_of_pos (by simpa using known), List.eraseDups_cons,
          List.filter_filter, List.append_assoc, List.singleton_append]
        congr 3
        refine List.filter_congr fun u _ => ?_
        rw [Bool.eq_iff_iff]
        simp [and_comm]

theorem foldl_enlist_nil (ts : List Ident) : ts.foldl enlist [] = ts.eraseDups := by
  have all : ts.filter (· ∉ ([] : List Ident)) = ts := List.filter_eq_self.mpr (by simp)
  rw [foldl_enlist, all, List.nil_append]

namespace Competition

variable {c : Competition} {g : Group} {r : Reference} {path : List Reference}
  {answer : TeamSlot → Except Error Ident}

theorem foldlM_enlist (slots : List TeamSlot) (seen : List Ident) :
    slots.foldlM (fun teams s => do return enlist teams (← answer s)) seen =
      (slots.mapM answer).map (·.foldl enlist seen) := by
  induction slots generalizing seen with
  | nil => rfl
  | cons s slots ih =>
      rw [List.foldlM_cons, List.mapM_cons]
      cases answer s with
      | error e => rfl
      | ok t =>
          refine (ih (enlist seen t)).trans ?_
          cases slots.mapM answer <;> rfl

theorem mapM_sides (games : List Match) :
    (games.flatMap fun m => [m.home, m.away]).mapM answer =
      (games.mapM (fixtureVia answer)).map (·.flatMap Fixture.teams) := by
  induction games with
  | nil => rfl
  | cons m games ih =>
      rw [List.flatMap_cons, List.mapM_append, ih, List.mapM_cons, List.mapM_cons, List.mapM_cons,
        List.mapM_nil, fixtureVia]
      cases answer m.home with
      | error e => rfl
      | ok home =>
          cases answer m.away with
          | error e => rfl
          | ok away => cases games.mapM (fixtureVia answer) <;> rfl

/-- The teams of matches are found in one go through the slots. -/
theorem teamsVia_eq (games : List Match) :
    teamsVia answer (games.flatMap fun m => [m.home, m.away]) =
      (games.mapM (fixtureVia answer)).map Fixture.allTeams := by
  rw [teamsVia, foldlM_enlist, mapM_sides]
  cases games.mapM (fixtureVia answer) with
  | error e => rfl
  | ok fixtures => exact congrArg Except.ok (foldl_enlist_nil _)

/-- Once the teams of matches are known, the results of the complete ones are found. -/
theorem mapM_resultVia {games : List Match} {fixtures : List Fixture}
    (found : games.mapM (fixtureVia answer) = .ok fixtures) :
    (games.filter (·.isComplete)).mapM (resultVia answer) =
      .ok (fixtures.filterMap Fixture.result?) := by
  have each := mapM_eq_ok.mp found
  clear found
  induction each with
  | nil => rfl
  | @cons m f games fixtures first _ ih =>
      obtain ⟨home, hh, away, ha, rfl⟩ := fixtureVia_eq_ok.mp first
      cases played : m.evaluation? with
      | none =>
          have pending : ¬ m.isComplete = true := by simp [Match.isComplete, played]
          have without : (⟨m, home, away⟩ : Fixture).result? = none := by
            simp [Fixture.result?, played]
          rw [List.filter_cons_of_neg pending, List.filterMap_cons_none without, ih]
      | some e =>
          have complete : m.isComplete = true := by simp [Match.isComplete, played]
          have result : (⟨m, home, away⟩ : Fixture).result? = some ⟨home, away, e, m.scores⟩ := by
            simp [Fixture.result?, played]
          have again : resultVia answer m = .ok ⟨home, away, e, m.scores⟩ := by
            simp only [resultVia, hh, ha, Match.evaluation, played]
            rfl
          rw [List.filter_cons_of_pos complete, List.filterMap_cons_some result, List.mapM_cons,
            again, ih]
          rfl

/-- The table is the same as if each match had its teams found once. -/
theorem standingsVia_eq (g : Group) (answer : TeamSlot → Except Error Ident) :
    standingsVia g answer = do
      let config ← g.leagueConfig
      let fixtures ← g.leagueMatches.mapM (fixtureVia answer)
      return g.tableOf config fixtures := by
  rw [standingsVia, ofExcept_eq, teamsVia_eq]
  cases g.leagueConfig with
  | error e => rfl
  | ok config =>
      cases found : g.leagueMatches.mapM (fixtureVia answer) with
      | error e => rfl
      | ok fixtures =>
          have results := mapM_resultVia found
          simp only [bind, Except.bind, Except.map, results]
          rfl

theorem respondVia_eq (g : Group) (answer : TeamSlot → Except Error Ident) (r : Reference) :
    respondVia g answer r = (g.source r).bind (answerVia g answer) := by
  rw [respondVia, ofExcept_eq]
  cases pointed : g.source r with
  | error e => rfl
  | ok source =>
      cases source with
      | slot s => rfl
      | row config n =>
          have settings : g.leagueConfig = .ok config := by
            rw [Group.leagueConfig, (Group.row_of_source pointed).1]
          simp only [bind, Except.bind, standingsVia_eq, settings, answerVia]
          cases g.leagueMatches.mapM (fixtureVia answer) <;> rfl

/-! ## Lookups in turn -/

open Pass

variable {lookup : TeamSlot → Pass Ident} {slots : List TeamSlot} {m : Match}

theorem gives_teamsVia (each : ∀ s ∈ slots, Gives (lookup s) path (answer s)) :
    Gives (teamsVia lookup slots) path (teamsVia answer slots) :=
  gives_foldlM (fun _ s mem => gives_bind (each s mem) fun _ _ => rfl) []

theorem gives_resultVia (each : ∀ side, Gives (lookup (m.slot side)) path (answer (m.slot side))) :
    Gives (resultVia lookup m) path (resultVia answer m) := by
  refine gives_bind (each .home) fun home _ => ?_
  refine gives_bind (each .away) fun away _ => ?_
  rw [ofExcept_eq]
  exact gives_bind (gives_ofExcept _) fun e _ => rfl

theorem gives_standingsVia
    (each : ∀ m ∈ g.leagueMatches, ∀ side, Gives (lookup (m.slot side)) path (answer (m.slot side))) :
    Gives (standingsVia g lookup) path (standingsVia g answer) := by
  rw [standingsVia, standingsVia, ofExcept_eq]
  refine gives_bind (gives_ofExcept _) fun config _ => ?_
  refine gives_bind (gives_teamsVia fun s mem => ?_) fun teams _ => ?_
  · obtain ⟨m, counted, side⟩ := List.mem_flatMap.mp mem
    rcases List.mem_pair.mp side with rfl | rfl
    · exact each m counted .home
    · exact each m counted .away
  · refine gives_bind (gives_mapM fun m mem => gives_resultVia ?_) fun results _ => rfl
    exact each m (List.mem_filter.mp mem).1

theorem gives_respondVia (each : ∀ s, g.Reads r.target s → Gives (lookup s) path (answer s)) :
    Gives (respondVia g lookup r) path (respondVia g answer r) := by
  rw [respondVia, respondVia, ofExcept_eq]
  refine gives_bind (gives_ofExcept _) fun source pointed => ?_
  cases source with
  | slot s => exact each s (Group.reads_of_source pointed)
  | row config n =>
      refine gives_bind (gives_standingsVia fun m counted side => ?_) fun rows _ => ?_
      · exact each _ (Group.reads_of_row pointed counted side)
      · rw [ofExcept_eq]
        exact gives_ofExcept _

/-- What a reference leads to by the rule of following, given what those lead to that its group comes
to. -/
def followFrom (c : Competition) (path : List Reference) (inner : Reference → Except Error Ident)
    (r : Reference) : Except Error Ident :=
  if r ∈ path then .error (cycleError path r)
  else (c.getGroup r.stage r.group).bind fun g => respondVia g (c.lookupVia inner) r

theorem followFrom_follow (c : Competition) (path : List Reference) (r : Reference) :
    c.followFrom path (c.follow (path ++ [r])) r = c.follow path r := by
  rw [follow_eq, followFrom]
  simp only [respondVia_eq]

/-- A reference is put on the path while its group answers, and taken off whatever the answer is. -/
theorem gives_inquireOnce {inner : Reference → Pass Ident} {after : Reference → Except Error Ident}
    (each : ∀ g next, r ∉ path → c.getGroup r.stage r.group = .ok g →
      g.Reads r.target (.reference next) → Gives (inner next) (path ++ [r]) (after next)) :
    Gives (c.inquireOnce inner r) path (c.followFrom path after r) := by
  refine gives_get_bind ?_
  unfold followFrom
  by_cases onPath : r ∈ path
  · simp only [if_pos onPath]
    rfl
  · simp only [if_neg onPath]
    refine gives_bind (gives_ofExcept _) fun g found => gives_within ?_
    refine gives_respondVia fun s reads => gives_lookupVia fun next held => ?_
    exact each g next onPath found (held ▸ reads)

end Competition

namespace Resolver

open Competition

variable {c : Competition} {path : List Reference}

/-- Whatever a reference leads to and however deep an inquiry may go, its path is left as it was. -/
theorem exists_gives_inquire (c : Competition) (depth : Nat) (path : List Reference) (r : Reference) :
    ∃ answer, Gives (inquire c depth r) path answer := by
  induction depth generalizing path r with
  | zero => exact ⟨_, rfl⟩
  | succ depth ih =>
      -- Whatever the inquiries one step further along the path come to, they leave that path.
      choose after inner using ih (path ++ [r])
      exact ⟨_, gives_inquireOnce fun _ next _ _ _ => inner next⟩

/-- From whatever path, what follows a reference by the rule if it follows those below it by the rule,
follows it by the rule. -/
theorem gives_follow_anywhere {visit : Nat → Reference → Pass Ident} {depth : Nat}
    (step : ∀ depth path r,
      (∀ g next, r ∉ path → c.getGroup r.stage r.group = .ok g →
        g.Reads r.target (.reference next) →
        Gives (visit depth next) (path ++ [r]) (c.follow (path ++ [r]) next)) →
      Gives (visit (depth + 1) r) path (c.follow path r))
    (enough : c.distinct + 2 ≤ depth) (path : List Reference) (r : Reference) :
    Gives (visit depth r) path (c.follow path r) :=
  gives_follow_of_step (fun _ _ => True) (fun _ _ _ _ _ _ => trivial)
    (fun depth path r _ inner => step depth path r inner) trivial (unvisited_lt_of_distinct enough)

theorem gives_inquire {depth : Nat} (enough : c.distinct + 2 ≤ depth) (path : List Reference)
    (r : Reference) : Gives (inquire c depth r) path (c.follow path r) := by
  refine gives_follow_anywhere (fun depth path r inner => ?_) enough path r
  rw [← followFrom_follow]
  exact gives_inquireOnce inner

theorem gives_visit {depth : Nat} (enough : c.distinct + 2 ≤ depth) (path : List Reference)
    (r : Reference) : Gives (visit c depth r) path (c.follow path r) := by
  refine gives_follow_anywhere (fun depth path r inner => ?_) enough path r
  rw [visit_succ]
  exact gives_followOnce inner

theorem gives_lookup (c : Competition) (path : List Reference) (s : TeamSlot) :
    Gives (c.lookupVia (inquire c (depth c)) s) path (c.lookupVia (c.follow path) s) :=
  gives_lookupVia fun r _ => gives_inquire (distinct_le_depth c) path r

theorem ask_eq (c : Competition) (path : List Reference) (s : TeamSlot) :
    (⟨c, path⟩ : Resolver).ask s = (c.lookupVia (c.follow path) s, ⟨c, path⟩) :=
  run_eq_of_gives (gives_lookup c path s)

theorem askReference_eq (c : Competition) (path : List Reference) (r : Reference) :
    (⟨c, path⟩ : Resolver).askReference r = (c.follow path r, ⟨c, path⟩) :=
  run_eq_of_gives (gives_inquire (distinct_le_depth c) path r)

theorem askAll_eq (c : Competition) (path : List Reference) (slots : List TeamSlot) :
    (⟨c, path⟩ : Resolver).askAll slots =
      (slots.map fun s => ((⟨c, path⟩ : Resolver).ask s).1, ⟨c, path⟩) := by
  induction slots with
  | nil => rfl
  | cons s rest ih => simp only [askAll, ask_eq, ih, List.map_cons]

/-! ## Inquiries finish -/

/-- Follows a reference like an inquiry where it is nested. Where it is not, or may not go deeper,
something else is done instead. -/
def inquireNested (c : Competition) (other : Reference → Pass Ident) : Nat → Reference → Pass Ident
  | 0, r => other r
  | depth + 1, r => do
      let path ← get
      if c.Nested path r then c.inquireOnce (inquireNested c other depth) r else other r

/-- Whatever refers to whatever in a competition, an inquiry comes to an end, as following by one loop
does. It never gets to where it may not go deeper, or the path holds a reference twice. -/
theorem ask_finishes (c : Competition) (s : TeamSlot) {depth : Nat} (enough : c.distinct + 2 ≤ depth)
    (other : Reference → Pass Ident) :
    (new c).ask s = (c.resolve s, new c) ∧
      (new c).run (c.lookupVia (inquire c depth) s) = (c.resolve s, new c) ∧
      (new c).run (c.lookupVia (inquireNested c other depth) s) = (c.resolve s, new c) := by
  refine ⟨ask_eq c [] s, run_of_gives fun r => gives_inquire enough [] r, run_of_gives fun r => ?_⟩
  refine gives_follow_of_step c.Nested (fun _ _ _ nested fresh held => nested.next fresh held)
    (fun depth path r nested inner => ?_) (nested_nil r) (unvisited_lt_of_distinct enough)
  rw [← followFrom_follow]
  refine gives_get_bind ?_
  rw [if_pos nested]
  exact gives_inquireOnce inner

theorem isCycle_of_ask {s : TeamSlot} {texts : List String}
    (h : ((new c).ask s).1 = .error (.cycle texts)) :
    ∃ cycle, c.IsCycle cycle ∧ cycle.map (·.text) = texts := by
  rw [new, ask_eq] at h
  exact isCycle_of_resolve h

/-! ## Both loops -/

/-- With one resolver for all its slots, a group has the teams that it has with one for each. -/
theorem run_teamsVia (c : Competition) (g : Group) :
    (new c).run (teamsVia (c.lookupVia (inquire c (depth c)))
      (g.games.flatMap fun m => [m.home, m.away])) = (c.groupTeams g, new c) := by
  refine run_eq_of_gives ?_
  have teams : c.groupTeams g =
      teamsVia c.resolve (g.games.flatMap fun m => [m.home, m.away]) := by
    rw [teamsVia_eq, groupTeams]
    cases g.games.mapM (fixtureVia c.resolve) <;> rfl
  rw [teams]
  exact gives_teamsVia fun s _ => gives_lookup c [] s

/-- With one resolver for all its slots, a league has the table that it has with one for each. -/
theorem run_standingsVia (c : Competition) (g : Group) :
    (new c).run (standingsVia g (c.lookupVia (inquire c (depth c)))) = (c.standings g, new c) := by
  refine run_eq_of_gives ?_
  rw [standings, tableVia, ← standingsVia_eq]
  exact gives_standingsVia fun m _ side => gives_lookup c [] (m.slot side)

/-- A resolver that finds the teams of each match of a league only once has the same answers. -/
theorem resolve_eq_ask (resolver : Resolver) :
    (∀ s, resolver.resolve s = resolver.ask s) ∧
      ∀ r, resolver.follow r = resolver.askReference r := by
  obtain ⟨c, path⟩ := resolver
  constructor
  · intro s
    rw [ask_eq]
    exact run_eq_of_gives (gives_lookupVia fun r _ => gives_visit (distinct_le_depth c) path r)
  · intro r
    rw [askReference_eq]
    exact run_eq_of_gives (gives_visit (distinct_le_depth c) path r)

/-- A resolver leaves no trace. Whatever path it starts from and however deep it may go, an inquiry
leaves the path as it was, whether it succeeds or fails. A resolver finds what the rule of following
references finds along its path, so one that answers slots one after another answers each of them like
a new one. -/
theorem ask_traceless (c : Competition) :
    (∀ depth path r, ((⟨c, path⟩ : Resolver).run (inquire c depth r)).2 = ⟨c, path⟩) ∧
      (∀ path s, (⟨c, path⟩ : Resolver).ask s = (c.lookupVia (c.follow path) s, ⟨c, path⟩)) ∧
      (∀ path r, (⟨c, path⟩ : Resolver).askReference r = (c.follow path r, ⟨c, path⟩)) ∧
      ∀ slots, (new c).askAll slots = (slots.map fun s => ((new c).ask s).1, new c) := by
  refine ⟨fun depth path r => ?_, ask_eq c, askReference_eq c, askAll_eq c []⟩
  obtain ⟨answer, gives⟩ := exists_gives_inquire c depth path r
  have run : (⟨c, path⟩ : Resolver).run (inquire c depth r) = (answer, ⟨c, path⟩) :=
    run_eq_of_gives gives
  rw [run]

end Resolver

namespace TangledCup

open SmallCup (teamA opener)

/-- The references of the cycle that is reported first are not on the path of the later answers. -/
example : ((Resolver.new cup).askAll
    [.reference (winner opener), .literal teamA, .reference (winner rematch)]).1 =
      [.error error, .ok teamA,
        .error (.cycle [(winner rematch).text, (winner opener).text, (winner rematch).text])] := by
  cbv

end TangledCup

end Tourney
