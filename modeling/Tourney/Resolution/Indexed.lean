import Tourney.Competition.Tree
import Tourney.Resolution.Teams

/-!
# Who plays, found by index

References are followed in a tree as in a competition, except that the stage, the group and the match
of a reference are those at the places that the indexes have for them.
-/

namespace Tourney

namespace IndexedGroup

/-- The source of what a reference asks of the group. A rank or a position does not name a match. -/
def source (g : IndexedGroup) (r : Reference) : Except Error Group.Source :=
  match r.target with
  | .winner id => Group.matchSourceVia g.getMatch r id Match.winnerSide
  | .loser id => Group.matchSourceVia g.getMatch r id Match.loserSide
  | .rank _ | .position _ => g.toGroup.source r

theorem mem_games_of_getMatch {g : IndexedGroup} {id : Ident} {m : Match}
    (h : g.getMatch id = .ok m) : m ∈ g.games := by
  unfold getMatch Places.find? at h
  split at h
  · next found =>
      cases h
      obtain ⟨e, held, fixture⟩ := Option.bind_eq_some_iff.mp found
      obtain ⟨n, -, place⟩ := Option.bind_eq_some_iff.mp held
      exact List.mem_filterMap.mpr ⟨e, List.mem_of_getElem? place, fixture⟩
  · cases h

/-- A group points to its own slots, whatever its index is. -/
theorem slot_mem_slots_of_source {g : IndexedGroup} {r : Reference} {s : TeamSlot}
    (h : g.source r = .ok (.slot s)) : s ∈ g.slots := by
  unfold source at h
  split at h
  · exact Group.slot_mem_slots_of_matchSource mem_games_of_getMatch h
  · exact Group.slot_mem_slots_of_matchSource mem_games_of_getMatch h
  · exact Group.slot_mem_slots_of_source h
  · exact Group.slot_mem_slots_of_source h

end IndexedGroup

namespace Places

theorem mem_of_find? {α : Type} {places : Places} {xs : List α} {id : Ident} {x : α}
    (h : places.find? xs id = some x) : x ∈ xs := by
  obtain ⟨n, -, place⟩ := Option.bind_eq_some_iff.mp h
  exact List.mem_of_getElem? place

end Places

namespace Tree

theorem mem_slots_of_getGroup {t : Tree} {stage group : Ident} {g : IndexedGroup}
    (h : t.getGroup stage group = .ok g) {s : TeamSlot} (hs : s ∈ g.slots) :
    s ∈ t.competition.slots := by
  unfold getGroup getStage at h
  split at h
  · next st found =>
      simp only [bind, Except.bind, IndexedStage.getGroup] at h
      split at h
      · next found' =>
          cases h
          have stage : st.stage ∈ t.competition.stages :=
            List.mem_map_of_mem (Places.mem_of_find? found)
          have group : _ ∈ st.stage.groups := List.mem_map_of_mem (Places.mem_of_find? found')
          exact List.mem_flatMap.mpr ⟨_, stage, List.mem_flatMap.mpr ⟨_, group, hs⟩⟩
      · cases h
  · simp [bind, Except.bind] at h

/-- The group of a reference, and where it points to. -/
def point (t : Tree) (r : Reference) : Except Error (Group × Group.Source) := do
  let g ← t.getGroup r.stage r.group
  (g.source r).map (g.toGroup, ·)

theorem mem_slots_of_point {t : Tree} {r : Reference} {g : Group} {source : Group.Source}
    {s : TeamSlot} (pointed : t.point r = .ok (g, source)) (queries : g.Queries source s) :
    s ∈ t.competition.slots := by
  obtain ⟨g', found, sourced, rfl⟩ := of_pointed pointed
  refine mem_slots_of_getGroup found (queries.mem_slots ?_)
  rintro s rfl
  exact IndexedGroup.slot_mem_slots_of_source sourced

/-- What references are followed by in a tree. -/
def directory (t : Tree) : Directory where
  registered := t.competition.registered
  point := t.point
  slots := t.competition.slots
  closed := mem_slots_of_point

/-- The registered team that stands in a slot. -/
def resolve (t : Tree) (s : TeamSlot) : Except Error Ident :=
  t.directory.resolve s

/-- The identifier of the team that an expression stands for: a team's own, or a reference. -/
def teamId (t : Tree) (expression : String) : Except Error Ident :=
  teamIdVia t.resolve expression

def winnerTeam (t : Tree) (m : Match) : Except Error Ident :=
  sideTeamVia t.resolve Match.winnerSide m

def loserTeam (t : Tree) (m : Match) : Except Error Ident :=
  sideTeamVia t.resolve Match.loserSide m

/-- The table of a group, which has to be a league. -/
def standings (t : Tree) (g : Group) : Except Error (List Row) :=
  tableVia t.resolve g

end Tree

end Tourney
