import Tourney.Competition.Registers
import Tourney.Resolution.Bound

/-!
# Following references

Who stands in a slot follows from the recorded scores alone: a team that a slot names has to be
registered, and a reference is followed to its group, which points to one of its own slots or to
its league table. The references being followed form a path, and a reference that occurs on it
already is a cycle. All that this takes is a `Directory`: which teams are registered, and where each
reference points to. `follow_eq` is the rule by which references are followed; the number of
references that can still be followed falls with every step.
-/

namespace Tourney

namespace Competition

/-- The team with an identifier that a slot names. -/
def registered (c : Competition) (id : Ident) : Except Error Ident :=
  if c.hasTeam id then .ok id else .error (.notFound .team id.text)

/-- The error for a reference that is on the path already. The path is reported in writing, from the
first reference that reads like this one. -/
def cycleError (path : List Reference) (r : Reference) : Error :=
  let texts := (path ++ [r]).map (·.text)
  .cycle (texts.drop (texts.idxOf r.text))

section Via

variable {m : Type → Type} [Monad m] [MonadExceptOf Error m]

/-- The teams of a match, given who stands in a slot. -/
def fixtureVia (lookup : TeamSlot → m Ident) (game : Match) : m Fixture := do
  let home ← lookup game.home
  let away ← lookup game.away
  return ⟨game, home, away⟩

/-- Who stands in a slot, given where a reference leads. -/
def lookupVia (c : Competition) (follow : Reference → m Ident) : TeamSlot → m Ident
  | .literal id => MonadExcept.ofExcept (c.registered id)
  | .reference r => follow r

/-- The team that a group points to, given who stands in a slot. -/
def answerVia (g : Group) (lookup : TeamSlot → m Ident) : Group.Source → m Ident
  | .slot s => lookup s
  | .row config n => do
      let fixtures ← g.leagueMatches.mapM (fixtureVia lookup)
      MonadExcept.ofExcept (g.teamInRow (g.tableOf config fixtures) n)

end Via

theorem ofExcept_eq {α : Type} (x : Except Error α) :
    (MonadExcept.ofExcept x : Except Error α) = x := by
  cases x <;> rfl

theorem mapM_attach_fixtureVia (lookup : TeamSlot → Except Error Ident) (ms : List Match) :
    ms.attach.mapM (fun m => fixtureVia lookup m.1) = ms.mapM (fixtureVia lookup) := by
  simp

end Competition

/-! ## Directories -/

/-- All that references are followed by. -/
structure Directory where
  /-- The team with an identifier that a slot names. -/
  registered : Ident → Except Error Ident
  /-- The group of a reference, and where it points to. -/
  point : Reference → Except Error (Group × Group.Source)
  slots : List TeamSlot
  /-- Whatever is looked up on the way is one of the slots. -/
  closed : ∀ {r : Reference} {g : Group} {source : Group.Source} {s : TeamSlot},
    point r = .ok (g, source) → g.Queries source s → s ∈ slots

namespace Directory

open Competition (cycleError fixtureVia answerVia)

/-- A bound on how many references can still be followed: those in the slots that are not on the
path, and the next one if no slot has it. -/
def unfollowed (d : Directory) (path : List Reference) (r : Reference) : Nat :=
  let references := d.slots.filterMap (·.reference?)
  references.countP (· ∉ path) + if r ∈ references then 0 else 1

theorem unfollowed_lt {d : Directory} {path : List Reference} {r next : Reference} (fresh : r ∉ path)
    (held : .reference next ∈ d.slots) : d.unfollowed (path ++ [r]) next < d.unfollowed path r :=
  Competition.countP_notMem_add_lt fresh (List.mem_filterMap.mpr ⟨_, held, rfl⟩)

/-- Follows a reference from the end of a path to a registered team. -/
def follow (d : Directory) (path : List Reference) (r : Reference) : Except Error Ident :=
  if _ : r ∈ path then .error (cycleError path r)
  else
    let inside (s : TeamSlot) (_ : s ∈ d.slots) : Except Error Ident :=
      match s with
      | .literal id => d.registered id
      | .reference next => d.follow (path ++ [r]) next
    match pointed : d.point r with
    | .error e => .error e
    | .ok (_, .slot s) => inside s (d.closed pointed (.slot s))
    | .ok (g, .row config n) => do
        let fixtures ← g.leagueMatches.attach.mapM fun ⟨m, counted⟩ => do
          let home ← inside m.home (d.closed pointed (.row counted .home))
          let away ← inside m.away (d.closed pointed (.row counted .away))
          return (⟨m, home, away⟩ : Fixture)
        g.teamInRow (g.tableOf config fixtures) n
termination_by d.unfollowed path r
decreasing_by exact unfollowed_lt ‹r ∉ path› ‹_ ∈ d.slots›

/-- Who stands in a slot, given where a reference leads. -/
def lookup (d : Directory) (follow : Reference → Except Error Ident) :
    TeamSlot → Except Error Ident
  | .literal id => d.registered id
  | .reference r => follow r

/-- The registered team that stands in a slot. -/
def resolve (d : Directory) : TeamSlot → Except Error Ident :=
  d.lookup (d.follow [])

/-- How a reference is followed: not along a cycle, and to where its group points. -/
theorem follow_eq (d : Directory) (path : List Reference) (r : Reference) :
    d.follow path r =
      if r ∈ path then .error (cycleError path r)
      else (d.point r).bind fun (g, source) =>
        answerVia g (d.lookup (d.follow (path ++ [r]))) source := by
  rw [follow]
  split
  · rfl
  · have inside (s : TeamSlot) (held : s ∈ d.slots) :
        (match s, held with
          | .literal id, _ => d.registered id
          | .reference next, _ => d.follow (path ++ [r]) next) =
          d.lookup (d.follow (path ++ [r])) s := by
      cases s <;> rfl
    split
    · next pointed => simp [pointed, Except.bind]
    · next g s pointed => simpa only [pointed, Except.bind, answerVia] using inside s _
    · next g config n pointed =>
        simp only [pointed, Except.bind, answerVia, Competition.ofExcept_eq]
        rw [← Competition.mapM_attach_fixtureVia]
        congr 2
        funext ⟨m, counted⟩
        have home := inside m.home (d.closed pointed (.row counted .home))
        have away := inside m.away (d.closed pointed (.row counted .away))
        simp only [fixtureVia, ← home, ← away]

end Directory

/-- What is pointed to comes from a group that was found. -/
theorem of_pointed {γ : Type} {lookup : Except Error γ} {content : γ → Group}
    {points : γ → Except Error Group.Source} {g : Group} {source : Group.Source}
    (h : (do let found ← lookup; (points found).map (content found, ·)) = .ok (g, source)) :
    ∃ found, lookup = .ok found ∧ points found = .ok source ∧ content found = g := by
  cases lookup with
  | error e => cases h
  | ok found =>
      change (points found).map (content found, ·) = _ at h
      cases pointed : points found with
      | error e => simp [pointed, Except.map] at h
      | ok source' =>
          rw [pointed] at h
          cases h
          exact ⟨found, rfl, pointed, rfl⟩

/-! ## In a competition -/

namespace Competition

/-- The group of a reference, and where it points to. -/
def point (c : Competition) (r : Reference) : Except Error (Group × Group.Source) := do
  let g ← c.getGroup r.stage r.group
  (g.source r).map (g, ·)

theorem mem_slots_of_point {c : Competition} {r : Reference} {g : Group} {source : Group.Source}
    {s : TeamSlot} (pointed : c.point r = .ok (g, source)) (queries : g.Queries source s) :
    s ∈ c.slots := by
  obtain ⟨g, found, sourced, rfl⟩ := of_pointed pointed
  refine mem_slots_of_getGroup found (queries.mem_slots ?_)
  rintro s rfl
  exact Group.slot_mem_slots_of_source sourced

/-- What references are followed by in a competition: its teams, and the sources of its groups. -/
def directory (c : Competition) : Directory where
  registered := c.registered
  point := c.point
  slots := c.slots
  closed := mem_slots_of_point

/-- Follows a reference from the end of a path to a registered team. -/
def follow (c : Competition) (path : List Reference) (r : Reference) : Except Error Ident :=
  c.directory.follow path r

/-- How a reference is followed: not along a cycle, to its group, and to where the group points. -/
theorem follow_eq (c : Competition) (path : List Reference) (r : Reference) :
    c.follow path r =
      if r ∈ path then .error (cycleError path r)
      else (c.getGroup r.stage r.group).bind fun g => (g.source r).bind fun source =>
        answerVia g (c.lookupVia (c.follow (path ++ [r]))) source := by
  have lookup : c.directory.lookup (c.directory.follow (path ++ [r])) =
      c.lookupVia (c.follow (path ++ [r])) := by
    funext s
    cases s with
    | literal id => exact (ofExcept_eq _).symm
    | reference next => rfl
  have point : c.directory.point r =
      (c.getGroup r.stage r.group).bind fun g => (g.source r).map (g, ·) := rfl
  rw [follow, Directory.follow_eq, lookup, point]
  split
  · rfl
  · cases c.getGroup r.stage r.group with
    | error e => rfl
    | ok g =>
        change (Except.map (g, ·) (g.source r)).bind _ = (g.source r).bind _
        cases g.source r <;> rfl

end Competition

end Tourney
