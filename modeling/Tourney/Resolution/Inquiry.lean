import Tourney.Resolution.Resolver

/-!
# Inquiries

A resolver comes to the slots of a group one after another, and each of them is looked up along the
path as the lookup before it has left it. For its table a league has the slots of all matches that
count looked up for the teams, and those of the complete ones once more for the results. The first
lookup that fails is the last one, for every group on the path.
-/

namespace Tourney

/-- A list of teams with one more at the end, unless it is listed already. -/
def enlist (teams : List Ident) (team : Ident) : List Ident :=
  if team ∈ teams then teams else teams ++ [team]

namespace Competition

section Via

variable {m : Type → Type} [Monad m] [MonadExceptOf Error m]

/-- The teams in a list of slots, in order of first appearance. -/
def teamsVia (lookup : TeamSlot → m Ident) (slots : List TeamSlot) : m (List Ident) :=
  slots.foldlM (fun teams s => do return enlist teams (← lookup s)) []

/-- What a match contributes to a league. It has to be complete. -/
def resultVia (lookup : TeamSlot → m Ident) (game : Match) : m LeagueResult := do
  let home ← lookup game.home
  let away ← lookup game.away
  let e ← MonadExcept.ofExcept game.evaluation
  return ⟨home, away, e, game.scores⟩

/-- The table of a group, which has to be a league: first the teams of its matches, then the results
of those that are complete. -/
def standingsVia (g : Group) (lookup : TeamSlot → m Ident) : m (List Row) := do
  let config ← MonadExcept.ofExcept g.leagueConfig
  let teams ← teamsVia lookup (g.leagueMatches.flatMap fun game => [game.home, game.away])
  let results ← (g.leagueMatches.filter (·.isComplete)).mapM (resultVia lookup)
  return table teams results g.form config

/-- The team that a group answers a reference with. -/
def respondVia (g : Group) (lookup : TeamSlot → m Ident) (r : Reference) : m Ident := do
  match ← MonadExcept.ofExcept (g.source r) with
  | .slot s => lookup s
  | .row _ n => MonadExcept.ofExcept (g.teamInRow (← standingsVia g lookup) n)

end Via

/-- Follows a reference, given how to follow those that its group comes to. -/
def inquireOnce (c : Competition) (inner : Reference → Pass Ident) (r : Reference) : Pass Ident := do
  let path ← get
  if r ∈ path then throw (cycleError path r)
  let g ← MonadExcept.ofExcept (c.getGroup r.stage r.group)
  Pass.within r (respondVia g (c.lookupVia inner) r)

end Competition

namespace Resolver

/-- Follows a reference through at most the given number of references. -/
def inquire (c : Competition) : Nat → Reference → Pass Ident
  | 0, _ => throw (.cycle [])
  | depth + 1, r => c.inquireOnce (inquire c depth) r

/-- The registered team that stands in a slot, and the resolver after the inquiry. -/
def ask (resolver : Resolver) (s : TeamSlot) : Except Error Ident × Resolver :=
  let c := resolver.competition
  resolver.run (c.lookupVia (inquire c (depth c)) s)

/-- The registered team that a reference leads to, and the resolver after the inquiry. -/
def askReference (resolver : Resolver) (r : Reference) : Except Error Ident × Resolver :=
  let c := resolver.competition
  resolver.run (inquire c (depth c) r)

/-- The answers for slots one after another, each from the resolver as the answer before it has left
it. -/
def askAll (resolver : Resolver) : List TeamSlot → List (Except Error Ident) × Resolver
  | [] => ([], resolver)
  | s :: rest =>
      let (answer, resolver) := resolver.ask s
      let (answers, resolver) := resolver.askAll rest
      (answer :: answers, resolver)

end Resolver

end Tourney
