import Tourney.Resolution.Follow

/-!
# Resolvers

A resolver answers one slot after another over the same competition. It keeps the path of the
references that it is following: a reference is put at the end of the path before its group is asked
and taken off afterwards, whatever the answer.
-/

namespace Tourney

/-- A computation that keeps the path of the references being followed. -/
abbrev Pass := ExceptT Error (StateM (List Reference))

/-- Runs a computation with a reference put at the end of the path. -/
def Pass.within {α : Type} (r : Reference) (inner : Pass α) : Pass α :=
  ExceptT.mk fun path =>
    let (answer, path) := inner.run (path ++ [r])
    (answer, path.dropLast)

/-- A resolver with the path of the references that it is following. -/
structure Resolver where
  competition : Competition
  path : List Reference

namespace Resolver

/-- A resolver that follows nothing yet. -/
def new (c : Competition) : Resolver :=
  ⟨c, []⟩

/-- Follows a reference through at most the given number of references. -/
def visit (c : Competition) : Nat → Reference → Pass Ident
  | 0, _ => throw (.cycle [])
  | depth + 1, r => do
      let path ← get
      if r ∈ path then throw (Competition.cycleError path r)
      let g ← MonadExcept.ofExcept (c.getGroup r.stage r.group)
      Pass.within r do
        let source ← MonadExcept.ofExcept (g.source r)
        Competition.answerVia g (c.lookupVia (visit c depth)) source

/-- More references than can be on a path. -/
def depth (c : Competition) : Nat :=
  c.references.length + 2

/-- Runs a computation from the path of the resolver. -/
def run {α : Type} (resolver : Resolver) (pass : Pass α) : Except Error α × Resolver :=
  let (answer, path) := (ExceptT.run pass).run resolver.path
  (answer, { resolver with path := path })

/-- The registered team that a reference leads to. -/
def follow (resolver : Resolver) (r : Reference) : Except Error Ident × Resolver :=
  resolver.run (visit resolver.competition (depth resolver.competition) r)

/-- The registered team that stands in a slot. -/
def resolve (resolver : Resolver) (s : TeamSlot) : Except Error Ident × Resolver :=
  let c := resolver.competition
  resolver.run (c.lookupVia (visit c (depth c)) s)

end Resolver

end Tourney
