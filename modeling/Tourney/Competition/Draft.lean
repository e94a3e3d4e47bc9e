import Tourney.Competition.Structure

/-!
# Drafts

A draft is a competition that is being put together in place, with an index of its stages. A stage
is put at the end first and checked there; if the structure does not hold with it, it is taken away
again, from the stages and from the index.
-/

namespace Tourney

/-- A competition with an index of its stages. -/
structure Draft where
  competition : Competition
  /-- The place of the stage with an identifier, if there is one. -/
  places : Ident → Option Nat

namespace Draft

def new (name : String) : Draft :=
  ⟨.new name, fun _ => none⟩

def hasStage (d : Draft) (id : Ident) : Bool :=
  (d.places id).isSome

/-- Puts a stage at the end, whether the structure holds with it or not. -/
def push (d : Draft) (s : Stage) : Draft where
  competition := { d.competition with stages := d.competition.stages ++ [s] }
  places := fun id => if id = s.id then some d.competition.stages.length else d.places id

def pop (d : Draft) : Draft :=
  match d.competition.stages.getLast? with
  | none => d
  | some s =>
      { competition := { d.competition with stages := d.competition.stages.dropLast }
        places := fun id => if id = s.id then none else d.places id }

/-- Checks the teams that the last stage names, and the references in all stages. -/
def check (d : Draft) : Except Error Unit := do
  match d.competition.stages.getLast? with
  | none => pure ()
  | some s => d.competition.checkLiterals s
  discard d.competition.dependencyGraph

/-- Appends a stage whose identifier is new and with which the structure holds. Returns whether it
did, and the draft as it is then. -/
def addStage (d : Draft) (s : Stage) : Except Error Unit × Draft :=
  if d.hasStage s.id then
    (.error (.invalid (.duplicate .stage s.id.text .competition)), d)
  else
    match (d.push s).check with
    | .ok _ => (.ok (), d.push s)
    | .error e => (.error e, (d.push s).pop)

/-- Makes a change that leaves the places of the stages as they are. -/
def update (d : Draft) (change : Competition → Except Error Competition) :
    Except Error Unit × Draft :=
  match change d.competition with
  | .ok c => (.ok (), { d with competition := c })
  | .error e => (.error e, d)

end Draft

end Tourney
