import Tourney.Call
import Tourney.Competition.Roster

/-!
# Groups and stages with indexes

The lists of a group and of a stage have an index of the places of their elements, and whatever is
looked up by identifier is looked up there. New elements are put at the end of their list. An element
that is there is accessed where it stands, and may be changed to anything; the index is left as it
is, even if the element has another identifier afterwards.
-/

namespace Tourney

namespace Places

/-- The element at the place of an identifier, if it has one. -/
def find? {α : Type} (places : Places) (xs : List α) (id : Ident) : Option α :=
  (places id).bind (xs[·]?)

def erase (places : Places) (id : Ident) : Places :=
  fun id' => if id' = id then none else places id'

/-- Accesses the element at the place of an identifier, and changes it where it stands. -/
def amend {α : Type} (places : Places) (xs : List α) (id : Ident) (missing : Error)
    (change : α → Except Error Unit × α) : Except Error Unit × List α :=
  match places id with
  | none => (.error missing, xs)
  | some n =>
      match xs[n]? with
      | none => (.error missing, xs)
      | some x =>
          let (result, x') := change x
          (result, xs.set n x')

end Places

/-! ## Groups -/

/-- A group with an index of the places of its matches among all its entries. -/
structure IndexedGroup extends Group where
  places : Places

namespace IndexedGroup

/-- A group with the settings of another one and no entries. -/
def bare (g : Group) : IndexedGroup where
  toGroup := { g with entries := [] }
  places := .empty

/-- A group with a new index. -/
def of (g : Group) : IndexedGroup where
  toGroup := g
  places := g.entryIndex?

def hasMatch (g : IndexedGroup) (id : Ident) : Bool :=
  (g.places id).isSome

/-- The place of a match among all entries, breaks included. -/
def entryIndex? (g : IndexedGroup) (id : Ident) : Option Nat :=
  g.places id

def getMatch (g : IndexedGroup) (id : Ident) : Except Error Match :=
  match (g.places.find? g.entries id).bind Entry.match? with
  | some m => .ok m
  | none => .error (.unknownMatch g.id.text id.text)

/-- Appends a match whose identifier is new. -/
def addMatch (g : IndexedGroup) (m : Match) : Except Error Unit × IndexedGroup :=
  if g.hasMatch m.id then (.error (.invalid (.duplicate .fixture m.id.text .group)), g)
  else
    (.ok (), { g with
      places := g.places.insert m.id g.entries.length
      entries := g.entries ++ [.fixture m] })

def addBreak (g : IndexedGroup) (b : Break) : IndexedGroup :=
  { g with entries := g.entries ++ [.pause b] }

def access (g : IndexedGroup) (id : Ident) (change : Match → Match) :
    Except Error Unit × IndexedGroup :=
  let missing := Error.unknownMatch g.id.text id.text
  let (result, entries) := g.places.amend g.entries id missing fun
    | .fixture m => (.ok (), .fixture (change m))
    | .pause b => (.error missing, .pause b)
  (result, { g with entries := entries })

end IndexedGroup

/-- What is asked of a group. -/
inductive GroupCall
  | addMatch (m : Match)
  | addBreak (b : Break)

/-- Makes a call. Returns whether it succeeded, and the group as it is then. -/
def GroupCall.perform : GroupCall → IndexedGroup → Except Error Unit × IndexedGroup
  | addMatch m, g => g.addMatch m
  | addBreak b, g => (.ok (), g.addBreak b)

/-- The group results from calls, successful or failing, on one without entries. -/
def IndexedGroup.Built (g : IndexedGroup) : Prop :=
  ∃ settings calls, g = Calls.run GroupCall.perform calls (.bare settings)

/-! ## Stages -/

/-- A stage with an index of the places of its groups. -/
structure IndexedStage where
  id : Ident
  name : Option String
  notes : Option String
  groups : List IndexedGroup
  places : Places

namespace IndexedStage

def bare (id : Ident) (name notes : Option String) : IndexedStage :=
  ⟨id, name, notes, [], .empty⟩

/-- A stage with new indexes. -/
def of (s : Stage) : IndexedStage where
  id := s.id
  name := s.name
  notes := s.notes
  groups := s.groups.map .of
  places id := s.groups.findIdx? (·.id == id)

/-- The stage without its indexes. -/
def stage (s : IndexedStage) : Stage :=
  ⟨s.id, s.name, s.notes, s.groups.map (·.toGroup)⟩

def hasGroup (s : IndexedStage) (id : Ident) : Bool :=
  (s.places id).isSome

def getGroup (s : IndexedStage) (id : Ident) : Except Error IndexedGroup :=
  match s.places.find? s.groups id with
  | some g => .ok g
  | none => .error (.unknownGroup s.id.text id.text)

/-- Appends a group whose identifier is new. -/
def addGroup (s : IndexedStage) (g : IndexedGroup) : Except Error Unit × IndexedStage :=
  if s.hasGroup g.id then (.error (.invalid (.duplicate .group g.id.text .stage)), s)
  else
    (.ok (), { s with
      places := s.places.insert g.id s.groups.length
      groups := s.groups ++ [g] })

def access (s : IndexedStage) (id : Ident) (change : IndexedGroup → Except Error Unit × IndexedGroup) :
    Except Error Unit × IndexedStage :=
  let (result, groups) := s.places.amend s.groups id (.unknownGroup s.id.text id.text) change
  (result, { s with groups := groups })

def inGroup (s : IndexedStage) (id : Ident) (call : GroupCall) :
    Except Error Unit × IndexedStage :=
  s.access id call.perform

end IndexedStage

/-- What is asked of a stage. -/
inductive StageCall
  | addGroup (g : IndexedGroup) (built : g.Built)
  | inGroup (id : Ident) (call : GroupCall)

/-- Makes a call. Returns whether it succeeded, and the stage as it is then. -/
def StageCall.perform : StageCall → IndexedStage → Except Error Unit × IndexedStage
  | addGroup g _, s => s.addGroup g
  | inGroup id call, s => s.inGroup id call

/-- The stage results from calls, successful or failing, on one without groups. -/
def IndexedStage.Built (s : IndexedStage) : Prop :=
  ∃ id name notes calls, s = Calls.run StageCall.perform calls (.bare id name notes)

end Tourney
