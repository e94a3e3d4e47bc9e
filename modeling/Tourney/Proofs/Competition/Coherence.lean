import Tourney.Proofs.Competition.Tree

/-!
# Coherent lookups

However a competition is put together, by calls that succeed and calls that fail, what is looked up
under a path of identifiers is what was declared there, and nothing is ever moved, lost or doubled
(`Tree.coherent_of_run`).
-/

namespace Tourney

/-! ## What a call appends -/

/-- The entry of the call is put at the end of the group. -/
inductive GroupCall.Appends (call : GroupCall) : Group → Group → Prop
  | entry (g : Group) : Appends call g { g with entries := g.entries ++ [call.entry] }

/-- A group is put at the end of the stage, or an entry at the end of one of its groups. -/
inductive StageCall.Appends : StageCall → Stage → Stage → Prop
  | group {g : IndexedGroup} {built : g.Built} (s : Stage) :
      Appends (addGroup g built) s { s with groups := s.groups ++ [g.toGroup] }
  | within {call : GroupCall} {s : Stage} {before after : List Group} {g g' : Group}
      (held : s.groups = before ++ g :: after) (appends : call.Appends g g') :
      Appends (inGroup g.id call) s { s with groups := before ++ g' :: after }

/-- A stage is put at the end of the competition, or something at the end of a list in one of its
stages. -/
inductive TreeCall.Appends : TreeCall → Competition → Competition → Prop
  | stage {s : IndexedStage} {built : s.Built} (c : Competition) :
      Appends (addStage s built) c { c with stages := c.stages ++ [s.stage] }
  | within {call : StageCall} {c : Competition} {before after : List Stage} {s s' : Stage}
      (held : c.stages = before ++ s :: after) (appends : call.Appends s s') :
      Appends (inStage s.id call) c { c with stages := before ++ s' :: after }
  | enroll {clubs : List Club} {teams : List Team} {players : List Player} (c : Competition) :
      Appends (enroll clubs teams players) c
        { c with clubs := clubs, teams := teams, players := players }

theorem GroupCall.Appends.id_eq {call : GroupCall} {g g' : Group} (appends : call.Appends g g') :
    g'.id = g.id := by
  cases appends
  rfl

theorem StageCall.Appends.id_eq {call : StageCall} {s s' : Stage} (appends : call.Appends s s') :
    s'.id = s.id := by
  cases appends <;> rfl

theorem GroupCall.appends_of_attempt {call : GroupCall} {g g' : Group}
    (attempted : call.attempt g = .ok g') : call.Appends g g' := by
  cases call with
  | addMatch m =>
      rw [attempt, Group.addMatch] at attempted
      split at attempted
      · cases attempted
      · cases attempted
        exact .entry g
  | addBreak b =>
      cases attempted
      exact .entry g

theorem StageCall.appends_of_attempt {call : StageCall} {s s' : Stage}
    (attempted : call.attempt s = .ok s') : call.Appends s s' := by
  cases call with
  | addGroup g built =>
      obtain ⟨-, rfl⟩ := Stage.addGroup_eq_ok.mp attempted
      exact .group s
  | inGroup id call =>
      obtain ⟨g, found, later⟩ := bind_eq_ok.mp attempted
      obtain ⟨g', changed, put⟩ := bind_eq_ok.mp later
      have appends := GroupCall.appends_of_attempt changed
      rw [Stage.getGroup_eq_ok] at found
      obtain ⟨before, after, held, placed⟩ := exists_putFirst_split found appends.id_eq
      cases put
      rw [Stage.putGroup, placed, ← Stage.id_of_findGroup? found]
      exact .within held appends

theorem TreeCall.appends_of_attempt {call : TreeCall} {c c' : Competition}
    (attempted : call.attempt c = .ok c') : call.Appends c c' := by
  cases call with
  | addStage s built =>
      obtain ⟨-, -, -, rfl⟩ := Competition.addStage_eq_ok.mp attempted
      exact .stage c
  | inStage id call =>
      obtain ⟨s, found, later⟩ := bind_eq_ok.mp attempted
      obtain ⟨s', changed, put⟩ := bind_eq_ok.mp later
      have appends := StageCall.appends_of_attempt changed
      rw [Competition.getStage_eq_ok] at found
      obtain ⟨before, after, held, placed⟩ := exists_putFirst_split found appends.id_eq
      cases put
      rw [Competition.putStage, placed, ← key_of_find? found]
      exact .within held appends
  | enroll clubs teams players =>
      cases attempted
      exact .enroll c

/-- The entries of a group are those of the successful calls, in the order of the calls. -/
theorem IndexedGroup.entries_run (calls : List GroupCall) (g : IndexedGroup) :
    (Calls.run GroupCall.perform calls g).entries =
      g.entries ++ (Calls.successes GroupCall.perform calls g).map (·.entry) := by
  induction calls generalizing g with
  | nil => exact (List.append_nil _).symm
  | cons call calls ih =>
      rw [Calls.run, List.foldl_cons, ← Calls.run, ih, Calls.successes]
      cases call with
      | addMatch m =>
          rw [GroupCall.perform, addMatch]
          split
          · rfl
          · exact List.append_assoc ..
      | addBreak b => exact List.append_assoc ..

/-- A call puts something at the end of a list, as it does without indexes, or it fails as it does
there and changes nothing. -/
def Extends {σ τ : Type} (content : σ → τ) (attempted : Except Error τ) (appends : τ → Prop) (s : σ)
    (performed : Except Error Unit × σ) : Prop :=
  (∃ s', performed = (.ok (), s') ∧ attempted = .ok (content s') ∧ appends (content s')) ∨
    ∃ e, performed = (.error e, s) ∧ attempted = .error e

theorem Mirrors.extends {σ τ : Type} {content : σ → τ} {attempted : Except Error τ}
    {appends : τ → Prop} {s : σ} {performed : Except Error Unit × σ}
    (mirrors : Mirrors content attempted s performed) (h : ∀ x, attempted = .ok x → appends x) :
    Extends content attempted appends s performed := by
  cases mirrors with
  | done same => exact .inl ⟨_, rfl, same, h _ same⟩
  | refused same => exact .inr ⟨_, rfl, same⟩

/-! ## What is found -/

/-- The answer of a lookup in a list: an element under the identifier, or an error if there is
none. -/
inductive Answers {α : Type} (key : α → Ident) (xs : List α) (missing : Error) (id : Ident) :
    Except Error α → Prop
  | found {x : α} (mem : x ∈ xs) (same : key x = id) : Answers key xs missing id (.ok x)
  | missing (absent : id ∉ xs.map key) : Answers key xs missing id (.error missing)

/-- The answer of a lookup below another one, which fails as that one fails. -/
inductive Below {α β : Type} (outer : Except Error α) (inner : α → Except Error β → Prop) :
    Except Error β → Prop
  | failed {e : Error} (h : outer = .error e) : Below outer inner (.error e)
  | within {x : α} {answer : Except Error β} (h : outer = .ok x) (answers : inner x answer) :
      Below outer inner answer

theorem answers_find? {α : Type} (key : α → Ident) (xs : List α) (missing : Error) (id : Ident) :
    Answers key xs missing id ((xs.find? (key · == id)).elim (.error missing) .ok) := by
  cases found : xs.find? (key · == id) with
  | none => exact .missing (by simpa using found)
  | some x => exact .found (List.mem_of_find?_eq_some found) (key_of_find? found)

theorem below_bind {α β : Type} {outer : Except Error α} {inner : α → Except Error β → Prop}
    {next : α → Except Error β} (h : ∀ x, outer = .ok x → inner x (next x)) :
    Below outer inner (outer >>= next) := by
  cases outer with
  | error e => exact .failed rfl
  | ok x => exact .within rfl (h x rfl)

/-- Matches have identifiers of their own, each one is found under its own, and what the index has
for it is its place among all entries. -/
structure IndexedGroup.Coherent (g : IndexedGroup) : Prop where
  unique : (g.games.map (·.id)).Nodup
  getMatch : ∀ id, Answers (·.id) g.games (.unknownMatch g.id.text id.text) id (g.getMatch id)
  position : ∀ id (k : Nat), g.entryIndex? id = some k ↔
    ∃ m, g.entries[k]? = some (.fixture m) ∧ m.id = id

/-- Groups have identifiers of their own, and each one is found under its own. -/
structure IndexedStage.Coherent (s : IndexedStage) : Prop where
  unique : (s.groups.map (·.id)).Nodup
  getGroup : ∀ id, Answers (·.id) s.groups (.unknownGroup s.id.text id.text) id (s.getGroup id)
  groups : ∀ g ∈ s.groups, g.Coherent

/-- Stages have identifiers of their own. What is found under a path of identifiers is the element
that stands there, and an error is that of the first part of the path that does not exist. -/
structure Tree.Coherent (t : Tree) : Prop where
  unique : (t.stages.map (·.id)).Nodup
  getStage : ∀ stage, Answers (·.id) t.stages (.unknownStage stage.text) stage (t.getStage stage)
  getGroup : ∀ stage group, Below (t.getStage stage)
    (fun s => Answers (·.id) s.groups (.unknownGroup stage.text group.text) group)
    (t.getGroup stage group)
  getMatch : ∀ stage group id, Below (t.getGroup stage group)
    (fun g => Answers (·.id) g.games (.unknownMatch group.text id.text) id)
    (t.getMatch stage group id)
  stages : ∀ s ∈ t.stages, s.Coherent

theorem IndexedGroup.Indexed.coherent {g : IndexedGroup} (indexed : g.Indexed) : g.Coherent where
  unique := indexed.unique
  getMatch id := by
    rw [indexed.getMatch, Group.getMatch_eq]
    exact answers_find? (·.id) g.games _ id
  position id k := by
    rw [IndexedGroup.entryIndex?, indexed.places]
    constructor
    · intro place
      obtain ⟨hk, under, -⟩ := List.findIdx?_eq_some_iff_getElem.mp place
      rw [List.getElem?_eq_getElem hk]
      cases held : g.entries[k] with
      | fixture m => exact ⟨m, rfl, by simpa [held, Entry.match?] using under⟩
      | pause b => simp [held, Entry.match?] at under
    · rintro ⟨m, held, rfl⟩
      exact indexed.unique.entryIndex? held

namespace IndexedStage.Indexed

variable {s : IndexedStage} {g : IndexedGroup} {group : Ident}

theorem answers_getGroup (indexed : s.Indexed) (group : Ident) :
    Answers (·.id) s.groups (.unknownGroup s.id.text group.text) group (s.getGroup group) := by
  rw [indexed.getGroup]
  exact answers_find? (·.id) s.groups _ group

theorem coherent (indexed : s.Indexed) : s.Coherent where
  unique := indexed.unique
  getGroup := indexed.answers_getGroup
  groups g mem := (indexed.all g mem).coherent

end IndexedStage.Indexed

namespace Tree.Indexed

variable {t : Tree} {stage group : Ident} {s : IndexedStage} {g : IndexedGroup}

theorem answers_getStage (indexed : t.Indexed) (stage : Ident) :
    Answers (·.id) t.stages (.unknownStage stage.text) stage (t.getStage stage) := by
  rw [indexed.getStage]
  exact answers_find? (·.id) t.stages _ stage

theorem answers_getGroup (indexed : t.Indexed) (stage group : Ident) :
    Below (t.getStage stage)
      (fun s => Answers (·.id) s.groups (.unknownGroup stage.text group.text) group)
      (t.getGroup stage group) := by
  refine below_bind fun s held => ?_
  obtain ⟨within, rfl⟩ := indexed.of_getStage held
  exact within.answers_getGroup group

theorem answers_getMatch (indexed : t.Indexed) (stage group id : Ident) :
    Below (t.getGroup stage group)
      (fun g => Answers (·.id) g.games (.unknownMatch group.text id.text) id)
      (t.getMatch stage group id) := by
  refine below_bind fun g held => ?_
  obtain ⟨within, rfl⟩ := indexed.of_getGroup held
  exact within.coherent.getMatch id

theorem coherent (indexed : t.Indexed) : t.Coherent where
  unique := indexed.unique
  getStage := indexed.answers_getStage
  getGroup := indexed.answers_getGroup
  getMatch := indexed.answers_getMatch
  stages s mem := (indexed.all s mem).coherent

/-- A match is found under a path as it is found without indexes. -/
theorem getMatch_eq (indexed : t.Indexed) (stage group id : Ident) :
    t.getMatch stage group id = t.competition.getMatch stage group id := by
  rw [Tree.getMatch, Competition.getMatch, ← indexed.map_getGroup]
  cases held : t.getGroup stage group with
  | error e => rfl
  | ok g => exact (indexed.of_getGroup held).1.getMatch id

end Tree.Indexed

/-! ## Any calls -/

/-- After any calls, successful or failing, identifiers are unique in each list of a group, a stage
or a competition, and lookups find what stands under an identifier or say which part of a path does
not exist. One more call puts something at the end of one list and leaves all else where it is, or it
fails and changes nothing, and it comes to the same as without indexes. -/
theorem Tree.coherent_of_run :
    (∀ settings calls, let g := Calls.run GroupCall.perform calls (.bare settings)
      g.Coherent ∧
      g.entries = (Calls.successes GroupCall.perform calls (.bare settings)).map (·.entry) ∧
      ∀ call : GroupCall,
        Extends (·.toGroup) (call.attempt g.toGroup) (call.Appends g.toGroup) g (call.perform g)) ∧
    (∀ id name notes calls, let s := Calls.run StageCall.perform calls (.bare id name notes)
      s.Coherent ∧ ∀ call : StageCall,
        Extends (·.stage) (call.attempt s.stage) (call.Appends s.stage) s (call.perform s)) ∧
    ∀ name calls, let t := Calls.run TreeCall.perform calls (.new name)
      t.Coherent ∧
      (∀ stage group id, t.getMatch stage group id = t.competition.getMatch stage group id) ∧
      ∀ call : TreeCall,
        Extends (·.competition) (call.attempt t.competition) (call.Appends t.competition) t
          (call.perform t) := by
  refine ⟨fun settings calls => ?_, fun id name notes calls => ?_, fun name calls => ?_⟩
  · have indexed := IndexedGroup.Built.indexed ⟨settings, calls, rfl⟩
    exact ⟨indexed.coherent, IndexedGroup.entries_run calls _, fun call =>
      (indexed.mirrors call).extends fun _ => GroupCall.appends_of_attempt⟩
  · have indexed := IndexedStage.Built.indexed ⟨id, name, notes, calls, rfl⟩
    exact ⟨indexed.coherent, fun call =>
      (indexed.mirrors call).extends fun _ => StageCall.appends_of_attempt⟩
  · have indexed := Tree.indexed_run name calls
    exact ⟨indexed.coherent, indexed.getMatch_eq, fun call =>
      (indexed.mirrors call).extends fun _ => TreeCall.appends_of_attempt⟩

namespace SmallCup

def showMatch : Match :=
  .new final (.literal teamA) (.literal teamB)

/-- A break, and after it a match that is put twice. -/
def showCalls : List GroupCall :=
  [.addBreak ⟨none, .empty⟩, .addMatch showMatch, .addMatch showMatch]

def showGroup : IndexedGroup :=
  Calls.run GroupCall.perform showCalls (.bare (.new final .crossover .sets))

def showStage : IndexedStage :=
  Calls.run StageCall.perform [.addGroup showGroup ⟨_, showCalls, rfl⟩] (.bare finals none none)

/-- The stage is tried before its teams are registered. -/
def tooEarly : List TreeCall :=
  [.addStage showStage ⟨_, _, _, _, rfl⟩]

/-- The match stands once, after the break, and the stage that is refused is not found. -/
theorem show_coherent :
    showGroup.entries = [.pause ⟨none, .empty⟩, .fixture showMatch] ∧
      showGroup.entryIndex? final = some 1 ∧
      (∃ e, GroupCall.perform (.addMatch showMatch) showGroup = (.error e, showGroup)) ∧
      showStage.getGroup final = .ok showGroup ∧
      (Calls.run TreeCall.perform tooEarly (.new "Show")).getMatch finals final final =
        .error (.unknownStage "F") := by
  obtain ⟨groups, -, trees⟩ := Tree.coherent_of_run
  obtain ⟨coherent, entries, calls⟩ := groups (.new final .crossover .sets) showCalls
  refine ⟨entries, (coherent.position final 1).mpr ⟨showMatch, rfl, rfl⟩, ?_, rfl, ?_⟩
  · rcases calls (.addMatch showMatch) with ⟨g, -, attempted, -⟩ | ⟨e, performed, -⟩
    · cases attempted
    · exact ⟨e, performed⟩
  · exact ((trees "Show" tooEarly).2.1 finals final final).trans rfl

end SmallCup

end Tourney
