import Tourney.Competition.Tree
import Tourney.Proofs.Dependency.Indexed

/-!
# Trees in step with their indexes

A competition whose indexes are right at every place (`Tree.Indexed`) is checked as one without
indexes is. One that is built by calls has its indexes right at every moment, and a call in place does
what is done without indexes, or it fails as that does and leaves everything as it was.
-/

namespace Tourney

/-- What a call leads to without indexes, if it succeeds. -/
def TreeCall.attempt : TreeCall → Competition → Except Error Competition
  | addStage s _, c => c.addStage s.stage
  | inStage id call, c => c.updateStage id call.attempt
  | enroll clubs teams players, c =>
      .ok { c with clubs := clubs, teams := teams, players := players }

namespace Tree

variable {t : Tree} {s : IndexedStage}

/-- The index of the stages is right, and so are those of all stages. -/
def Indexed (t : Tree) : Prop :=
  InStep (·.id) IndexedStage.Indexed t.places t.stages

/-- New indexes are right where identifiers are unique. -/
theorem indexed_of {c : Competition} (unique : c.UniqueIds) : (of c).Indexed := by
  have ids : ((c.stages.map IndexedStage.of).map (·.id)).Nodup := by
    rw [List.map_map]
    exact unique.1
  have stages : ∀ s ∈ c.stages.map IndexedStage.of, s.Indexed :=
    List.forall_mem_map.mpr fun s mem => IndexedStage.indexed_of (unique.2 s mem)
  have places : (of c).places =
      fun id => (c.stages.map IndexedStage.of).findIdx? (·.id == id) := by
    funext id
    rw [List.findIdx?_map]
    rfl
  rw [Indexed, places]
  exact .fresh ids stages

/-- Identifiers are unique where indexes are right. -/
theorem Indexed.uniqueIds (indexed : t.Indexed) : t.competition.UniqueIds := by
  refine ⟨?_, List.forall_mem_map.mpr fun s mem => (indexed.all s mem).uniqueIds⟩
  rw [competition, List.map_map]
  exact indexed.unique

theorem Indexed.of_competition (indexed : t.Indexed) : of t.competition = t := by
  have stages : t.competition.stages.map IndexedStage.of = t.stages := by
    rw [competition, List.map_map]
    have same := List.map_congr_left fun s mem => (indexed.all s mem).of_stage
    exact same.trans (List.map_id' t.stages)
  have places : (fun id => t.competition.stages.findIdx? (·.id == id)) = t.places := by
    funext id
    rw [indexed.index id, competition, List.findIdx?_map]
    rfl
  rw [of, stages, places]
  rfl

/-- The trees whose indexes are right are the competitions with unique identifiers, with new
indexes. -/
theorem indexed_iff : t.Indexed ↔ t.competition.UniqueIds ∧ of t.competition = t :=
  ⟨fun indexed => ⟨indexed.uniqueIds, indexed.of_competition⟩,
    fun ⟨unique, same⟩ => same ▸ indexed_of unique⟩

theorem getStage_eq_ok {id : Ident} :
    t.getStage id = .ok s ↔ t.places.find? t.stages id = some s := by
  unfold getStage
  split <;> simp_all

theorem findStage?_competition (t : Tree) (id : Ident) :
    t.competition.findStage? id = (t.stages.find? (·.id == id)).map (·.stage) := by
  rw [Competition.findStage?, competition, List.find?_map]
  rfl

theorem getStage_competition (t : Tree) (id : Ident) :
    t.competition.getStage id = (t.stages.find? (·.id == id)).elim
      (.error (.unknownStage id.text)) fun s => .ok s.stage := by
  rw [Competition.getStage, findStage?_competition]
  cases t.stages.find? (·.id == id) <;> rfl

theorem Indexed.getStage (indexed : t.Indexed) (id : Ident) :
    t.getStage id = (t.stages.find? (·.id == id)).elim (.error (.unknownStage id.text)) .ok := by
  rw [Tree.getStage, indexed.index.find?_eq]
  cases t.stages.find? (·.id == id) <;> rfl

theorem Indexed.map_getStage (indexed : t.Indexed) (id : Ident) :
    (t.getStage id).map (·.stage) = t.competition.getStage id := by
  rw [indexed.getStage, getStage_competition]
  cases t.stages.find? (·.id == id) <;> rfl

/-- A stage that is found is in order, and has the identifier under which it is found. -/
theorem Indexed.of_getStage {id : Ident} (indexed : t.Indexed) (held : t.getStage id = .ok s) :
    s.Indexed ∧ s.id = id := by
  have found := (indexed.index.find?_eq id).symm.trans (getStage_eq_ok.mp held)
  exact ⟨indexed.all s (List.mem_of_find?_eq_some found), by simpa using List.find?_some found⟩

theorem Indexed.of_getGroup {stage group : Ident} {g : IndexedGroup} (indexed : t.Indexed)
    (held : t.getGroup stage group = .ok g) : g.Indexed ∧ g.id = group := by
  obtain ⟨s, outer, inner⟩ := bind_eq_ok.mp held
  exact (indexed.of_getStage outer).1.of_getGroup inner

theorem Indexed.map_getGroup (indexed : t.Indexed) (stage group : Ident) :
    (t.getGroup stage group).map (·.toGroup) = t.competition.getGroup stage group := by
  rw [getGroup, Competition.getGroup, ← indexed.map_getStage]
  cases held : t.getStage stage with
  | error e => rfl
  | ok s => exact (indexed.of_getStage held).1.map_getGroup group

theorem dependencyGraph_eq (all : ∀ s ∈ t.stages, s.Indexed) :
    t.dependencyGraph = t.competition.dependencyGraph := by
  rw [Tree.dependencyGraph, DependencyGraph.buildIndexed_eq all]
  rfl

theorem competition_push (t : Tree) (s : IndexedStage) :
    (t.push s).competition =
      { t.competition with stages := t.competition.stages ++ [s.stage] } := by
  simp [competition, push]

theorem pop_push (fresh : t.hasStage s.id = false) : (t.push s).pop = t := by
  have absent : t.places s.id = none := by simpa [hasStage] using fresh
  have places : (t.push s).places.erase s.id = t.places := by
    funext id
    by_cases same : id = s.id
    · simp [Places.erase, same, absent]
    · simp [Places.erase, push, Places.insert, same]
  have last : (t.push s).stages.getLast? = some s := by simp [push]
  unfold pop
  rw [last]
  simp only [places]
  simp [push]

/-- A stage that is tried where it stands is kept or leaves no trace. -/
theorem addStage_cases (t : Tree) (s : IndexedStage) :
    (t.hasStage s.id = false ∧ (t.push s).check = .ok () ∧ t.addStage s = (.ok (), t.push s)) ∨
      ∃ e, t.addStage s = (.error e, t) ∧
        (t.hasStage s.id = true ∧ e = .invalid (.duplicate .stage s.id.text .competition) ∨
          t.hasStage s.id = false ∧ (t.push s).check = .error e) := by
  unfold Tree.addStage
  cases fresh : t.hasStage s.id with
  | true => exact .inr ⟨_, rfl, .inl ⟨rfl, rfl⟩⟩
  | false =>
      rw [pop_push fresh]
      cases checked : (t.push s).check with
      | ok u => exact .inl ⟨rfl, rfl, rfl⟩
      | error e => exact .inr ⟨e, rfl, .inr ⟨rfl, rfl⟩⟩

theorem check_push (all : ∀ s ∈ t.stages, s.Indexed) (held : s.Indexed) :
    (t.push s).check = ((t.push s).competition.checkLiterals s.stage).bind fun _ =>
      discard (t.push s).competition.dependencyGraph := by
  have last : (t.push s).stages.getLast? = some s := by simp [push]
  have all : ∀ x ∈ (t.push s).stages, x.Indexed :=
    List.forall_mem_append.mpr ⟨all, List.forall_mem_singleton.mpr held⟩
  rw [check, last, dependencyGraph_eq all]
  rfl

theorem Indexed.hasStage (indexed : t.Indexed) (id : Ident) :
    t.hasStage id = t.competition.hasStage id := by
  rw [Tree.hasStage, indexed.index.isSome_eq, Competition.hasStage, findStage?_competition,
    Option.isSome_map]

theorem Indexed.mirrors_addStage (indexed : t.Indexed) (held : s.Indexed) :
    Mirrors competition (t.competition.addStage s.stage) t (t.addStage s) := by
  have tried : t.competition.addStage s.stage =
      if t.hasStage s.id then .error (.invalid (.duplicate .stage s.id.text .competition))
      else (t.push s).check.map fun _ => (t.push s).competition := by
    rw [Competition.addStage, indexed.hasStage, check_push indexed.all held, competition_push]
    generalize ({ t.competition with stages := t.competition.stages ++ [s.stage] } : Competition) =
      extended
    have known : t.competition.hasStage s.stage.id = t.competition.hasStage s.id := rfl
    rw [known]
    cases t.competition.hasStage s.id with
    | true => rfl
    | false =>
        change (extended.checkLiterals s.stage >>= fun _ => _) = _
        cases extended.checkLiterals s.stage with
        | error e => rfl
        | ok u => cases extended.dependencyGraph <;> rfl
  rcases addStage_cases t s with ⟨fresh, checked, h⟩ | ⟨e, h, ⟨known, rfl⟩ | ⟨fresh, checked⟩⟩
  · rw [h]
    exact .done (by rw [tried, fresh, checked]; rfl)
  · rw [h]
    exact .refused (by rw [tried, known]; rfl)
  · rw [h]
    exact .refused (by rw [tried, fresh, checked]; rfl)

theorem Indexed.addStage (indexed : t.Indexed) (held : s.Indexed) : (t.addStage s).2.Indexed := by
  rcases addStage_cases t s with ⟨fresh, -, h⟩ | ⟨e, h, -⟩
  · rw [h]
    exact indexed.concat held fresh
  · rw [h]
    exact indexed

theorem Indexed.mirrors_inStage (indexed : t.Indexed) (id : Ident) (call : StageCall) :
    Mirrors competition (t.competition.updateStage id call.attempt) t (t.inStage id call) := by
  have put (s : IndexedStage) : competition { t with stages := putFirst (·.id) s t.stages } =
      t.competition.putStage s.stage := by
    have content : (putFirst (·.id) s t.stages).map (·.stage) =
        putFirst (·.id) s.stage (t.stages.map (·.stage)) :=
      map_putFirst_content (fun _ => by rfl) s t.stages
    exact congrArg (fun stages => ({ t.competition with stages := stages } : Competition)) content
  exact indexed.index.amend_mirrors competition (fun stages => { t with stages := stages })
    (fun s => t.competition.putStage s) (IndexedStage.id_perform call)
    (fun s mem => (indexed.all s mem).mirrors call) (t.getStage_competition id) put

theorem Indexed.mirrors (indexed : t.Indexed) (call : TreeCall) :
    Mirrors competition (call.attempt t.competition) t (call.perform t) := by
  cases call with
  | addStage s built => exact indexed.mirrors_addStage built.indexed
  | inStage id call => exact indexed.mirrors_inStage id call
  | enroll clubs teams players => exact .done rfl

theorem Indexed.perform (indexed : t.Indexed) (call : TreeCall) : (call.perform t).2.Indexed := by
  cases call with
  | addStage s built => exact indexed.addStage built.indexed
  | inStage id call =>
      exact indexed.amend (IndexedStage.id_perform call) (fun _ held => held.perform call) id _
  | enroll clubs teams players => exact indexed

theorem indexed_run (name : String) (calls : List TreeCall) :
    (Calls.run TreeCall.perform calls (new name)).Indexed :=
  Calls.run_preserves (fun call _ indexed => indexed.perform call) calls .empty

end Tree

end Tourney
