import Tourney.Competition.Draft
import Tourney.Proofs.Competition.Registers
import Tourney.Proofs.Competition.Settling

/-!
# Competitions that grow

A competition that starts empty and is only ever extended, step by step, is valid at every moment:
registers only grow, scores have no part in the structure, and a stage is kept only if the structure
holds with it. A stage that is refused leaves no trace, neither among the stages nor in their index,
so it is as good as never tried (`Draft.addStage_of_built`).
-/

namespace Tourney

/-! ## Edits of a draft -/

/-- A step in which a draft is extended. -/
inductive Edit
  | addClub (club : Club)
  | addTeam (team : Team)
  | setTeamClub (team : Ident) (club : Option Ident)
  | addPlayer (player : Player)
  | addPlayerTeam (player : Ident) (a : Affiliation)
  | addStage (s : Stage)
  | score (op : ScoreOp)

/-- Attempts an edit. Returns whether it succeeded, and the draft as it is then. -/
def Edit.perform (e : Edit) (d : Draft) : Except Error Unit × Draft :=
  match e with
  | .addClub club => d.update (·.addClub club)
  | .addTeam team => d.update (·.addTeam team)
  | .setTeamClub team club => d.update (·.setTeamClub team club)
  | .addPlayer player => d.update (·.addPlayer player)
  | .addPlayerTeam player a => d.update (·.addPlayerTeam player a)
  | .addStage s => d.addStage s
  | .score op => d.update op.attempt

namespace Draft

/-- The draft after edits one after another, successful or failing. -/
def run (edits : List Edit) (d : Draft) : Draft :=
  edits.foldl (fun d e => (e.perform d).2) d

/-- The draft results from edits of one that had nothing but a name. -/
def Built (d : Draft) : Prop :=
  ∃ name edits, d = run edits (.new name)

/-- The index has the first place of every identifier. -/
def Indexed (d : Draft) : Prop :=
  ∀ id, d.places id = d.competition.stages.findIdx? (·.id == id)

structure Sound (d : Draft) : Prop where
  valid : d.competition.validate = .ok ()
  indexed : d.Indexed

variable {d : Draft} {s : Stage}

/-! ## Putting a stage and taking it away -/

theorem Indexed.hasStage (indexed : d.Indexed) (id : Ident) :
    d.hasStage id = d.competition.hasStage id := by
  rw [Draft.hasStage, indexed, Competition.hasStage, Competition.findStage?,
    List.findIdx?_isSome, List.isSome_find?]

theorem pop_push (fresh : d.hasStage s.id = false) : (d.push s).pop = d := by
  have absent : d.places s.id = none := by simpa [Draft.hasStage] using fresh
  have places : (fun id => if id = s.id then none else (d.push s).places id) = d.places := by
    funext id
    by_cases h : id = s.id
    · simp [h, absent]
    · simp [h, push]
  have last : (d.push s).competition.stages.getLast? = some s := by simp [push]
  unfold pop
  rw [last]
  simp only [places]
  simp [push]

theorem check_push :
    (d.push s).check = (do
      (d.push s).competition.checkLiterals s
      discard (d.push s).competition.dependencyGraph) := by
  have last : (d.push s).competition.stages.getLast? = some s := by simp [push]
  unfold check
  rw [last]

/-- Appending in place does what appending does, and a refused stage leaves no trace. -/
theorem Indexed.addStage_eq (indexed : d.Indexed) :
    d.addStage s =
      match d.competition.addStage s with
      | .ok _ => (.ok (), d.push s)
      | .error e => (.error e, d) := by
  unfold Draft.addStage Competition.addStage
  rw [check_push, ← indexed.hasStage]
  cases fresh : d.hasStage s.id with
  | true => rfl
  | false =>
      rw [pop_push fresh]
      simp only [push, Bool.false_eq_true, ↓reduceIte]
      cases Competition.checkLiterals
          { d.competition with stages := d.competition.stages ++ [s] } s with
      | error e => rfl
      | ok u =>
          cases Competition.dependencyGraph
            { d.competition with stages := d.competition.stages ++ [s] } <;> rfl

theorem Indexed.push (indexed : d.Indexed) (fresh : d.hasStage s.id = false) :
    (d.push s).Indexed := by
  have absent : d.competition.stages.findIdx? (·.id == s.id) = none := by
    rw [← indexed]
    simpa [Draft.hasStage] using fresh
  intro id
  simp only [Draft.push, List.findIdx?_append]
  by_cases same : id = s.id
  · subst same
    simp [absent]
  · rw [if_neg same, indexed]
    simp [Ne.symm same]

theorem Indexed.congr {c : Competition} (indexed : d.Indexed)
    (same : c.stages.map (·.id) = d.competition.stages.map (·.id)) :
    ({ d with competition := c } : Draft).Indexed := by
  have places (stages : List Stage) (id : Ident) :
      stages.findIdx? (·.id == id) = (stages.map (·.id)).findIdx? (· == id) := by
    rw [List.findIdx?_map]
    rfl
  intro id
  rw [places, same, ← places, ← indexed]

/-! ## What an edit keeps -/

theorem sound_new (name : String) : (new name).Sound where
  valid := by cbv
  indexed _ := rfl

theorem Sound.addStage (sound : d.Sound) (s : Stage) : (d.addStage s).2.Sound := by
  rw [sound.indexed.addStage_eq]
  cases added : d.competition.addStage s with
  | error e => exact sound
  | ok c =>
      obtain ⟨fresh, valid, rfl⟩ := (Competition.addStage_eq_ok_of_validate sound.valid).mp added
      exact ⟨valid, sound.indexed.push (sound.indexed.hasStage s.id ▸ fresh)⟩

theorem Sound.update (sound : d.Sound) {change : Competition → Except Error Competition}
    (keeps : ∀ c, change d.competition = .ok c →
      c.validate = .ok () ∧ c.stages.map (·.id) = d.competition.stages.map (·.id)) :
    (d.update change).2.Sound := by
  unfold Draft.update
  split
  · next c changed =>
      obtain ⟨valid, same⟩ := keeps c changed
      exact ⟨valid, sound.indexed.congr same⟩
  · exact sound

theorem Sound.enroll (sound : d.Sound) {change : Competition → Except Error Competition}
    (enrolls : ∀ c, change d.competition = .ok c → d.competition.Enrolls c) :
    (d.update change).2.Sound :=
  sound.update fun c h =>
    ⟨(enrolls c h).validate sound.valid, congrArg (List.map (·.id)) (enrolls c h).stages⟩

theorem Sound.perform (sound : d.Sound) (e : Edit) : (e.perform d).2.Sound := by
  cases e with
  | addClub club => exact sound.enroll fun _ => Competition.enrolls_of_addClub
  | addTeam team => exact sound.enroll fun _ => Competition.enrolls_of_addTeam
  | setTeamClub team club => exact sound.enroll fun _ => Competition.enrolls_of_setTeamClub
  | addPlayer player => exact sound.enroll fun _ => Competition.enrolls_of_addPlayer
  | addPlayerTeam player a => exact sound.enroll fun _ => Competition.enrolls_of_addPlayerTeam
  | addStage s => exact sound.addStage s
  | score op =>
      refine sound.update fun c h => ?_
      have cleared := op.cleared_apply d.competition
      rw [ScoreOp.apply, h] at cleared
      constructor
      · rw [← c.validate_cleared, cleared, Competition.validate_cleared, sound.valid]
      · have stages := congrArg (·.stages.map (·.id)) cleared
        simpa [Function.comp_def] using stages

theorem Sound.run (sound : d.Sound) (edits : List Edit) : (run edits d).Sound := by
  induction edits generalizing d with
  | nil => exact sound
  | cons e edits ih => exact ih (sound.perform e)

theorem Built.sound (built : d.Built) : d.Sound := by
  obtain ⟨name, edits, rfl⟩ := built
  exact (sound_new name).run edits

/-- A stage is appended in place if and only if its identifier is new and the competition is valid
with it. -/
theorem Sound.addStage_eq_ok (sound : d.Sound) :
    d.addStage s = (.ok (), d.push s) ↔
      d.competition.hasStage s.id = false ∧ (d.push s).competition.validate = .ok () := by
  rw [sound.indexed.addStage_eq]
  constructor
  · intro h
    cases added : d.competition.addStage s with
    | error e => simp [added] at h
    | ok c =>
        obtain ⟨fresh, valid, rfl⟩ :=
          (Competition.addStage_eq_ok_of_validate sound.valid).mp added
        exact ⟨fresh, valid⟩
  · rintro ⟨fresh, valid⟩
    have added : d.competition.addStage s = .ok (d.push s).competition :=
      (Competition.addStage_eq_ok_of_validate sound.valid).mpr ⟨fresh, valid, rfl⟩
    rw [added]

/-- A competition that has grown from nothing is valid, and its index is right. A stage is put at
its end and nothing else happens, or the stage is refused and nothing happens at all; appending in
place agrees with appending. After a refusal another stage with the same identifier is accepted
exactly if the identifier was new and the competition is valid with that stage. -/
theorem addStage_of_built (built : d.Built) (s : Stage) :
    d.competition.validate = .ok () ∧ d.Indexed ∧
      (d.addStage s = (.ok (), d.push s) ∧
          d.competition.addStage s = .ok (d.push s).competition ∨
        ∃ e, d.addStage s = (.error e, d) ∧ d.competition.addStage s = .error e ∧
          ∀ s' : Stage, s'.id = s.id →
            ((d.addStage s).2.addStage s' = (.ok (), d.push s') ↔
              d.competition.hasStage s.id = false ∧
                (d.push s').competition.validate = .ok ())) := by
  have sound := built.sound
  refine ⟨sound.valid, sound.indexed, ?_⟩
  have inPlace := sound.indexed.addStage_eq (s := s)
  cases added : d.competition.addStage s with
  | ok c =>
      obtain ⟨-, -, rfl⟩ := Competition.addStage_eq_ok.mp added |>.2
      rw [added] at inPlace
      exact .inl ⟨inPlace, rfl⟩
  | error e =>
      rw [added] at inPlace
      refine .inr ⟨e, inPlace, rfl, fun s' same => ?_⟩
      rw [inPlace, ← same]
      exact sound.addStage_eq_ok

end Draft

namespace SmallCup

/-- Two teams without stages. -/
def squad : Draft :=
  Draft.run [.addTeam (.new teamA "A"), .addTeam (.new teamB "B")] (.new "Small cup")

/-- The small cup before its finals are drawn. -/
def draft : Draft :=
  (squad.addStage { Stage.new pools with groups := [league] }).2

/-- Finals between the leader and the winner of the final itself. -/
def misdrawn : Stage :=
  { Stage.new finals with
    groups := [{ knockout with
      entries := [.fixture (.new final (.reference leader)
        (.reference ⟨finals, final, .winner final⟩))] }] }

/-- The finals that were meant. -/
def drawn : Stage :=
  { Stage.new finals with groups := [knockout] }

theorem draft_built : draft.Built :=
  ⟨"Small cup", [.addTeam (.new teamA "A"), .addTeam (.new teamB "B"),
    .addStage { Stage.new pools with groups := [league] }], rfl⟩

theorem draft_competition :
    draft.competition = { cup with stages := [{ Stage.new pools with groups := [league] }] } := by
  have sound : squad.Sound := (Draft.sound_new _).run _
  have added := sound.addStage_eq_ok (s := { Stage.new pools with groups := [league] })
  have valid : ({ cup with stages := [{ Stage.new pools with groups := [league] }] } :
      Competition).validate = .ok () := by cbv
  rw [draft, added.mpr ⟨rfl, valid⟩]
  rfl

theorem misdrawn_then_drawn :
    draft.Built ∧ draft.addStage misdrawn =
        (.error (.invalid (.misplaced "\x7bF:FIN:FIN:winner\x7d" "FIN" "F" .laterMatch)), draft) ∧
      (draft.addStage misdrawn).2.addStage drawn = (.ok (), draft.push drawn) := by
  have refused : draft.competition.addStage misdrawn =
      .error (.invalid (.misplaced "\x7bF:FIN:FIN:winner\x7d" "FIN" "F" .laterMatch)) := by
    rw [draft_competition]
    cbv
  have new : draft.competition.hasStage finals = false := by
    rw [draft_competition]
    rfl
  have valid : (draft.push drawn).competition.validate = .ok () := by
    rw [Draft.push, draft_competition]
    exact cup_valid
  obtain ⟨-, -, ⟨-, accepted⟩ | ⟨e, inPlace, same, again⟩⟩ :=
    Draft.addStage_of_built draft_built misdrawn
  · rw [refused] at accepted
    cases accepted
  · obtain rfl := Except.error.inj (refused.symm.trans same)
    exact ⟨draft_built, inPlace, (again drawn rfl).mpr ⟨new, valid⟩⟩

end SmallCup

end Tourney
