import Tourney.Proofs.Competition.Recording
import Tourney.Proofs.Competition.Structure
import Tourney.Proofs.Resolution.Reads

/-!
# Answers stay

A team is found only from matches that are complete: a group answers for a match that is complete,
or for a rank or position once all of its matches are. So whatever happens afterwards to matches
that were pending then, the answer stays. This needs no validation and holds along any references,
cycles among them.
-/

namespace Tourney

namespace Competition

variable {c c' : Competition} {g g' : Group} {r : Reference} {t : Ident}

/-- A later competition has the same complete matches, and maybe more. -/
def Later (c c' : Competition) : Prop :=
  c.Alike (fun _ _ m m' => m.isComplete = true → m = m') c'

theorem agreeOn_of_source {source : Group.Source} (pointed : g.source r = .ok source)
    (alike : g.Alike (fun m m' => m.isComplete = true → m = m') g') :
    Group.AgreeOn r.target g g' := by
  unfold Group.AgreeOn
  rcases Group.complete_of_source pointed with ⟨id, m, named, found, complete⟩ | ⟨unnamed, complete⟩
  · rw [named]
    refine ⟨alike.id, ?_⟩
    rcases alike.findMatch? id with ⟨none, -⟩ | ⟨m₁, m', hm, hm', -, same⟩
    · simp [none] at found
    · obtain rfl := Option.some.inj (found.symm.trans hm)
      rw [hm, hm', same complete]
  · rw [unnamed]
    exact alike.eq fun m mem m' _ same => same (List.all_eq_true.mp complete m mem)

/-- A reference that leads to a team leads to it later, along the same path. -/
theorem Later.follow_eq_ok (later : c.Later c') {path : List Reference}
    (h : c.follow path r = .ok t) : c'.follow path r = .ok t := by
  induction path, r using follow_induct (c := c) generalizing t with
  | step path r ih =>
      obtain ⟨fresh, g, found, source, pointed, answer⟩ := Competition.follow_eq_ok.mp h
      rcases later.getGroup r.stage r.group with ⟨e, he, -⟩ | ⟨g₁, g', hg, hg', -, alike⟩
      · simp [he] at found
      obtain rfl := Except.ok.inj (found.symm.trans hg)
      have agree := agreeOn_of_source pointed alike
      refine Competition.follow_eq_ok.mpr
        ⟨fresh, g', hg', source, agree.source_eq ▸ pointed, ?_⟩
      rw [← answerVia_eq_of_agreeOn agree pointed]
      refine answerVia_ok_of_ok (fun s queries t ht => ?_) answer
      cases s with
      | literal id => rwa [lookupVia_literal, ← later.registered, ← lookupVia_literal]
      | reference next => exact ih g next fresh found (queries.reads pointed) ht

theorem Later.resolve_eq_ok (later : c.Later c') {s : TeamSlot} (h : c.resolve s = .ok t) :
    c'.resolve s = .ok t := by
  cases s with
  | literal id => rwa [resolve_literal, ← later.registered, ← resolve_literal]
  | reference r => exact later.follow_eq_ok h

theorem later_run {ops : List ScoreOp} (pending : ∀ op ∈ ops, op.Pending c) :
    c.Later (ScoreOp.run ops c) := by
  refine (Alike.refl (fun _ _ _ _ => rfl) c).run fun op mem m m' found _ complete => ?_
  simp [pending op mem m found] at complete

/-- An expression that stands for a team still stands for it after any operations, successful or
failing, on matches that were pending before. -/
theorem teamId_run {expression : String} (h : c.teamId expression = .ok t) {ops : List ScoreOp}
    (pending : ∀ op ∈ ops, op.Pending c) : (ScoreOp.run ops c).teamId expression = .ok t := by
  obtain ⟨s, parsed, found⟩ := bind_eq_ok.mp h
  exact bind_eq_ok.mpr ⟨s, parsed, (later_run pending).resolve_eq_ok found⟩

end Competition

namespace SmallCup

def openerExpression : String := "\x7bL:P:M1:winner\x7d"

theorem teamId_openerExpression : cup.teamId openerExpression = .ok teamA := by
  have parsed : TeamSlot.parse lookupContext openerExpression =
      .ok (.reference ⟨pools, pool, .winner opener⟩) := rfl
  refine bind_eq_ok.mpr ⟨_, parsed, Competition.follow_eq_ok.mpr ?_⟩
  exact ⟨List.not_mem_nil, league, rfl, .slot (.literal teamA), rfl, rfl⟩

/-- The final is recorded, refused, recorded under other rules and cleared. -/
def finalOps : List ScoreOp :=
  [⟨finals, final, final, .record [⟨25, 20⟩, ⟨25, 20⟩, ⟨25, 20⟩]⟩,
    ⟨finals, final, final, .record []⟩,
    ⟨finals, final, final, .recordPartialUnder ⟨.standard, .continuous, true⟩ [⟨3, 2⟩]⟩,
    ⟨finals, final, final, .clear⟩]

theorem finalOps_pending : ∀ op ∈ finalOps, op.Pending cup := by
  have address : ∀ op ∈ finalOps, op.stage = finals ∧ op.group = final ∧ op.fixture = final := by
    decide
  intro op mem m hm
  obtain ⟨stage, group, fixture⟩ := address op mem
  rw [stage, group, fixture] at hm
  cases hm
  rfl

theorem teamId_openerExpression_run :
    cup.teamId openerExpression = .ok teamA ∧ (∀ op ∈ finalOps, op.Pending cup) ∧
      (ScoreOp.run finalOps cup).teamId openerExpression = .ok teamA :=
  ⟨teamId_openerExpression, finalOps_pending,
    Competition.teamId_run teamId_openerExpression finalOps_pending⟩

end SmallCup

end Tourney
