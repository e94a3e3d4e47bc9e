import Mathlib.Data.List.Forall2
import Tourney.Competition.Registers
import Tourney.Proofs.Lookup

/-!
# Competitions that differ in what is recorded

Two competitions are alike when they differ at most in the scores and states of their matches. How
far these may differ is a parameter of `Competition.Alike`: a relation between the two matches at
each place. What is looked up in one of the two is found at the same place in the other.
-/

namespace Tourney

theorem find?_of_forall₂ {α : Type} {R : α → α → Prop} {p q : α → Bool} {xs ys : List α}
    (h : List.Forall₂ R xs ys) (same : ∀ x y, R x y → p x = q y) :
    xs.find? p = none ∧ ys.find? q = none ∨
      ∃ x y, xs.find? p = some x ∧ ys.find? q = some y ∧ R x y := by
  induction h with
  | nil => exact .inl ⟨rfl, rfl⟩
  | @cons x y xs ys hxy _ ih =>
      rw [List.find?_cons, List.find?_cons, ← same x y hxy]
      cases p x with
      | true => exact .inr ⟨x, y, rfl, rfl, hxy⟩
      | false => exact ih

/-! ## Matches -/

namespace Match

variable {m m' : Match}

theorem id_eq_of_clear (h : m.clear = m'.clear) : m.id = m'.id :=
  (congrArg Match.id h : m.clear.id = m'.clear.id)

theorem slots_eq_of_clear (h : m.clear = m'.clear) : m.slots = m'.slots :=
  (congrArg Match.slots h : m.clear.slots = m'.clear.slots)

end Match

/-! ## The relations -/

/-- The same break, or two matches that differ at most in what is recorded, as far as allowed. -/
inductive Entry.Alike (R : Match → Match → Prop) : Entry → Entry → Prop
  | fixture {m m' : Match} : m.clear = m'.clear → R m m' → Alike R (.fixture m) (.fixture m')
  | pause (b : Break) : Alike R (.pause b) (.pause b)

structure Group.Alike (R : Match → Match → Prop) (g g' : Group) : Prop where
  entries : List.Forall₂ (Entry.Alike R) g.entries g'.entries
  rest : { g with entries := [] } = { g' with entries := [] }

structure Stage.Alike (R : Ident → Match → Match → Prop) (s s' : Stage) : Prop where
  groups : List.Forall₂ (fun g g' => g.Alike (R g.id) g') s.groups s'.groups
  rest : { s with groups := [] } = { s' with groups := [] }

/-- Two competitions that differ at most in what is recorded for their matches. The relation allowed
between two matches may depend on their stage and group. -/
structure Competition.Alike (R : Ident → Ident → Match → Match → Prop) (c c' : Competition) :
    Prop where
  stages : List.Forall₂ (fun s s' => s.Alike (R s.id) s') c.stages c'.stages
  rest : { c with stages := [] } = { c' with stages := [] }

/-! ## What alike groups have in common -/

namespace Group.Alike

variable {R : Match → Match → Prop} {g g' : Group}

theorem id (h : Alike R g g') : g.id = g'.id := by
  have rest := h.rest
  simp only [Group.mk.injEq] at rest
  exact rest.1

theorem standing (h : Alike R g g') : g.standing = g'.standing := by
  have rest := h.rest
  simp only [Group.mk.injEq] at rest
  simp only [Group.standing, rest]

theorem games (h : Alike R g g') :
    List.Forall₂ (fun m m' => m.clear = m'.clear ∧ R m m') g.games g'.games := by
  refine List.rel_filterMap ?_ h.entries
  intro e e' he
  cases he with
  | fixture same allowed => exact .some ⟨same, allowed⟩
  | pause b => exact .none

theorem findMatch? (h : Alike R g g') (id : Ident) :
    g.findMatch? id = none ∧ g'.findMatch? id = none ∨
      ∃ m m', g.findMatch? id = some m ∧ g'.findMatch? id = some m' ∧ m.clear = m'.clear ∧ R m m' :=
  find?_of_forall₂ h.games fun m m' hm => by rw [Match.id_eq_of_clear hm.1]

/-- Alike groups are equal if the matches of the first are not allowed to differ. -/
theorem eq (h : Alike R g g')
    (same : ∀ m ∈ g.games, ∀ m', m.clear = m'.clear → R m m' → m = m') : g = g' := by
  have equal : ∀ e ∈ g.entries, ∀ e', Entry.Alike R e e' → e = e' := by
    intro e mem e' he
    cases he with
    | fixture clear allowed => rw [same _ (mem_games.mpr mem) _ clear allowed]
    | pause b => rfl
  have entries : List.Forall₂ (· = ·) g.entries g'.entries :=
    List.forall₂_iff_get.mpr ⟨h.entries.length_eq, fun i hi hi' =>
      equal _ (List.get_mem _ _) _ (h.entries.get hi hi')⟩
  obtain ⟨⟩ := g
  obtain ⟨⟩ := g'
  cases List.forall₂_eq_eq_eq ▸ entries
  simpa using h.rest

end Group.Alike

namespace Stage.Alike

variable {R : Ident → Match → Match → Prop} {s s' : Stage}

theorem id (h : s.Alike R s') : s.id = s'.id := by
  have rest := h.rest
  simp only [Stage.mk.injEq] at rest
  exact rest.1

theorem findGroup? (h : s.Alike R s') (id : Ident) :
    s.findGroup? id = none ∧ s'.findGroup? id = none ∨
      ∃ g g', s.findGroup? id = some g ∧ s'.findGroup? id = some g' ∧ g.id = id ∧
        g.Alike (R id) g' := by
  have search := find?_of_forall₂ (p := (·.id == id)) (q := (·.id == id)) h.groups
    fun g g' hg => by rw [hg.id]
  rcases search with none | ⟨g, g', hg, hg', alike⟩
  · exact .inl none
  · have found : g.id = id := id_of_findGroup? hg
    exact .inr ⟨g, g', hg, hg', found, found ▸ alike⟩

end Stage.Alike

/-! ## Looking up in alike competitions -/

namespace Competition.Alike

variable {R : Ident → Ident → Match → Match → Prop} {c c' : Competition} {stage group : Ident}

theorem hasTeam (h : c.Alike R c') (id : Ident) : c.hasTeam id = c'.hasTeam id := by
  have rest := h.rest
  simp only [Competition.mk.injEq] at rest
  simp only [Competition.hasTeam, findTeam?, rest]

theorem findStage? (h : c.Alike R c') (id : Ident) :
    c.findStage? id = none ∧ c'.findStage? id = none ∨
      ∃ s s', c.findStage? id = some s ∧ c'.findStage? id = some s' ∧ s.id = id ∧
        s.Alike (R id) s' := by
  have search := find?_of_forall₂ (p := (·.id == id)) (q := (·.id == id)) h.stages
    fun s s' hs => by rw [hs.id]
  rcases search with none | ⟨s, s', hs, hs', alike⟩
  · exact .inl none
  · have found : s.id = id := key_of_find? hs
    exact .inr ⟨s, s', hs, hs', found, found ▸ alike⟩

/-- Alike competitions have alike groups at an address, or none for the same reason. -/
theorem getGroup (h : c.Alike R c') (stage group : Ident) :
    (∃ e, c.getGroup stage group = .error e ∧ c'.getGroup stage group = .error e) ∨
      ∃ g g', c.getGroup stage group = .ok g ∧ c'.getGroup stage group = .ok g' ∧
        g.id = group ∧ g.Alike (R stage group) g' := by
  unfold Competition.getGroup getStage Stage.getGroup
  rcases h.findStage? stage with ⟨hs, hs'⟩ | ⟨s, s', hs, hs', -, alike⟩
  · rw [hs, hs']
    exact .inl ⟨_, rfl, rfl⟩
  · rw [hs, hs']
    simp only [bind, Except.bind]
    rcases alike.findGroup? group with ⟨hg, hg'⟩ | ⟨g, g', hg, hg', found, alike'⟩
    · rw [hg, hg', alike.id]
      exact .inl ⟨_, rfl, rfl⟩
    · rw [hg, hg']
      exact .inr ⟨g, g', rfl, rfl, found, alike'⟩

end Competition.Alike

end Tourney
