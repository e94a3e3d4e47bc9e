import Tourney.Dependency.Placement
import Tourney.Proofs.Dependency.Acyclic
import Tourney.Proofs.Ident
import Tourney.Proofs.Lookup

/-!
# What waits for what

A node stands for a whole group or for one match, and its text names it: identifiers have no colons,
so different nodes have different texts (`Node.text_injective`). A group waits for its matches and
for what its final positions refer to, a match for what its own slots refer to
(`Group.WaitsFor`). These are exactly the edges of the dependency graph (`dependsOn_ofStages`).
-/

namespace Tourney

/-! ## Texts of nodes -/

structure Node where
  stage : Ident
  group : Ident
  fixture : Option Ident
deriving DecidableEq

namespace Node

def text (n : Node) : String :=
  match n.fixture with
  | some m => matchNode n.stage n.group m
  | none => groupNode n.stage n.group

/-- The identifiers that the name is made of. -/
def fields (n : Node) : List Ident :=
  n.stage :: n.group :: n.fixture.toList

theorem toList_text (n : Node) :
    n.text.toList = [':'].intercalate (n.fields.map (·.text.toList)) := by
  obtain ⟨s, g, m⟩ := n
  cases m <;> simp [text, fields, matchNode, groupNode, List.intercalate]

theorem text_injective {m n : Node} (h : m.text = n.text) : m = n := by
  have same : m.fields = n.fields := by
    refine Ident.eq_of_intercalate_eq (List.cons_ne_nil _ _) (List.cons_ne_nil _ _) ?_
    rw [← toList_text, ← toList_text, h]
  obtain ⟨s, g, m⟩ := m
  obtain ⟨s', g', m'⟩ := n
  simp only [fields, List.cons.injEq] at same
  obtain ⟨rfl, rfl, same⟩ := same
  cases m <;> cases m' <;> simp_all

end Node

def Reference.subject (r : Reference) : Node :=
  ⟨r.stage, r.group, r.target.fixture?⟩

@[simp] theorem Reference.text_subject (r : Reference) : r.subject.text = r.node := by
  obtain ⟨s, g, t⟩ := r
  cases t <;> rfl

def HeldSlot.subject (stage group : Ident) (h : HeldSlot) : Node :=
  ⟨stage, group, h.holder.map (·.2)⟩

@[simp] theorem HeldSlot.text_subject (stage group : Ident) (h : HeldSlot) :
    (h.subject stage group).text = h.owner stage group := by
  obtain ⟨_ | ⟨_, _⟩, _⟩ := h <;> rfl

/-! ## Held slots -/

namespace Group

variable {g : Group} {h : HeldSlot} {s : TeamSlot}

end Group

/-! ## The edges of the graph -/

/-- What waits directly for what in a group of a stage. -/
inductive Group.WaitsFor (stage : Ident) (g : Group) : Node → Node → Prop
  | game {m : Match} : m ∈ g.games → WaitsFor stage g ⟨stage, g.id, none⟩ ⟨stage, g.id, some m.id⟩
  | slot {h : HeldSlot} {r : Reference} : h ∈ g.heldSlots → h.slot = .reference r →
      WaitsFor stage g (h.subject stage g.id) r.subject

/-- A fold adds what each of its steps adds. -/
theorem foldl_adds {α σ : Type} {step : σ → α → σ} {P : σ → Prop} {adds : α → Prop}
    (h : ∀ s x, P (step s x) ↔ P s ∨ adds x) (xs : List α) (s : σ) :
    P (xs.foldl step s) ↔ P s ∨ ∃ x ∈ xs, adds x := by
  induction xs generalizing s with
  | nil => simp
  | cons x xs ih => rw [List.foldl_cons, ih, h, List.exists_mem_cons_iff, or_assoc]

namespace DependencyGraph

variable {a b : String}

theorem dependsOn_addNode (graph : DependencyGraph) (node : String) :
    (graph.addNode node).DependsOn a b ↔ graph.DependsOn a b := by
  unfold addNode
  split <;> rfl

theorem dependsOn_addEdge (graph : DependencyGraph) (x y : String) :
    (graph.addEdge x y).DependsOn a b ↔ graph.DependsOn a b ∨ x = a ∧ y = b := by
  have edges : (graph.addEdge x y).edges = ⟨x, y⟩ :: graph.edges := by
    simp only [addEdge, addNode]
    split <;> split <;> rfl
  simp only [DependsOn, edges, List.mem_cons, Dependency.mk.injEq]
  rw [or_comm, eq_comm (a := a), eq_comm (a := b)]

theorem dependsOn_addSlot (stage group : Ident) (graph : DependencyGraph) (h : HeldSlot) :
    (addSlot stage group graph h).DependsOn a b ↔
      graph.DependsOn a b ∨
        ∃ r, h.slot = .reference r ∧ h.owner stage group = a ∧ r.node = b := by
  unfold addSlot
  split
  · next hs => simp [hs]
  · next r hs => simp [hs, dependsOn_addEdge]

theorem dependsOn_foldl {α : Type} {step : DependencyGraph → α → DependencyGraph}
    {adds : α → Prop} (h : ∀ graph x, (step graph x).DependsOn a b ↔ graph.DependsOn a b ∨ adds x)
    (xs : List α) (graph : DependencyGraph) :
    (xs.foldl step graph).DependsOn a b ↔ graph.DependsOn a b ∨ ∃ x ∈ xs, adds x :=
  foldl_adds (P := fun graph => graph.DependsOn a b) h xs graph

theorem dependsOn_addGroup (stage : Ident) (graph : DependencyGraph) (g : Group) :
    (addGroup stage graph g).DependsOn a b ↔
      graph.DependsOn a b ∨ ∃ m n : Node, g.WaitsFor stage m n ∧ m.text = a ∧ n.text = b := by
  simp only [addGroup]
  rw [dependsOn_foldl fun graph h => dependsOn_addSlot stage g.id graph h,
    dependsOn_foldl fun graph (m : Match) => dependsOn_addEdge graph _ (matchNode stage g.id m.id),
    dependsOn_addNode, or_assoc]
  refine or_congr_right ?_
  constructor
  · rintro (⟨m, hm, ha, hb⟩ | ⟨h, hh, r, hr, ha, hb⟩)
    · exact ⟨_, _, .game hm, ha, hb⟩
    · exact ⟨_, _, .slot hh hr, by simpa using ha, by simpa using hb⟩
  · rintro ⟨m, n, h, ha, hb⟩
    cases h with
    | game hm => exact .inl ⟨_, hm, ha, hb⟩
    | slot hh hr => exact .inr ⟨_, hh, _, hr, by simpa using ha, by simpa using hb⟩

theorem dependsOn_ofStages {stages : List Stage} :
    (ofStages stages).DependsOn a b ↔
      ∃ s ∈ stages, ∃ g ∈ s.groups, ∃ m n : Node,
        g.WaitsFor s.id m n ∧ m.text = a ∧ n.text = b := by
  have stage (graph : DependencyGraph) (s : Stage) :
      (addStage graph s).DependsOn a b ↔
        graph.DependsOn a b ∨ ∃ g ∈ s.groups, ∃ m n : Node,
          g.WaitsFor s.id m n ∧ m.text = a ∧ n.text = b :=
    dependsOn_foldl (fun graph g => dependsOn_addGroup s.id graph g) s.groups graph
  have start : ¬ empty.DependsOn a b := List.not_mem_nil
  rw [ofStages, dependsOn_foldl stage]
  exact or_iff_right start

end DependencyGraph

end Tourney
