import Mathlib.Data.Set.List
import Tourney.Proofs.Dependency.Exact
import Tourney.Proofs.Resolution.Cycles

/-!
# Names tell apart

Groups, matches and references are known by their texts in the dependency graph and in the path of a
cycle. No identifier has a colon or a brace, so different groups, matches and references have different
texts (`names_tell_apart`). A path that is cut where a text occurs first is cut where the reference does
(`Competition.cycleError_eq_cut`), and the nodes and edges of the graph are those of the groups and
matches themselves (`DependencyGraph.exists_nodes`, `DependencyGraph.dependsOn_text`).
-/

namespace Tourney

variable {stage group fixture stage' group' fixture' : Ident}

/-! ## Names of nodes -/

theorem groupNode_inj :
    groupNode stage group = groupNode stage' group' ↔ stage = stage' ∧ group = group' := by
  constructor
  · intro same
    have nodes := Node.text_injective (m := ⟨stage, group, none⟩) (n := ⟨stage', group', none⟩) same
    simpa using nodes
  · rintro ⟨rfl, rfl⟩
    rfl

theorem matchNode_inj :
    matchNode stage group fixture = matchNode stage' group' fixture' ↔
      stage = stage' ∧ group = group' ∧ fixture = fixture' := by
  constructor
  · intro same
    have nodes := Node.text_injective (m := ⟨stage, group, some fixture⟩)
      (n := ⟨stage', group', some fixture'⟩) same
    simpa using nodes
  · rintro ⟨rfl, rfl, rfl⟩
    rfl

theorem groupNode_ne_matchNode : groupNode stage group ≠ matchNode stage' group' fixture := by
  intro same
  have nodes := Node.text_injective (m := ⟨stage, group, none⟩)
    (n := ⟨stage', group', some fixture⟩) same
  simp at nodes

/-- References have the same node if they ask for the same match, or both for the same group. -/
theorem Reference.node_inj {r r' : Reference} : r.node = r'.node ↔ r.subject = r'.subject := by
  rw [← r.text_subject, ← r'.text_subject]
  exact ⟨fun same => Node.text_injective same, congrArg Node.text⟩

/-! ## Nodes and edges of the graph -/

namespace DependencyGraph

variable {stages : List Stage} {graph : DependencyGraph} {x : String}

theorem Listed.foldl {α : Type} {step : DependencyGraph → α → DependencyGraph}
    (keeps : ∀ graph y, graph.Listed → (step graph y).Listed) (listed : graph.Listed)
    (ys : List α) : (ys.foldl step graph).Listed :=
  List.foldlRecOn ys step listed fun graph h y _ => keeps graph y h

theorem Listed.addSlot (stage group : Ident) (listed : graph.Listed) (h : HeldSlot) :
    (addSlot stage group graph h).Listed := by
  unfold DependencyGraph.addSlot
  split
  · exact listed
  · exact listed.addEdge _ _

theorem Listed.addGroup (stage : Ident) (listed : graph.Listed) (g : Group) :
    (addGroup stage graph g).Listed := by
  have games := (listed.addNode (groupNode stage g.id)).foldl
    (fun graph (m : Match) h => h.addEdge (groupNode stage g.id) (matchNode stage g.id m.id)) g.games
  exact games.foldl (fun graph held h => h.addSlot stage g.id held) g.heldSlots

theorem listed_ofStages (stages : List Stage) : (ofStages stages).Listed := by
  have empty : empty.Listed := ⟨List.nodup_nil, fun a b h => by cases h⟩
  refine empty.foldl (fun graph s h => ?_) stages
  exact h.foldl (fun graph g h => h.addGroup s.id g) s.groups

theorem exists_node_of_mem (mem : x ∈ (ofStages stages).nodes) : ∃ n : Node, n.text = x := by
  obtain ⟨s, -, g, -, rfl | ⟨a, b, -, rfl | rfl⟩⟩ := mem_nodes_ofStages.mp mem
  · exact ⟨⟨s.id, g.id, none⟩, rfl⟩
  · exact ⟨a, rfl⟩
  · exact ⟨b, rfl⟩

/-- The texts in the graph are those of different nodes, each at the place of its node. -/
theorem exists_nodes (stages : List Stage) :
    ∃ nodes : List Node, nodes.Nodup ∧ (ofStages stages).nodes = nodes.map Node.text ∧
      ∀ n : Node, (ofStages stages).index? n.text = nodes.idxOf? n := by
  have named : (ofStages stages).nodes ∈ Set.range (List.map Node.text) := by
    rw [Set.range_list_map]
    exact fun x mem => exists_node_of_mem mem
  obtain ⟨nodes, written⟩ := named
  have once := (listed_ofStages stages).once
  rw [← written] at once
  refine ⟨nodes, once.of_map _, written.symm, fun n => ?_⟩
  rw [index?, ← written]
  exact idxOf?_map_of_injective (fun _ _ => Node.text_injective) n nodes

/-- One text depends on another exactly if the node of the one waits for the node of the other. -/
theorem dependsOn_text {a b : Node} :
    (ofStages stages).DependsOn a.text b.text ↔
      ∃ s ∈ stages, ∃ g ∈ s.groups, g.WaitsFor s.id a b := by
  rw [dependsOn_ofStages]
  constructor
  · rintro ⟨s, hs, g, hg, a', b', waits, same, same'⟩
    obtain rfl := Node.text_injective same
    obtain rfl := Node.text_injective same'
    exact ⟨s, hs, g, hg, waits⟩
  · rintro ⟨s, hs, g, hg, waits⟩
    exact ⟨s, hs, g, hg, a, b, waits, rfl, rfl⟩

end DependencyGraph

/-- Whatever they are called and whatever position is asked for, different references are written
differently, and so are different groups, different matches, and a group and a match. To cut the path
of a cycle by texts is to cut it by references. In the graph of any stages, a text stands at the place
of the one node that it is written for, and depends on another text exactly if that node waits for the
other one. -/
theorem names_tell_apart :
    (∀ r r' : Reference, r.text = r'.text ↔ r = r') ∧
      (∀ stage group stage' group', groupNode stage group = groupNode stage' group' ↔
        stage = stage' ∧ group = group') ∧
      (∀ stage group m stage' group' m',
        matchNode stage group m = matchNode stage' group' m' ↔
          stage = stage' ∧ group = group' ∧ m = m') ∧
      (∀ stage group stage' group' m, groupNode stage group ≠ matchNode stage' group' m) ∧
      (∀ r r' : Reference, r.node = r'.node ↔ r.subject = r'.subject) ∧
      (∀ path r, Competition.cycleError path r =
        .cycle (((path ++ [r]).drop ((path ++ [r]).idxOf r)).map (·.text))) ∧
      ∀ stages : List Stage,
        (∃ nodes : List Node, nodes.Nodup ∧
          (DependencyGraph.ofStages stages).nodes = nodes.map Node.text ∧
            ∀ n : Node, (DependencyGraph.ofStages stages).index? n.text = nodes.idxOf? n) ∧
        ∀ a b : Node, (DependencyGraph.ofStages stages).DependsOn a.text b.text ↔
          ∃ s ∈ stages, ∃ g ∈ s.groups, g.WaitsFor s.id a b := by
  refine ⟨fun r r' => ⟨fun same => Reference.text_injective same, congrArg _⟩, ?_, ?_, ?_, ?_, ?_, ?_⟩
  · exact fun _ _ _ _ => groupNode_inj
  · exact fun _ _ _ _ _ _ => matchNode_inj
  · exact fun _ _ _ _ _ => groupNode_ne_matchNode
  · exact fun _ _ => Reference.node_inj
  · exact Competition.cycleError_eq_cut
  · intro stages
    exact ⟨DependencyGraph.exists_nodes stages, fun a b => DependencyGraph.dependsOn_text⟩

end Tourney
