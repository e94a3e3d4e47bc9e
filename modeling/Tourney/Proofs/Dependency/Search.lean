import Mathlib.Data.List.Nodup
import Tourney.Proofs.Dependency.Nodes
import Tourney.Proofs.Traversal

/-!
# The search finds a cycle where there is one

While the search runs, every node is still fresh, on the chain, or settled: from a settled node no
way along what depends on it goes on forever, so none leads back to it (`Searched`). A node is
settled when the search is done with everything that depends on it. So a search that ends without a
report has settled every node, and one that ends with a report has closed a part of its chain
(`IsCycle`).
-/

namespace Tourney

namespace DependencyGraph

open Relation (TransGen)

variable {g : DependencyGraph} {fresh left inner : List String} {chain : List Frame}
  {node next x : String} {pending path : List String}

/-! ## Reported cycles -/

/-- A path from a node back to itself on which each node depends on the one before it, and no node
comes twice before the end. -/
structure IsCycle (depends : String → String → Prop) (path : List String) : Prop where
  long : 2 ≤ path.length
  closed : path.head? = path.getLast?
  distinct : path.dropLast.Nodup
  linked : path.IsChain fun x y => depends y x

/-- The closed path runs from a node of the chain inwards. -/
theorem closedPath_eq (mem : next ∈ chain.map (·.node)) :
    ∃ outer after, (chain.map (·.node)).reverse = outer ++ next :: after ∧
      closedPath chain next = next :: after ++ [next] := by
  obtain ⟨outer, after, split, first⟩ :=
    List.eq_append_cons_of_mem (List.mem_reverse.mpr mem)
  refine ⟨outer, after, split, ?_⟩
  have others : ∀ x ∈ outer, (x != next) = true := by
    intro x hx
    simpa using fun same : x = next => first (same ▸ hx)
  rw [closedPath, List.map_reverse, split, List.dropWhile_append_of_pos others]
  simp

/-- A node of the chain that depends on the innermost one closes a cycle. -/
theorem isCycle_closedPath
    (linked : ((⟨node, pending⟩ :: chain : List Frame).map (·.node)).IsChain g.DependsOn)
    (distinct : ((⟨node, pending⟩ :: chain : List Frame).map (·.node)).Nodup)
    (mem : next ∈ (⟨node, pending⟩ :: chain : List Frame).map (·.node))
    (depends : g.DependsOn next node) :
    IsCycle g.DependsOn (closedPath (⟨node, pending⟩ :: chain) next) := by
  obtain ⟨outer, after, split, path⟩ := closedPath_eq mem
  have innermost : (next :: after).getLast? = some node := by
    have last := congrArg List.getLast? split
    simpa using last.symm
  have inwards : (next :: after) <:+ ((⟨node, pending⟩ :: chain : List Frame).map (·.node)).reverse :=
    split ▸ List.suffix_append outer (next :: after)
  rw [path]
  constructor
  case long => simp
  case closed =>
    rw [List.getLast?_concat]
    rfl
  case distinct =>
    rw [List.dropLast_concat]
    exact (List.nodup_reverse.mpr distinct).sublist inwards.sublist
  case linked =>
    refine List.isChain_append.mpr ⟨?_, List.isChain_singleton _, ?_⟩
    · exact (List.isChain_reverse.mpr linked).suffix inwards
    · intro x hx y hy
      obtain rfl : node = x := by simpa [innermost] using hx
      obtain rfl : next = y := by simpa using hy
      exact depends

/-! ## What has been searched -/

/-- No way from the node along what depends on it goes on forever. -/
abbrev Settled (g : DependencyGraph) (node : String) : Prop :=
  Acc g.DependsOn node

theorem Settled.not_transGen (h : g.Settled node) : ¬ TransGen g.DependsOn node node := by
  have far : Acc (TransGen g.DependsOn) node := h.transGen
  clear h
  induction far with
  | intro x _ ih => exact fun cycle => ih x cycle cycle

/-- Whatever depends on a node of the chain is pending there, further in, or settled. -/
def Waits (g : DependencyGraph) (inner : List String) : List Frame → Prop
  | [] => True
  | f :: chain =>
      (∀ x, g.DependsOn x f.node → x ∈ f.pending ∨ x ∈ inner ∨ g.Settled x) ∧
        g.Waits (f.node :: inner) chain

theorem Waits.of_settled {inner' : List String} (h : g.Waits inner chain)
    (sub : ∀ x ∈ inner, x ∈ inner' ∨ g.Settled x) : g.Waits inner' chain := by
  induction chain generalizing inner inner' with
  | nil => trivial
  | cons f chain ih =>
      obtain ⟨first, rest⟩ := h
      refine ⟨fun x hx => ?_, ih rest fun x hx => ?_⟩
      · rcases first x hx with pending | further | settled
        · exact .inl pending
        · exact .inr (sub x further)
        · exact .inr (.inr settled)
      · rcases List.mem_cons.mp hx with rfl | hx
        · exact .inl List.mem_cons_self
        · exact (sub x hx).imp_left (List.mem_cons_of_mem _)

/-- A search that has missed nothing: each node is fresh, on the chain once, or settled. -/
structure Searched (g : DependencyGraph) (fresh : List String) (chain : List Frame) : Prop where
  freshOnce : fresh.Nodup
  chainOnce : (chain.map (·.node)).Nodup
  apart : ∀ x ∈ chain.map (·.node), x ∉ fresh
  settled : ∀ x, x ∉ fresh → x ∉ chain.map (·.node) → g.Settled x
  waits : g.Waits [] chain

namespace Searched

theorem settled_innermost (h : g.Searched fresh (⟨node, []⟩ :: chain)) : g.Settled node := by
  refine Acc.intro node fun x hx => ?_
  rcases h.waits.1 x hx with pending | further | settled
  · cases pending
  · cases further
  · exact settled

theorem tail (h : g.Searched fresh (⟨node, []⟩ :: chain)) : g.Searched fresh chain where
  freshOnce := h.freshOnce
  chainOnce := (List.nodup_cons.mp h.chainOnce).2
  apart x hx := h.apart x (List.mem_cons_of_mem _ hx)
  settled x notFresh notOn := by
    by_cases same : x = node
    · exact same ▸ h.settled_innermost
    · exact h.settled x notFresh fun on => (List.mem_cons.mp on).elim same notOn
  waits := by
    refine h.waits.2.of_settled fun x hx => .inr ?_
    obtain rfl := List.mem_singleton.mp hx
    exact h.settled_innermost

theorem skip (h : g.Searched fresh (⟨node, next :: pending⟩ :: chain)) (notFresh : next ∉ fresh)
    (notOn : next ∉ node :: chain.map (·.node)) : g.Searched fresh (⟨node, pending⟩ :: chain) where
  freshOnce := h.freshOnce
  chainOnce := h.chainOnce
  apart := h.apart
  settled := h.settled
  waits := by
    refine ⟨fun x hx => ?_, h.waits.2⟩
    rcases h.waits.1 x hx with here | further | settled
    · rcases List.mem_cons.mp here with rfl | here
      · exact .inr (.inr (h.settled x notFresh notOn))
      · exact .inl here
    · exact .inr (.inl further)
    · exact .inr (.inr settled)

theorem push (h : g.Searched fresh (⟨node, next :: pending⟩ :: chain)) (isFresh : next ∈ fresh) :
    g.Searched (fresh.erase next) (⟨next, g.dependents next⟩ :: ⟨node, pending⟩ :: chain) where
  freshOnce := h.freshOnce.erase next
  chainOnce := List.nodup_cons.mpr ⟨fun on => h.apart next on isFresh, h.chainOnce⟩
  apart := by
    intro x hx
    rcases List.mem_cons.mp hx with rfl | hx
    · exact h.freshOnce.not_mem_erase
    · exact fun still => h.apart x hx (List.mem_of_mem_erase still)
  settled := by
    intro x notFresh notOn
    obtain ⟨other, notOn⟩ := not_or.mp (mt List.mem_cons.mpr notOn)
    exact h.settled x (fun was => notFresh ((List.mem_erase_of_ne other).mpr was)) notOn
  waits := by
    refine ⟨fun x hx => .inl (mem_dependents.mpr hx), fun x hx => ?_, ?_⟩
    · rcases h.waits.1 x hx with here | further | settled
      · rcases List.mem_cons.mp here with rfl | here
        · exact .inr (.inl List.mem_cons_self)
        · exact .inl here
      · cases further
      · exact .inr (.inr settled)
    · refine h.waits.2.of_settled fun x hx => .inl ?_
      obtain rfl := List.mem_singleton.mp hx
      exact List.mem_cons_self

theorem start (h : g.Searched fresh []) (isFresh : node ∈ fresh) :
    g.Searched (fresh.erase node) [⟨node, g.dependents node⟩] where
  freshOnce := h.freshOnce.erase node
  chainOnce := List.nodup_singleton node
  apart := by
    intro x hx
    obtain rfl := List.mem_singleton.mp hx
    exact h.freshOnce.not_mem_erase
  settled := by
    intro x notFresh notOn
    have other : x ≠ node := fun same => notOn (List.mem_singleton.mpr same)
    exact h.settled x (fun was => notFresh ((List.mem_erase_of_ne other).mpr was)) List.not_mem_nil
  waits := ⟨fun x hx => .inl (mem_dependents.mpr hx), trivial⟩

end Searched

/-! ## The end of the search -/

theorem searched_of_explore (h : g.Searched fresh chain) (found : g.explore fresh chain = .ok left) :
    g.Searched left [] ∧ left ⊆ fresh := by
  fun_induction explore g fresh chain with
  | case1 fresh =>
      cases found
      exact ⟨h, List.Subset.refl _⟩
  | case2 _ _ _ ih => exact ih h.tail found
  | case3 _ _ _ _ _ isFresh ih =>
      obtain ⟨searched, sub⟩ := ih (h.push isFresh) found
      exact ⟨searched, fun x hx => List.mem_of_mem_erase (sub hx)⟩
  | case4 => cases found
  | case5 _ _ _ _ _ notFresh notOn ih => exact ih (h.skip notFresh notOn) found

theorem isCycle_of_explore (follows : g.Follows chain) (h : g.Searched fresh chain)
    (found : g.explore fresh chain = .error path) : IsCycle g.DependsOn path := by
  fun_induction explore g fresh chain with
  | case1 => cases found
  | case2 _ _ _ ih => exact ih follows.tail h.tail found
  | case3 _ _ _ _ _ isFresh ih => exact ih follows.push (h.push isFresh) found
  | case4 _ node next pending chain _ onChain =>
      -- The next node is on the chain already and depends on the innermost one.
      cases found
      have depends := follows.pending _ List.mem_cons_self next List.mem_cons_self
      exact isCycle_closedPath follows.linked h.chainOnce onChain depends
  | case5 _ _ _ _ _ notFresh notOn ih => exact ih follows.skip (h.skip notFresh notOn) found

theorem settled_of_exploreAll {nodes : List String} (h : g.Searched fresh [])
    (found : g.exploreAll nodes fresh = .ok ()) : ∀ x ∈ nodes, g.Settled x := by
  induction nodes generalizing fresh with
  | nil => exact fun x hx => absurd hx List.not_mem_nil
  | cons node rest ih =>
      rw [List.forall_mem_cons]
      unfold exploreAll at found
      split at found
      · next isFresh =>
          obtain ⟨left, explored, found⟩ := bind_eq_ok.mp found
          obtain ⟨searched, sub⟩ := searched_of_explore (h.start isFresh) explored
          have done : node ∉ left := fun still => h.freshOnce.not_mem_erase (sub still)
          exact ⟨searched.settled node done List.not_mem_nil, ih searched found⟩
      · next notFresh => exact ⟨h.settled node notFresh List.not_mem_nil, ih h found⟩

theorem isCycle_of_exploreAll {nodes : List String} (h : g.Searched fresh [])
    (found : g.exploreAll nodes fresh = .error path) : IsCycle g.DependsOn path := by
  induction nodes generalizing fresh with
  | nil => cases found
  | cons node rest ih =>
      unfold exploreAll at found
      split at found
      · next isFresh =>
          cases explored : g.explore (fresh.erase node) [⟨node, g.dependents node⟩] with
          | error path' =>
              simp only [explored, bind, Except.bind, Except.error.injEq] at found
              exact found ▸ isCycle_of_explore (.start g node) (h.start isFresh) explored
          | ok left =>
              simp only [explored, bind, Except.bind] at found
              exact ih (searched_of_explore (h.start isFresh) explored).1 found
      · exact ih h found

/-! ## Graphs that are recorded step by step -/

/-- A step in recording a graph: a node is named, or one node is said to depend on another. -/
inductive Step
  | node (name : String)
  | edge (dependent dependsOn : String)
deriving DecidableEq

def Step.apply (g : DependencyGraph) : Step → DependencyGraph
  | .node name => g.addNode name
  | .edge dependent dependsOn => g.addEdge dependent dependsOn

/-- The graph after steps one after another. -/
def recorded (steps : List Step) : DependencyGraph :=
  steps.foldl Step.apply empty

/-- Each node is listed once, and whatever something depends on is listed. -/
structure Listed (g : DependencyGraph) : Prop where
  once : g.nodes.Nodup
  named : ∀ a b, g.DependsOn a b → b ∈ g.nodes

theorem mem_nodes_addNode : x ∈ (g.addNode node).nodes ↔ x ∈ g.nodes ∨ x = node := by
  unfold addNode
  split
  · next named =>
      have : node ∈ g.nodes := List.contains_iff_mem.mp named
      grind
  · simp

theorem mem_nodes_addEdge : x ∈ (g.addEdge node next).nodes ↔ x ∈ g.nodes ∨ x = node ∨ x = next := by
  rw [← or_assoc, ← mem_nodes_addNode, ← mem_nodes_addNode]
  rfl

namespace Listed

theorem addNode (h : g.Listed) (node : String) : (g.addNode node).Listed where
  once := by
    unfold DependencyGraph.addNode
    split
    · exact h.once
    · next new =>
        have notMem : node ∉ g.nodes := fun mem => new (List.contains_iff_mem.mpr mem)
        exact List.nodup_append.mpr ⟨h.once, List.nodup_singleton node, by grind⟩
  named a b hab := by
    rw [dependsOn_addNode] at hab
    exact mem_nodes_addNode.mpr (.inl (h.named a b hab))

theorem addEdge (h : g.Listed) (dependent dependsOn : String) :
    (g.addEdge dependent dependsOn).Listed where
  once := ((h.addNode dependent).addNode dependsOn).once
  named a b hab := by
    refine mem_nodes_addEdge.mpr ?_
    rcases (dependsOn_addEdge g dependent dependsOn).mp hab with before | ⟨-, rfl⟩
    · exact .inl (h.named a b before)
    · exact .inr (.inr rfl)

theorem recorded (steps : List Step) : (recorded steps).Listed := by
  refine List.foldlRecOn steps Step.apply ⟨List.nodup_nil, fun a b h => ?_⟩ fun g h step _ => ?_
  · cases h
  · cases step with
    | node name => exact h.addNode name
    | edge dependent dependsOn => exact h.addEdge dependent dependsOn

/-- Before the search every node is fresh, and what is no node has nothing that depends on it. -/
theorem searched (h : g.Listed) : g.Searched g.nodes [] where
  freshOnce := h.once
  chainOnce := List.nodup_nil
  apart _ hx := by cases hx
  settled x notNode _ := Acc.intro x fun y hy => absurd (h.named y x hy) notNode
  waits := trivial

theorem acyclic_of_checkAcyclic (h : g.Listed) (found : g.checkAcyclic = .ok ()) : g.Acyclic := by
  intro node cycle
  have searched : g.exploreAll g.nodes g.nodes = .ok () := by
    cases all : g.exploreAll g.nodes g.nodes with
    | ok done => rfl
    | error path => simp [checkAcyclic, all, Except.mapError] at found
  have listed : node ∈ g.nodes := by
    cases cycle with
    | single depends => exact h.named _ _ depends
    | tail _ depends => exact h.named _ _ depends
  exact (settled_of_exploreAll h.searched searched node listed).not_transGen cycle

theorem isCycle_of_checkAcyclic (h : g.Listed) {e : Error} (found : g.checkAcyclic = .error e) :
    ∃ path, e = .cycle path ∧ IsCycle g.DependsOn path := by
  cases all : g.exploreAll g.nodes g.nodes with
  | ok done => simp [checkAcyclic, all, Except.mapError] at found
  | error path =>
      simp only [checkAcyclic, all, Except.mapError, Except.error.injEq] at found
      exact ⟨path, found.symm, isCycle_of_exploreAll h.searched all⟩

end Listed

def Says (steps : List Step) (a b : String) : Prop :=
  .edge a b ∈ steps

theorem dependsOn_recorded {steps : List Step} {a b : String} :
    (recorded steps).DependsOn a b ↔ Says steps a b := by
  have step (g : DependencyGraph) (s : Step) :
      (Step.apply g s).DependsOn a b ↔ g.DependsOn a b ∨ s = .edge a b := by
    cases s with
    | node name => simp [Step.apply, dependsOn_addNode]
    | edge dependent dependsOn => simp [Step.apply, dependsOn_addEdge]
  have start : ¬ empty.DependsOn a b := List.not_mem_nil
  rw [recorded, dependsOn_foldl step, or_iff_right start]
  simp [Says]

/-- Whatever is recorded, the search accepts exactly the graphs in which no node depends on itself,
directly or not, and it refuses any other with a cycle of recorded dependencies. -/
theorem checkAcyclic_recorded (steps : List Step) :
    ((recorded steps).checkAcyclic = .ok () ↔ ∀ node, ¬ TransGen (Says steps) node node) ∧
      ∀ e, (recorded steps).checkAcyclic = .error e →
        ∃ path, e = .cycle path ∧ IsCycle (Says steps) path := by
  have same : (recorded steps).DependsOn = Says steps := by
    funext a b
    exact propext dependsOn_recorded
  have listed := Listed.recorded steps
  constructor
  · constructor
    · intro found
      exact same ▸ listed.acyclic_of_checkAcyclic found
    · intro acyclic
      exact checkAcyclic_ok fun node => same ▸ acyclic node
  · intro e found
    exact same ▸ listed.isCycle_of_checkAcyclic found

/-- A cycle of two nodes, entered from a third one that something else leads to. -/
def detour : List Step :=
  [.edge "Y" "X", .edge "A" "Y", .edge "B" "A", .edge "A" "B", .edge "B" "A", .node "Z"]

theorem checkAcyclic_detour :
    (recorded detour).checkAcyclic = .error (.cycle ["A", "B", "A"]) := by
  cbv

theorem detour_reports_cycle :
    (recorded detour).checkAcyclic = .error (.cycle ["A", "B", "A"]) ∧
      ∃ path, Error.cycle ["A", "B", "A"] = .cycle path ∧ IsCycle (Says detour) path :=
  ⟨checkAcyclic_detour, (checkAcyclic_recorded detour).2 _ checkAcyclic_detour⟩

end DependencyGraph

end Tourney
