import Mathlib.Data.List.Nodup
import Tourney.Competition.Basic

/-!
# Looking up by identifier

A lookup that succeeds returns what is found first under an identifier, and it succeeds exactly for
the identifiers that occur. Where identifiers are unique (`Competition.UniqueIds`), everything is
found under its own.
-/

namespace Tourney

/-! ## Lists with keys -/

theorem key_of_find? {α : Type} {key : α → Ident} {xs : List α} {id : Ident} {x : α}
    (h : xs.find? (key · == id) = some x) : key x = id := by
  simpa using List.find?_some h

theorem map_putFirst {α κ : Type} [DecidableEq κ] (key : α → κ) (x : α) (xs : List α) :
    (putFirst key x xs).map key = xs.map key := by
  induction xs with
  | nil => rfl
  | cons y ys ih =>
      rw [putFirst]
      split
      · next same => rw [List.map_cons, List.map_cons, same]
      · rw [List.map_cons, List.map_cons, ih]

theorem mem_of_mem_putFirst {α κ : Type} [DecidableEq κ] {key : α → κ} {x y : α} {xs : List α}
    (mem : y ∈ putFirst key x xs) : y = x ∨ y ∈ xs := by
  induction xs with
  | nil => cases mem
  | cons z zs ih =>
      rw [putFirst] at mem
      split at mem
      · exact (List.mem_cons.mp mem).imp_right (List.mem_cons_of_mem z)
      · rcases List.mem_cons.mp mem with rfl | mem
        · exact .inr List.mem_cons_self
        · exact (ih mem).imp_right (List.mem_cons_of_mem z)

theorem map_putFirst_content {α β κ : Type} [DecidableEq κ] {key : α → κ} {key' : β → κ}
    {content : α → β} (same : ∀ x, key' (content x) = key x) (x : α) (xs : List α) :
    (putFirst key x xs).map content = putFirst key' (content x) (xs.map content) := by
  induction xs with
  | nil => rfl
  | cons y ys ih =>
      rw [putFirst, List.map_cons, putFirst, same, same]
      split
      · rfl
      · rw [List.map_cons, ih]

theorem exists_putFirst_split {α : Type} {key : α → Ident} {xs : List α} {id : Ident} {x x' : α}
    (found : xs.find? (key · == id) = some x) (same : key x' = key x) :
    ∃ before after, xs = before ++ x :: after ∧ putFirst key x' xs = before ++ x' :: after := by
  obtain ⟨under, before, after, rfl, others⟩ := List.find?_eq_some_iff_append.mp found
  refine ⟨before, after, rfl, ?_⟩
  clear found
  induction before with
  | nil => rw [List.nil_append, putFirst, if_pos same.symm, List.nil_append]
  | cons y ys ih =>
      obtain ⟨other, rest⟩ := List.forall_mem_cons.mp others
      have apart : key y ≠ key x' := by
        rw [same]
        simp_all
      rw [List.cons_append, putFirst, if_neg apart, ih rest, List.cons_append]

section Places

variable {α β : Type} [BEq α] [LawfulBEq α] [BEq β] [LawfulBEq β] {f : α → β}

theorem beq_comp_of_injective (inj : Function.Injective f) (a : α) : (· == f a) ∘ f = (· == a) := by
  funext b
  rw [Function.comp_apply, Bool.eq_iff_iff, beq_iff_eq, beq_iff_eq, inj.eq_iff]

theorem idxOf_map_of_injective (inj : Function.Injective f) (a : α) (xs : List α) :
    (xs.map f).idxOf (f a) = xs.idxOf a := by
  rw [List.idxOf, List.findIdx_map, beq_comp_of_injective inj]
  rfl

theorem idxOf?_map_of_injective (inj : Function.Injective f) (a : α) (xs : List α) :
    (xs.map f).idxOf? (f a) = xs.idxOf? a := by
  rw [List.idxOf?, List.findIdx?_map, beq_comp_of_injective inj]
  rfl

end Places

theorem nodup_eraseDups {α : Type} [DecidableEq α] : (xs : List α) → xs.eraseDups.Nodup
  | [] => List.nodup_nil
  | x :: rest => by
      rw [List.eraseDups_cons, List.nodup_cons]
      refine ⟨fun again => ?_, nodup_eraseDups _⟩
      simpa using List.mem_eraseDups.mp again
termination_by xs => xs.length
decreasing_by exact Nat.lt_succ_of_le (List.length_filter_le _ _)

/-! ## Groups and matches -/

namespace Group

variable {g : Group} {id : Ident} {m : Match}

theorem getMatch_eq_ok : g.getMatch id = .ok m ↔ g.findMatch? id = some m := by
  unfold getMatch
  split <;> simp_all

theorem mem_games : m ∈ g.games ↔ Entry.fixture m ∈ g.entries := by
  simp only [games, List.mem_filterMap]
  constructor
  · rintro ⟨e, mem, he⟩
    cases e with
    | fixture m' => cases he; exact mem
    | pause b => cases he
  · exact fun mem => ⟨_, mem, rfl⟩

theorem mem_games_iff_getElem? : m ∈ g.games ↔ ∃ k : Nat, g.entries[k]? = some (.fixture m) := by
  rw [mem_games, List.mem_iff_getElem?]

theorem mem_games_of_findMatch? (h : g.findMatch? id = some m) : m ∈ g.games :=
  List.mem_of_find?_eq_some h

theorem id_of_findMatch? (h : g.findMatch? id = some m) : m.id = id :=
  key_of_find? h

theorem exists_findMatch? : (∃ m, g.findMatch? id = some m) ↔ ∃ m ∈ g.games, m.id = id := by
  rw [← Option.isSome_iff_exists, findMatch?, List.find?_isSome]
  simp

theorem entryIndex?_of_findMatch? (h : g.findMatch? id = some m) :
    ∃ k, g.entryIndex? id = some k ∧ g.entries[k]? = some (.fixture m) := by
  rw [findMatch?, games, List.find?_filterMap] at h
  obtain ⟨e, he, hm⟩ := Option.bind_eq_some_iff.mp h
  obtain ⟨found, k, hk, rfl, before⟩ := List.find?_eq_some_iff_getElem.mp he
  refine ⟨k, List.findIdx?_eq_some_iff_getElem.mpr ⟨hk, found, ?_⟩, ?_⟩
  · intro j hj
    simpa using before j hj
  · rw [List.getElem?_eq_getElem hk]
    cases he : g.entries[k] with
    | fixture m' => simp_all [Entry.match?]
    | pause b => simp_all [Entry.match?]

end Group

/-! ## Stages -/

namespace Stage

variable {s : Stage} {id : Ident} {g : Group}

theorem getGroup_eq_ok : s.getGroup id = .ok g ↔ s.findGroup? id = some g := by
  unfold getGroup
  split <;> simp_all

/-- A group is appended if its identifier is new. -/
theorem addGroup_eq_ok {s' : Stage} :
    s.addGroup g = .ok s' ↔ s.hasGroup g.id = false ∧ { s with groups := s.groups ++ [g] } = s' := by
  unfold addGroup
  split <;> simp_all

theorem mem_of_findGroup? (h : s.findGroup? id = some g) : g ∈ s.groups :=
  List.mem_of_find?_eq_some h

theorem id_of_findGroup? (h : s.findGroup? id = some g) : g.id = id :=
  key_of_find? h

end Stage

namespace Competition

variable {c : Competition} {stage group : Ident} {g : Group}

theorem getStage_eq_ok {s : Stage} : c.getStage stage = .ok s ↔ c.findStage? stage = some s := by
  unfold getStage
  split <;> simp_all

theorem getGroup_eq_ok :
    c.getGroup stage group = .ok g ↔
      ∃ s, c.findStage? stage = some s ∧ s.findGroup? group = some g := by
  unfold getGroup getStage
  cases c.findStage? stage <;> simp [bind, Except.bind, Stage.getGroup_eq_ok]

theorem getGroup_eq_error {e : Error} (h : c.getGroup stage group = .error e) :
    e = .unknownStage stage.text ∨ e = .unknownGroup stage.text group.text := by
  unfold getGroup getStage at h
  split at h
  · next s found =>
      have id : s.id = stage := key_of_find? found
      simp only [bind, Except.bind, Stage.getGroup] at h
      split at h
      · cases h
      · cases h
        exact .inr (by rw [id])
  · cases h
    exact .inl rfl

theorem exists_stage_of_getGroup (h : c.getGroup stage group = .ok g) :
    ∃ s ∈ c.stages, s.id = stage ∧ g ∈ s.groups ∧ g.id = group := by
  obtain ⟨s, hs, hg⟩ := getGroup_eq_ok.mp h
  exact ⟨s, List.mem_of_find?_eq_some hs, key_of_find? hs, Stage.mem_of_findGroup? hg,
    Stage.id_of_findGroup? hg⟩

end Competition

/-! ## Unique identifiers -/

/-- No two matches of the group have the same identifier. -/
def Group.UniqueIds (g : Group) : Prop :=
  (g.games.map (·.id)).Nodup

/-- No two groups of the stage have the same identifier, and no two matches of one of them. -/
def Stage.UniqueIds (s : Stage) : Prop :=
  (s.groups.map (·.id)).Nodup ∧ ∀ g ∈ s.groups, g.UniqueIds

/-- Identifiers of stages, groups and matches are unique in their scopes. -/
def Competition.UniqueIds (c : Competition) : Prop :=
  (c.stages.map (·.id)).Nodup ∧ ∀ s ∈ c.stages, s.UniqueIds

instance (g : Group) : Decidable g.UniqueIds :=
  inferInstanceAs (Decidable (List.Nodup _))

instance (s : Stage) : Decidable s.UniqueIds :=
  inferInstanceAs (Decidable (List.Nodup _ ∧ ∀ g ∈ s.groups, g.UniqueIds))

instance (c : Competition) : Decidable c.UniqueIds :=
  inferInstanceAs (Decidable (List.Nodup _ ∧ ∀ s ∈ c.stages, s.UniqueIds))

/-- An element of a list of unique identifiers is the one that is found under its own. -/
theorem find?_id_eq_some {α : Type} {key : α → Ident} {xs : List α} (unique : (xs.map key).Nodup)
    {x : α} (mem : x ∈ xs) : xs.find? (key · == key x) = some x := by
  cases h : xs.find? (key · == key x) with
  | none => simpa using List.find?_eq_none.mp h x mem
  | some y =>
      have same : key y = key x := key_of_find? h
      rw [List.inj_on_of_nodup_map unique (List.mem_of_find?_eq_some h) mem same]

/-- Identifiers stay unique when something is put at the end under an identifier where nothing is
found. -/
theorem nodup_map_concat {α : Type} {key : α → Ident} {xs : List α} {x : α}
    (unique : (xs.map key).Nodup) (fresh : (xs.find? (key · == key x)).isSome = false) :
    ((xs ++ [x]).map key).Nodup := by
  have absent : ∀ y ∈ xs, key y ≠ key x := by simpa using fresh
  rw [List.map_append, List.map_singleton, List.nodup_append]
  refine ⟨unique, List.nodup_singleton _, fun id mem id' mem' same => ?_⟩
  obtain ⟨y, hy, rfl⟩ := List.mem_map.mp mem
  exact absent y hy (same.trans (List.mem_singleton.mp mem'))

theorem Stage.UniqueIds.findGroup? {s : Stage} (unique : s.UniqueIds) {g : Group}
    (mem : g ∈ s.groups) : s.findGroup? g.id = some g :=
  find?_id_eq_some unique.1 mem

theorem Group.UniqueIds.findMatch? {g : Group} (unique : g.UniqueIds) {m : Match}
    (mem : m ∈ g.games) : g.findMatch? m.id = some m :=
  find?_id_eq_some unique mem

theorem Group.UniqueIds.entryIndex? {g : Group} (unique : g.UniqueIds) {k : Nat} {m : Match}
    (h : g.entries[k]? = some (.fixture m)) : g.entryIndex? m.id = some k := by
  obtain ⟨l, hl, hm⟩ :=
    entryIndex?_of_findMatch? (unique.findMatch? (mem_games_iff_getElem?.mpr ⟨k, h⟩))
  have apart : g.entries.Pairwise fun e e' => ∀ m, e.match? = some m →
      ∀ m', e'.match? = some m' → m.id ≠ m'.id := by
    rw [← List.pairwise_filterMap]
    exact List.pairwise_map.mp unique
  rw [List.pairwise_iff_getElem] at apart
  obtain ⟨hkl, hke⟩ := List.getElem?_eq_some_iff.mp h
  obtain ⟨hll, hle⟩ := List.getElem?_eq_some_iff.mp hm
  rcases Nat.lt_trichotomy k l with hlt | rfl | hlt
  · exact absurd rfl (apart k l hkl hll hlt m (by rw [hke]; rfl) m (by rw [hle]; rfl))
  · exact hl
  · exact absurd rfl (apart l k hll hkl hlt m (by rw [hle]; rfl) m (by rw [hke]; rfl))

end Tourney
