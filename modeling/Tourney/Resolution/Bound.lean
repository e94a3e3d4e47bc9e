import Tourney.Competition.Basic

/-!
# A bound on following references

A group points to its own slots only, and these are slots of the competition. So every reference
that is followed below the first is one that the competition holds. Each of them joins the path,
which holds no reference twice, and one more on it leaves fewer that can still join it
(`Competition.countP_notMem_add_lt`).
-/

namespace Tourney

/-! ## Slots that a group points to -/

namespace Group

theorem mem_games_of_getMatch {g : Group} {id : Ident} {m : Match} (h : g.getMatch id = .ok m) :
    m ∈ g.games := by
  unfold getMatch at h
  split at h
  · next found =>
      cases h
      exact List.mem_of_find?_eq_some found
  · cases h

theorem slot_mem_slots_of_mem {g : Group} {m : Match} (h : m ∈ g.games) (side : Side) :
    m.slot side ∈ g.slots := by
  refine List.mem_append_left _ (List.mem_flatMap.mpr ⟨m, h, ?_⟩)
  cases side <;> simp [Match.slot, Match.slots]

theorem slot_mem_slots_of_decided {g : Group} {m : Match} {side : Match → Except Error Side}
    {s : TeamSlot} (h : m ∈ g.games) (hs : decidedSlot m side = .ok (.slot s)) : s ∈ g.slots := by
  unfold decidedSlot at hs
  cases hside : side m with
  | error e => simp [hside, bind, Except.bind] at hs
  | ok d =>
      simp only [hside, bind, Except.bind, pure, Except.pure, Except.ok.injEq,
        Source.slot.injEq] at hs
      subst hs
      exact slot_mem_slots_of_mem h d

theorem slot_mem_slots_of_matchSource {g : Group} {getMatch : Ident → Except Error Match}
    {r : Reference} {id : Ident} {side : Match → Except Error Side} {s : TeamSlot}
    (members : ∀ {m}, getMatch id = .ok m → m ∈ g.games)
    (h : matchSourceVia getMatch r id side = .ok (.slot s)) : s ∈ g.slots := by
  unfold matchSourceVia at h
  cases hm : getMatch id with
  | error e => simp [hm, bind, Except.bind] at h
  | ok m =>
      simp only [hm, bind, Except.bind] at h
      split at h
      · exact slot_mem_slots_of_decided (members hm) h
      · cases h

/-- A group that points to a slot points to one of its own. -/
theorem slot_mem_slots_of_source {g : Group} {r : Reference} {s : TeamSlot}
    (h : g.source r = .ok (.slot s)) : s ∈ g.slots := by
  unfold source at h
  split at h
  · exact slot_mem_slots_of_matchSource mem_games_of_getMatch h
  · exact slot_mem_slots_of_matchSource mem_games_of_getMatch h
  · split at h
    · cases h
    · split at h
      · unfold leagueSource at h
        split at h <;> cases h
      · cases h
  · split at h
    · cases h
    · split at h
      · unfold leagueSource at h
        split at h <;> cases h
      · unfold crossoverSource at h
        split at h
        · cases h
        · next hm =>
            split at h
            · exact slot_mem_slots_of_decided (List.mem_of_getElem? hm) h
            · cases h
      · next standing hk =>
          unfold knockoutSource at h
          split at h
          · cases h
          · next hs =>
              split at h
              · cases h
                refine List.mem_append_right _ ?_
                simpa [Group.standing, hk] using List.mem_of_getElem? hs
              · cases h

theorem slot_mem_slots_of_leagueMatches {g : Group} {m : Match} (h : m ∈ g.leagueMatches)
    (side : Side) : m.slot side ∈ g.slots :=
  slot_mem_slots_of_mem (List.mem_filter.mp h).1 side

/-- The slots that are looked up to answer from a source. -/
inductive Queries (g : Group) : Source → TeamSlot → Prop
  | slot (s : TeamSlot) : Queries g (.slot s) s
  | row {config : LeagueConfig} {n : Nat} {m : Match} (counted : m ∈ g.leagueMatches) (side : Side) :
      Queries g (.row config n) (m.slot side)

theorem Queries.mem_slots {g : Group} {source : Source} {s : TeamSlot}
    (queries : g.Queries source s) (own : ∀ s, source = .slot s → s ∈ g.slots) : s ∈ g.slots := by
  cases queries with
  | slot s => exact own s rfl
  | row counted side => exact slot_mem_slots_of_leagueMatches counted side

end Group

namespace Competition

theorem mem_slots_of_getGroup {c : Competition} {stage group : Ident} {g : Group}
    (h : c.getGroup stage group = .ok g) {s : TeamSlot} (hs : s ∈ g.slots) : s ∈ c.slots := by
  unfold getGroup getStage at h
  split at h
  · next st found =>
      simp only [bind, Except.bind, Stage.getGroup] at h
      split at h
      · next found' =>
          cases h
          refine List.mem_flatMap.mpr ⟨st, List.mem_of_find?_eq_some found, ?_⟩
          exact List.mem_flatMap.mpr ⟨_, List.mem_of_find?_eq_some found', hs⟩
      · cases h
  · simp [bind, Except.bind] at h

/-! ## The bound -/

theorem countP_notMem_append_lt {rs path : List Reference} {r : Reference} (hr : r ∈ rs)
    (hp : r ∉ path) : rs.countP (· ∉ path ++ [r]) < rs.countP (· ∉ path) := by
  induction rs with
  | nil => cases hr
  | cons q rs ih =>
      have mono : rs.countP (· ∉ path ++ [r]) ≤ rs.countP (· ∉ path) :=
        List.countP_mono_left fun x _ hx => by simp_all
      rw [List.countP_cons, List.countP_cons]
      rcases List.mem_cons.mp hr with rfl | hr
      · have after : decide (r ∉ path ++ [r]) = false := by simp
        have before : decide (r ∉ path) = true := by simpa using hp
        simp only [after, before, Bool.false_eq_true, ↓reduceIte]
        omega
      · have := ih hr
        by_cases hq : q ∈ path
        · have after : decide (q ∉ path ++ [r]) = false := by simp [hq]
          simp only [after, Bool.false_eq_true, ↓reduceIte]
          omega
        · have before : decide (q ∉ path) = true := by simpa using hq
          simp only [before, ↓reduceIte]
          split <;> omega

/-- One more reference on the path leaves fewer that can still join it. -/
theorem countP_notMem_add_lt {rs path : List Reference} {r next : Reference} (hp : r ∉ path)
    (hn : next ∈ rs) :
    rs.countP (· ∉ path ++ [r]) + (if next ∈ rs then 0 else 1) <
      rs.countP (· ∉ path) + if r ∈ rs then 0 else 1 := by
  by_cases hr : r ∈ rs
  · have := countP_notMem_append_lt hr hp
    simp only [hn, hr, ↓reduceIte]
    omega
  · have : rs.countP (· ∉ path ++ [r]) ≤ rs.countP (· ∉ path) :=
      List.countP_mono_left fun x _ hx => by simp_all
    simp only [hn, hr, ↓reduceIte]
    omega

theorem mem_references {c : Competition} {r : Reference} (h : .reference r ∈ c.slots) :
    r ∈ c.references :=
  List.mem_filterMap.mpr ⟨_, h, rfl⟩

end Competition

end Tourney
