import Tourney.Proofs.Competition.Tree

/-!
# Indexes under access

A match, a group or a stage that is accessed may be changed to anything. The indexes stay right
exactly if what stands there afterwards has the identifier under which it was found, and is in order
itself (`Tree.Indexed.access_iff`). So they are right in every competition that is put together by
calls and accessed in this way (`Tree.Reached.indexed`).
-/

namespace Tourney

/-! ## Matches -/

namespace Group

theorem entryIndex?_of_map_id {g g' : Group} (same : g'.entries.map Entry.id? = g.entries.map Entry.id?)
    (id : Ident) : g'.entryIndex? id = g.entryIndex? id := by
  have keys (g : Group) : g.entryIndex? id = (g.entries.map Entry.id?).findIdx? (·.any (· == id)) := by
    rw [List.findIdx?_map, entryIndex?]
    congr 1
    funext e
    cases e <;> rfl
  rw [keys, keys, same]

theorem uniqueIds_of_map_id {g g' : Group} (same : g'.entries.map Entry.id? = g.entries.map Entry.id?)
    (unique : g.UniqueIds) : g'.UniqueIds := by
  have keys (g : Group) : g.games.map (·.id) = (g.entries.map Entry.id?).filterMap fun own => own := by
    rw [games, List.map_filterMap, List.filterMap_map]
    rfl
  rwa [UniqueIds, keys, same, ← keys]

end Group

namespace IndexedGroup.Indexed

variable {g : IndexedGroup} {m : Match} {id : Ident} {change : Match → Match}

/-- The index of the matches stays right exactly if a match that is accessed keeps its identifier. -/
theorem access_iff (indexed : g.Indexed) (found : g.getMatch id = .ok m) :
    (g.access id change).2.Indexed ↔ (change m).id = id := by
  rw [indexed.getMatch, Group.getMatch_eq_ok] at found
  obtain ⟨n, place, held⟩ := Group.entryIndex?_of_findMatch? found
  have located : g.places id = some n := (indexed.places id).trans place
  have accessed : (g.access id change).2 =
      { g with entries := g.entries.set n (.fixture (change m)) } := by
    simp only [access, Places.amend, located, held]
  obtain ⟨hn, stands⟩ := List.getElem?_eq_some_iff.mp held
  rw [accessed]
  constructor
  · intro after
    have place' := (after.places id).symm.trans located
    obtain ⟨hn', under, -⟩ := List.findIdx?_eq_some_iff_getElem.mp place'
    simpa [Entry.match?] using under
  · intro named
    have ids : (g.entries.set n (.fixture (change m))).map Entry.id? = g.entries.map Entry.id? := by
      have length : n < (g.entries.map Entry.id?).length := by rwa [List.length_map]
      have listed : (g.entries.map Entry.id?)[n] = some id := by
        rw [List.getElem_map, stands, Entry.id?, Entry.match?, Option.map_some,
          Group.id_of_findMatch? found]
      rw [List.map_set, Entry.id?, Entry.match?, Option.map_some, named, ← listed,
        List.set_getElem_self]
    exact ⟨fun id => (indexed.places id).trans (Group.entryIndex?_of_map_id ids id).symm,
      Group.uniqueIds_of_map_id ids indexed.unique⟩

theorem access (indexed : g.Indexed) (keeps : ∀ m, (change m).id = m.id) (id : Ident) :
    (g.access id change).2.Indexed := by
  cases found : g.getMatch id with
  | ok m =>
      refine (indexed.access_iff found).mpr ((keeps m).trans ?_)
      exact Group.id_of_findMatch? (Group.getMatch_eq_ok.mp ((indexed.getMatch id).symm.trans found))
  | error e =>
      have absent : g.places id = none := by
        rw [indexed.getMatch, Group.getMatch] at found
        split at found
        · cases found
        · next absent =>
            have unknown : (g.toGroup.entryIndex? id).isSome = false := by
              rw [Group.isSome_entryIndex?, Group.hasMatch, absent, Option.isSome_none]
            rw [indexed.places]
            simpa using unknown
      rw [IndexedGroup.access, Places.amend, absent]
      exact indexed

end IndexedGroup.Indexed

/-! ## Groups and stages -/

/-- The index of the groups stays right, and so are those of all groups, exactly if a group that is
accessed keeps its identifier and has its own index right. -/
theorem IndexedStage.Indexed.access_iff {s : IndexedStage} {g : IndexedGroup} {id : Ident}
    {change : IndexedGroup → Except Error Unit × IndexedGroup} (indexed : s.Indexed)
    (found : s.getGroup id = .ok g) :
    (s.access id change).2.Indexed ↔ (change g).2.id = id ∧ (change g).2.Indexed :=
  InStep.amend_iff indexed (IndexedStage.getGroup_eq_ok.mp found) _

namespace Tree

variable {t : Tree}

/-- The index of the stages stays right, and so are all others, exactly if a stage that is accessed
keeps its identifier and has its own indexes right. -/
theorem Indexed.access_iff {s : IndexedStage} {id : Ident}
    {change : IndexedStage → Except Error Unit × IndexedStage} (indexed : t.Indexed)
    (found : t.getStage id = .ok s) :
    (t.access id change).2.Indexed ↔ (change s).2.id = id ∧ (change s).2.Indexed :=
  InStep.amend_iff indexed (getStage_eq_ok.mp found) _

/-- The competition results from calls, successful or failing, and from access to its stages in which
they keep their identifiers and have their own indexes right. -/
inductive Reached : Tree → Prop
  | new (name : String) : Reached (.new name)
  | call {t : Tree} (call : TreeCall) : Reached t → Reached (call.perform t).2
  | access {t : Tree} {change : IndexedStage → Except Error Unit × IndexedStage} (id : Ident)
      (keeps : ∀ s, (change s).2.id = s.id) (sound : ∀ s, s.Indexed → (change s).2.Indexed) :
      Reached t → Reached (t.access id change).2

theorem Reached.accessGroup {change : IndexedGroup → Except Error Unit × IndexedGroup}
    (reached : t.Reached) (stage group : Ident) (keeps : ∀ g, (change g).2.id = g.id)
    (sound : ∀ g, g.Indexed → (change g).2.Indexed) : (t.accessGroup stage group change).2.Reached :=
  reached.access stage (fun _ => rfl) fun _ indexed => InStep.amend indexed keeps sound group _

/-- Whatever is changed in a match but its identifier. -/
theorem Reached.accessMatch {change : Match → Match} (reached : t.Reached) (stage group id : Ident)
    (keeps : ∀ m, (change m).id = m.id) : (t.accessMatch stage group id change).2.Reached :=
  reached.accessGroup stage group (fun _ => rfl) fun _ indexed => indexed.access keeps id

theorem Reached.indexed (reached : t.Reached) : t.Indexed := by
  induction reached with
  | new name => exact .empty
  | call call _ ih => exact ih.perform call
  | access id keeps sound _ ih => exact InStep.amend ih keeps sound id _

end Tree

end Tourney
