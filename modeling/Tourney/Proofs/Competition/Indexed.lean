import Tourney.Competition.Indexed
import Tourney.Proofs.Call
import Tourney.Proofs.Competition.Growth
import Tourney.Proofs.Competition.Roster

/-!
# Groups and stages in step with their indexes

A group and a stage that are built by calls have their indexes right at every moment (`Indexed`). A
call in place then does what is done where nothing is indexed, or it fails as that does and leaves
everything as it was (`Mirrors`).
-/

namespace Tourney

/-! ## With and without indexes -/

/-- A call in place comes to what is attempted without indexes, or it fails in the same way and
leaves everything as it was. -/
inductive Mirrors {σ τ : Type} (content : σ → τ) (attempted : Except Error τ) (s : σ) :
    Except Error Unit × σ → Prop
  | done {s' : σ} (same : attempted = .ok (content s')) : Mirrors content attempted s (.ok (), s')
  | refused {e : Error} (same : attempted = .error e) : Mirrors content attempted s (.error e, s)

namespace Places.Indexes

variable {α β σ τ : Type} {key : α → Ident} {places : Places} {xs : List α} {id : Ident}
  {missing : Error} {change : α → Except Error Unit × α}

theorem find?_eq (index : places.Indexes key xs) (id : Ident) :
    places.find? xs id = xs.find? (key · == id) := by
  rw [Places.find?, index id, ← List.find?_eq_bind_findIdx?_getElem?]

/-- Nothing is changed where nothing is found, else what is found is put back changed. -/
theorem amend_cases (index : places.Indexes key xs) (keeps : ∀ x, key (change x).2 = key x)
    (id : Ident) (missing : Error) :
    (xs.find? (key · == id) = none ∧
        places.amend xs id missing change = (.error missing, xs)) ∨
      ∃ x, xs.find? (key · == id) = some x ∧
        places.amend xs id missing change = ((change x).1, putFirst key (change x).2 xs) := by
  have found := index.find?_eq id
  cases place : places id with
  | none =>
      rw [Places.find?, place] at found
      exact .inl ⟨found.symm, by rw [Places.amend, place]⟩
  | some n =>
      rw [Places.find?, place] at found
      obtain ⟨x, hx, modified⟩ := modify_eq ((index id).symm.trans place) keeps
      refine .inr ⟨x, hx, ?_⟩
      -- The place in the index is that of the first element with the identifier.
      have held : xs[n]? = some x := found.trans hx
      rw [← modified, Places.amend, place]
      simp only [held]
      rw [List.modify_eq_set_getElem?, held]
      rfl

/-- Where a call on an element mirrors what is attempted on its content, so does the call on the
whole in which the element is changed. -/
theorem amend_mirrors {content : α → β} {attempt : β → Except Error β} {lookup : Except Error β}
    (whole : σ → τ) (put : List α → σ) (put' : β → τ) (index : places.Indexes key xs)
    (keeps : ∀ x, key (change x).2 = key x)
    (mirrors : ∀ x ∈ xs, Mirrors content (attempt (content x)) x (change x))
    (looked : lookup = (xs.find? (key · == id)).elim (.error missing) fun x => .ok (content x))
    (same : ∀ x, whole (put (putFirst key x xs)) = put' (content x)) :
    Mirrors whole (lookup >>= fun y => attempt y >>= fun y' => .ok (put' y')) (put xs)
      ((places.amend xs id missing change).1, put (places.amend xs id missing change).2) := by
  rcases index.amend_cases keeps id missing with ⟨hx, h⟩ | ⟨x, hx, h⟩
  · rw [h, looked, hx]
    exact .refused rfl
  · rw [h, looked, hx, Option.elim]
    have mirrored := mirrors x (List.mem_of_find?_eq_some hx)
    generalize change x = performed at mirrored ⊢
    cases mirrored with
    | @done x' attempted =>
        exact .done (by simp [attempted, bind, Except.bind, same])
    | refused attempted =>
        -- What has failed left the element as it was, so it is put back unchanged.
        rw [putFirst_self (k := id) hx]
        exact .refused (by simp [attempted, bind, Except.bind])

end Places.Indexes

/-- The index of a list is right, no identifier occurs twice in it, and all its elements are in
order. -/
structure InStep {α : Type} (key : α → Ident) (P : α → Prop) (places : Places) (xs : List α) :
    Prop where
  index : places.Indexes key xs
  unique : (xs.map key).Nodup
  all : ∀ x ∈ xs, P x

namespace InStep

variable {α : Type} {key : α → Ident} {P : α → Prop} {places : Places} {xs : List α} {x : α}
  {change : α → Except Error Unit × α}

theorem empty : InStep key P .empty [] where
  index := .empty
  unique := List.nodup_nil
  all _ mem := nomatch mem

theorem concat (h : InStep key P places xs) (held : P x)
    (fresh : (places (key x)).isSome = false) :
    InStep key P (places.insert (key x) xs.length) (xs ++ [x]) where
  index := h.index.concat fresh
  unique := nodup_map_concat h.unique ((h.index.isSome_eq (key x)).symm.trans fresh)
  all := List.forall_mem_append.mpr ⟨h.all, List.forall_mem_singleton.mpr held⟩

/-- New indexes are right where identifiers are unique. -/
theorem fresh (unique : (xs.map key).Nodup) (all : ∀ x ∈ xs, P x) :
    InStep key P (fun id => xs.findIdx? (key · == id)) xs where
  index _ := rfl
  unique := unique
  all := all

/-- The index has the place of every element under its own identifier, and nothing else. -/
theorem place_iff (h : InStep key P places xs) (id : Ident) (n : Nat) :
    places id = some n ↔ ∃ x, xs[n]? = some x ∧ key x = id := by
  rw [h.index id]
  constructor
  · intro place
    obtain ⟨hn, under, -⟩ := List.findIdx?_eq_some_iff_getElem.mp place
    exact ⟨xs[n], List.getElem?_eq_getElem hn, beq_iff_eq.mp under⟩
  · rintro ⟨x, held, rfl⟩
    obtain ⟨hn, rfl⟩ := List.getElem?_eq_some_iff.mp held
    refine List.findIdx?_eq_some_iff_getElem.mpr ⟨hn, beq_self_eq_true _, fun m before same => ?_⟩
    have apart := List.pairwise_iff_getElem.mp (List.pairwise_map.mp h.unique) m n
      (before.trans hn) hn before
    exact apart (beq_iff_eq.mp same)

/-- What stands at a place after an access keeps the index right exactly if it has the identifier
under which it was found and is in order itself. -/
theorem amend_iff {id : Ident} (h : InStep key P places xs) (found : places.find? xs id = some x)
    (missing : Error) :
    InStep key P places (places.amend xs id missing change).2 ↔
      key (change x).2 = id ∧ P (change x).2 := by
  obtain ⟨n, place, held⟩ := Option.bind_eq_some_iff.mp found
  have own : key x = id := by
    obtain ⟨y, held', own⟩ := (h.place_iff id n).mp place
    cases held.symm.trans held'
    exact own
  have amended : (places.amend xs id missing change).2 = xs.set n (change x).2 := by
    simp only [Places.amend, place, held]
  obtain ⟨hn, rfl⟩ := List.getElem?_eq_some_iff.mp held
  rw [amended]
  constructor
  · intro after
    obtain ⟨y, held', named⟩ := (after.place_iff id n).mp place
    rw [List.getElem?_set_self hn] at held'
    cases held'
    exact ⟨named, after.all _ (List.mem_set hn _)⟩
  · rintro ⟨named, held'⟩
    have length : n < (xs.map key).length := by rwa [List.length_map]
    have listed : (xs.map key)[n] = id := (List.getElem_map key).trans own
    have keys : (xs.set n (change xs[n]).2).map key = xs.map key := by
      rw [List.map_set, named, ← listed, List.set_getElem_self]
    refine ⟨h.index.of_map_eq keys, keys.symm ▸ h.unique, fun y mem => ?_⟩
    rcases List.mem_or_eq_of_mem_set mem with mem | rfl
    · exact h.all y mem
    · exact held'

theorem amend (h : InStep key P places xs) (keeps : ∀ x, key (change x).2 = key x)
    (step : ∀ x, P x → P (change x).2) (id : Ident) (missing : Error) :
    InStep key P places (places.amend xs id missing change).2 := by
  cases found : places.find? xs id with
  | none =>
      rw [Places.find?] at found
      unfold Places.amend
      cases place : places id with
      | none => exact h
      | some n =>
          rw [place, Option.bind_some] at found
          simp only [found]
          exact h
  | some x =>
      rw [h.index.find?_eq] at found
      refine (h.amend_iff ((h.index.find?_eq id).trans found) missing).mpr ⟨?_, ?_⟩
      · exact (keeps x).trans (key_of_find? found)
      · exact step x (h.all x (List.mem_of_find?_eq_some found))

end InStep

/-- An index is right and identifiers are unique exactly if it has the place of every element under
its own identifier, and nothing else. -/
theorem inStep_iff {α : Type} {key : α → Ident} {P : α → Prop} {places : Places} {xs : List α} :
    InStep key P places xs ↔
      (∀ id n, places id = some n ↔ ∃ x, xs[n]? = some x ∧ key x = id) ∧ ∀ x ∈ xs, P x := by
  refine ⟨fun h => ⟨h.place_iff, h.all⟩, fun ⟨located, all⟩ => ?_⟩
  have unique : (xs.map key).Nodup := by
    rw [List.Nodup, List.pairwise_map, List.pairwise_iff_getElem]
    intro m n hm hn before same
    have first := (located (key xs[m]) m).mpr ⟨xs[m], List.getElem?_eq_getElem hm, rfl⟩
    have second := (located (key xs[m]) n).mpr ⟨xs[n], List.getElem?_eq_getElem hn, same.symm⟩
    exact before.ne (Option.some.inj (first.symm.trans second))
  refine ⟨fun id => Option.ext fun n => ?_, unique, all⟩
  rw [located id n]
  exact ((InStep.fresh unique all).place_iff id n).symm

/-! ## Groups -/

namespace Group

theorem isSome_entryIndex? (g : Group) (id : Ident) :
    (g.entryIndex? id).isSome = g.hasMatch id := by
  rw [entryIndex?, List.findIdx?_isSome, hasMatch, findMatch?, games, List.isSome_find?,
    List.any_filterMap]
  congr 1

theorem find?_entryIndex? (g : Group) (id : Ident) :
    ((g.entryIndex? id).bind (g.entries[·]?)).bind Entry.match? = g.findMatch? id := by
  rw [entryIndex?, ← List.find?_eq_bind_findIdx?_getElem?, findMatch?, games, List.find?_filterMap]

theorem entryIndex?_concat (g : Group) (e : Entry) (id : Ident) :
    ({ g with entries := g.entries ++ [e] } : Group).entryIndex? id =
      (g.entryIndex? id).or (if e.id? = some id then some g.entries.length else none) := by
  rw [entryIndex?, List.findIdx?_append, entryIndex?]
  cases e <;> simp [Entry.id?, Entry.match?]

theorem getMatch_eq (g : Group) (id : Ident) :
    g.getMatch id =
      (g.games.find? (·.id == id)).elim (.error (.unknownMatch g.id.text id.text)) .ok := by
  rw [getMatch, findMatch?]
  cases g.games.find? (·.id == id) <;> rfl

theorem games_concat_fixture (g : Group) (m : Match) :
    ({ g with entries := g.entries ++ [.fixture m] } : Group).games = g.games ++ [m] := by
  simp [games, Entry.match?]

theorem games_concat_pause (g : Group) (b : Break) :
    ({ g with entries := g.entries ++ [.pause b] } : Group).games = g.games := by
  simp [games, Entry.match?]

end Group

namespace GroupCall

/-- What a call leads to without indexes, if it succeeds. -/
def attempt : GroupCall → Group → Except Error Group
  | addMatch m, g => g.addMatch m
  | addBreak b, g => .ok (g.addBreak b)

/-- The entry that a call puts at the end. -/
def entry : GroupCall → Entry
  | addMatch m => .fixture m
  | addBreak b => .pause b

end GroupCall

namespace IndexedGroup

variable {g : IndexedGroup} {id : Ident}

structure Indexed (g : IndexedGroup) : Prop where
  places : ∀ id, g.places id = g.toGroup.entryIndex? id
  unique : g.UniqueIds

theorem indexed_bare (settings : Group) : (bare settings).Indexed where
  places _ := rfl
  unique := List.nodup_nil

theorem indexed_of {g : Group} (unique : g.UniqueIds) : (of g).Indexed where
  places _ := rfl
  unique := unique

theorem Indexed.of_toGroup (indexed : g.Indexed) : of g.toGroup = g := by
  rw [of, ← funext indexed.places]

theorem Indexed.hasMatch (indexed : g.Indexed) (id : Ident) :
    g.hasMatch id = g.toGroup.hasMatch id := by
  rw [IndexedGroup.hasMatch, indexed.places, Group.isSome_entryIndex?]

theorem Indexed.getMatch (indexed : g.Indexed) (id : Ident) :
    g.getMatch id = g.toGroup.getMatch id := by
  have found : (g.places.find? g.entries id).bind Entry.match? = g.findMatch? id := by
    rw [Places.find?, indexed.places, Group.find?_entryIndex?]
  cases h : g.findMatch? id <;> simp only [IndexedGroup.getMatch, Group.getMatch, found, h]

theorem id_perform (call : GroupCall) (g : IndexedGroup) : (call.perform g).2.id = g.id := by
  cases call with
  | addMatch m =>
      rw [GroupCall.perform, addMatch]
      split <;> rfl
  | addBreak b => rfl

theorem Indexed.mirrors (indexed : g.Indexed) (call : GroupCall) :
    Mirrors (·.toGroup) (call.attempt g.toGroup) g (call.perform g) := by
  cases call with
  | addMatch m =>
      rw [GroupCall.attempt, Group.addMatch, ← indexed.hasMatch, GroupCall.perform, addMatch]
      split
      · exact .refused rfl
      · exact .done rfl
  | addBreak b => exact .done rfl

theorem Indexed.addMatch {m : Match} (indexed : g.Indexed) (fresh : g.hasMatch m.id = false) :
    ({ g with
      places := g.places.insert m.id g.entries.length
      entries := g.entries ++ [.fixture m] } : IndexedGroup).Indexed where
  places id := by
    rw [Group.entryIndex?_concat, ← indexed.places]
    unfold Places.insert
    by_cases same : id = m.id
    · have absent : g.places m.id = none := by simpa [IndexedGroup.hasMatch] using fresh
      simp [same, absent, Entry.id?, Entry.match?]
    · simp [same, Ne.symm same, Entry.id?, Entry.match?]
  unique := by
    rw [Group.UniqueIds, Group.games_concat_fixture]
    exact nodup_map_concat indexed.unique ((indexed.hasMatch m.id).symm.trans fresh)

theorem Indexed.addBreak (indexed : g.Indexed) (b : Break) : (g.addBreak b).Indexed where
  places id := by
    rw [IndexedGroup.addBreak, Group.entryIndex?_concat, ← indexed.places]
    simp [Entry.id?, Entry.match?]
  unique := by
    rw [IndexedGroup.addBreak, Group.UniqueIds, Group.games_concat_pause]
    exact indexed.unique

theorem Indexed.perform (indexed : g.Indexed) (call : GroupCall) : (call.perform g).2.Indexed := by
  cases call with
  | addMatch m =>
      rw [GroupCall.perform, IndexedGroup.addMatch]
      split
      · exact indexed
      · next fresh => exact indexed.addMatch (by simpa using fresh)
  | addBreak b => exact indexed.addBreak b

theorem Built.indexed (built : g.Built) : g.Indexed := by
  obtain ⟨settings, calls, rfl⟩ := built
  exact Calls.run_preserves (fun call _ indexed => indexed.perform call) calls
    (indexed_bare settings)

end IndexedGroup

/-! ## Stages -/

/-- What a call leads to without indexes, if it succeeds. -/
def StageCall.attempt : StageCall → Stage → Except Error Stage
  | addGroup g _, s => s.addGroup g.toGroup
  | inGroup id call, s => s.updateGroup id call.attempt

namespace IndexedStage

variable {s : IndexedStage} {g : IndexedGroup}

/-- The index of the groups is right, and so are those of all groups. -/
def Indexed (s : IndexedStage) : Prop :=
  InStep (·.id) IndexedGroup.Indexed s.places s.groups

theorem indexed_of {s : Stage} (unique : s.UniqueIds) : (of s).Indexed := by
  have ids : ((s.groups.map IndexedGroup.of).map (·.id)).Nodup := by
    rw [List.map_map]
    exact unique.1
  have groups : ∀ g ∈ s.groups.map IndexedGroup.of, g.Indexed :=
    List.forall_mem_map.mpr fun g mem => IndexedGroup.indexed_of (unique.2 g mem)
  have places : (of s).places =
      fun id => (s.groups.map IndexedGroup.of).findIdx? (·.id == id) := by
    funext id
    rw [List.findIdx?_map]
    rfl
  rw [Indexed, places]
  exact .fresh ids groups

theorem Indexed.of_stage (indexed : s.Indexed) : of s.stage = s := by
  have groups : s.stage.groups.map IndexedGroup.of = s.groups := by
    rw [stage, List.map_map]
    have same := List.map_congr_left fun g mem => (indexed.all g mem).of_toGroup
    exact same.trans (List.map_id' s.groups)
  have places : (fun id => s.stage.groups.findIdx? (·.id == id)) = s.places := by
    funext id
    rw [indexed.index id, stage, List.findIdx?_map]
    rfl
  rw [of, groups, places]
  rfl

theorem Indexed.uniqueIds (indexed : s.Indexed) : s.stage.UniqueIds := by
  refine ⟨?_, List.forall_mem_map.mpr fun g mem => (indexed.all g mem).unique⟩
  rw [stage, List.map_map]
  exact indexed.unique

theorem findGroup?_stage (s : IndexedStage) (id : Ident) :
    s.stage.findGroup? id = (s.groups.find? (·.id == id)).map (·.toGroup) := by
  rw [Stage.findGroup?, stage, List.find?_map]
  rfl

theorem Indexed.hasGroup (indexed : s.Indexed) (id : Ident) :
    s.hasGroup id = s.stage.hasGroup id := by
  rw [IndexedStage.hasGroup, indexed.index.isSome_eq, Stage.hasGroup, findGroup?_stage,
    Option.isSome_map]

theorem getGroup_eq_ok {id : Ident} :
    s.getGroup id = .ok g ↔ s.places.find? s.groups id = some g := by
  unfold getGroup
  split <;> simp_all

theorem getGroup_stage (s : IndexedStage) (id : Ident) :
    s.stage.getGroup id = (s.groups.find? (·.id == id)).elim
      (.error (.unknownGroup s.id.text id.text)) fun g => .ok g.toGroup := by
  rw [Stage.getGroup, findGroup?_stage]
  cases s.groups.find? (·.id == id) <;> rfl

theorem Indexed.getGroup (indexed : s.Indexed) (id : Ident) :
    s.getGroup id =
      (s.groups.find? (·.id == id)).elim (.error (.unknownGroup s.id.text id.text)) .ok := by
  rw [IndexedStage.getGroup, indexed.index.find?_eq]
  cases s.groups.find? (·.id == id) <;> rfl

theorem Indexed.map_getGroup (indexed : s.Indexed) (id : Ident) :
    (s.getGroup id).map (·.toGroup) = s.stage.getGroup id := by
  rw [indexed.getGroup, getGroup_stage]
  cases s.groups.find? (·.id == id) <;> rfl

/-- A group that is found is in order, and has the identifier under which it is found. -/
theorem Indexed.of_getGroup {id : Ident} (indexed : s.Indexed) (held : s.getGroup id = .ok g) :
    g.Indexed ∧ g.id = id := by
  have found := (indexed.index.find?_eq id).symm.trans (getGroup_eq_ok.mp held)
  exact ⟨indexed.all g (List.mem_of_find?_eq_some found), by simpa using List.find?_some found⟩

theorem id_perform (call : StageCall) (s : IndexedStage) : (call.perform s).2.id = s.id := by
  cases call with
  | addGroup g built =>
      rw [StageCall.perform, addGroup]
      split <;> rfl
  | inGroup id call => rfl

theorem Indexed.mirrors_inGroup (indexed : s.Indexed) (id : Ident) (call : GroupCall) :
    Mirrors stage (s.stage.updateGroup id call.attempt) s (s.inGroup id call) := by
  have put (g : IndexedGroup) : stage { s with groups := putFirst (·.id) g s.groups } =
      s.stage.putGroup g.toGroup := by
    have content : (putFirst (·.id) g s.groups).map (·.toGroup) =
        putFirst (·.id) g.toGroup (s.groups.map (·.toGroup)) :=
      map_putFirst_content (fun _ => by rfl) g s.groups
    exact congrArg (fun groups => ({ s.stage with groups := groups } : Stage)) content
  exact indexed.index.amend_mirrors stage (fun groups => { s with groups := groups })
    (fun g => s.stage.putGroup g) (IndexedGroup.id_perform call)
    (fun g mem => (indexed.all g mem).mirrors call) (s.getGroup_stage id) put

theorem Indexed.mirrors (indexed : s.Indexed) (call : StageCall) :
    Mirrors stage (call.attempt s.stage) s (call.perform s) := by
  cases call with
  | addGroup g built =>
      rw [StageCall.attempt, Stage.addGroup, ← indexed.hasGroup, StageCall.perform, addGroup]
      split
      · exact .refused rfl
      · exact .done (by simp [stage])
  | inGroup id call => exact indexed.mirrors_inGroup id call

theorem Indexed.perform (indexed : s.Indexed) (call : StageCall) : (call.perform s).2.Indexed := by
  cases call with
  | addGroup g built =>
      rw [StageCall.perform, IndexedStage.addGroup]
      split
      · exact indexed
      · next fresh => exact indexed.concat built.indexed (Bool.eq_false_iff.mpr fresh)
  | inGroup id call =>
      exact indexed.amend (IndexedGroup.id_perform call) (fun _ held => held.perform call) id _

theorem Built.indexed (built : s.Built) : s.Indexed := by
  obtain ⟨id, name, notes, calls, rfl⟩ := built
  exact Calls.run_preserves (fun call _ indexed => indexed.perform call) calls .empty

end IndexedStage

end Tourney
