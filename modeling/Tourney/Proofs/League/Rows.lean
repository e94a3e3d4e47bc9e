import Mathlib.Algebra.BigOperators.Group.List.Basic
import Tourney.Proofs.League.Ranking

/-!
# The rows of a table before they are ranked

They stand in the order of the teams. A row wraps around at every step at which something is added to
it, and in the end it has what it keeps of the exact total (`Record.sum_eq`). So a total that fits is
exact, whatever the sums on the way were.
-/

namespace Tourney

namespace Record

variable {M : Type} [AddCommMonoid M] {f : Record → M} {records records' : List Record} {r : Record}

/-! ## Totals -/

/-- Everything gathered in a list of records, with nothing lost. -/
def total (records : List Record) : Record :=
  records.foldl (· + ·) zero

theorem total_singleton (r : Record) : total [r] = r := by
  change add zero r = r
  simp only [add, zero, Nat.zero_add, Int.zero_add]

theorem wrap_wrap_add (a b : Record) : (a.wrap + b).wrap = (a + b).wrap := by
  change wrap (add (wrap a) b) = wrap (add a b)
  simp only [wrap, add, wrap32_wrap32_add, wrap64_wrap64_add]

/-- Wrapping around at every step leaves what wrapping around once in the end does. -/
theorem sum_eq (records : List Record) : sum records = (total records).wrap := by
  have from_any (start : Record) :
      records.foldl (fun gathered r => (gathered + r).wrap) start.wrap =
        (records.foldl (· + ·) start).wrap := by
    induction records generalizing start with
    | nil => rfl
    | cons r rest ih => rw [List.foldl_cons, wrap_wrap_add, ih, List.foldl_cons]
  exact from_any zero

theorem total_perm (order : records.Perm records') : total records = total records' := by
  apply order.foldl_eq'
  intro a _ b _ start
  change add (add start a) b = add (add start b) a
  simp only [add, Nat.add_right_comm, Int.add_right_comm]

theorem sum_perm (order : records.Perm records') : sum records = sum records' := by
  rw [sum_eq, sum_eq, total_perm order]

/-- A quantity that is gathered by addition. -/
structure Additive (f : Record → M) : Prop where
  zero : f .zero = 0
  add : ∀ a b, f (a + b) = f a + f b

theorem Additive.total (h : Additive f) (records : List Record) :
    f (total records) = (records.map f).sum := by
  have from_any (start : Record) :
      f (records.foldl (· + ·) start) = f start + (records.map f).sum := by
    induction records generalizing start with
    | nil => simp
    | cons r rest ih => simp [ih, h.add, add_assoc]
  rw [Record.total, from_any, h.zero, zero_add]

/-! ## Records that fit -/

/-- No number of the record is too large for a row. -/
def Fits (r : Record) : Prop :=
  (Within32 r.played ∧ Within32 r.wins ∧ Within32 r.losses ∧ Within32 r.draws) ∧
    (Within32 r.setsFor ∧ Within32 r.setsAgainst) ∧
    Within64 r.pointsFor ∧ Within64 r.pointsAgainst ∧ Within64 r.leaguePoints

instance (r : Record) : Decidable r.Fits :=
  inferInstanceAs (Decidable (_ ∧ _))

theorem wrap_eq_self (h : r.Fits) : r.wrap = r := by
  obtain ⟨⟨played, wins, losses, draws⟩, ⟨setsFor, setsAgainst⟩, pointsFor, pointsAgainst,
    leaguePoints⟩ := h
  simp only [wrap, wrap32_eq_self played, wrap32_eq_self wins, wrap32_eq_self losses,
    wrap32_eq_self draws, wrap32_eq_self setsFor, wrap32_eq_self setsAgainst,
    wrap64_eq_self pointsFor, wrap64_eq_self pointsAgainst, wrap64_eq_self leaguePoints]

end Record

variable {teams : List Ident} {results : List LeagueResult} {form : MatchForm}
  {award : PointsAward} {row : Row}

/-! ## Order -/

theorem map_team_tally (teams : List Ident) (results : List LeagueResult) (form : MatchForm)
    (award : PointsAward) : (tally teams results form award).map (·.team) = teams :=
  map_team_rowsOf _ teams

theorem pairwise_idxOf (distinct : teams.Nodup) :
    teams.Pairwise fun a b => teams.idxOf a < teams.idxOf b := by
  refine List.pairwise_iff_getElem.mpr fun i j hi hj lt => ?_
  rwa [distinct.idxOf_getElem i hi, distinct.idxOf_getElem j hj]

theorem pairwise_idxOf_tally (distinct : teams.Nodup) :
    (tally teams results form award).Pairwise fun r s =>
      teams.idxOf r.team < teams.idxOf s.team := by
  have listed := pairwise_idxOf distinct
  rw [← map_team_tally teams results form award, List.pairwise_map, map_team_tally] at listed
  exact listed

/-! ## Records -/

/-- What the results between the listed teams bring to one of them, with nothing lost. -/
def gathered (teams : List Ident) (results : List LeagueResult) (form : MatchForm)
    (award : PointsAward) (team : Ident) : Record :=
  .total ((results.filter (·.isAmong teams)).flatMap (·.lines form award team))

theorem rowsOf_eq_map (record : Ident → Record) (distinct : teams.Nodup) :
    rowsOf record teams = teams.map fun team => ⟨team, record team⟩ := by
  induction teams with
  | nil => rfl
  | cons team rest ih =>
      obtain ⟨fresh, distinct⟩ := List.nodup_cons.mp distinct
      simp [rowsOf, fresh, ih distinct]

/-- The row of a team has what it keeps of all that the results bring to the team. -/
theorem tally_eq_map (distinct : teams.Nodup) :
    tally teams results form award =
      teams.map fun team => ⟨team, (gathered teams results form award team).wrap⟩ := by
  simp only [tally, Record.sum_eq]
  exact rowsOf_eq_map _ distinct

theorem record_of_mem_tally (distinct : teams.Nodup) (mem : row ∈ tally teams results form award) :
    row.team ∈ teams ∧ row.record = (gathered teams results form award row.team).wrap := by
  rw [tally_eq_map distinct] at mem
  obtain ⟨team, listed, rfl⟩ := List.mem_map.mp mem
  exact ⟨listed, rfl⟩

theorem record_of_mem_table {config : LeagueConfig} (distinct : teams.Nodup)
    (mem : row ∈ table teams results form config) :
    row.team ∈ teams ∧ row.record = (gathered teams results form config.points row.team).wrap :=
  record_of_mem_tally distinct ((Table.rank_perm _ _ _).mem_iff.mp mem)

end Tourney
