import Mathlib.Data.List.Basic
import Tourney.Ident

/-!
# Characters of identifiers

A text is read as an identifier exactly if it is well formed, and it is the text of that identifier.
Reserved characters occur in no identifier. So identifiers that are written one after another with
colons between them can be told apart (`Ident.eq_of_intercalate_eq`).
-/

namespace Tourney

namespace Ident

variable {text : String} {id : Ident} {c : Char}

theorem parse_eq_ok : parse text = .ok id ↔ id.text = text := by
  constructor
  · exact text_of_parse
  · rintro rfl
    exact parse_text id

theorem parse_eq_error (broken : ¬ WellFormed text) :
    ∃ rule, parse text = .error (.invalid rule) := by
  unfold parse
  split
  · exact ⟨_, rfl⟩
  · next nonempty =>
      split
      · exact ⟨_, rfl⟩
      · next short =>
          split
          · exact ⟨_, rfl⟩
          · next clean =>
              refine absurd ⟨nonempty, Nat.le_of_not_lt short, fun c mem => ?_⟩ broken
              simpa using List.find?_eq_none.mp clean c mem

theorem notMem_of_not_allowed (id : Ident) (h : allowed c = false) : c ∉ id.text.toList := by
  intro mem
  simp [id.wellFormed.2.2 c mem] at h

theorem colon_notMem (id : Ident) : ':' ∉ id.text.toList :=
  id.notMem_of_not_allowed (by decide)

/-- Identifiers separated by colons can be told apart. -/
theorem eq_of_intercalate_eq {xs ys : List Ident} (hx : xs ≠ []) (hy : ys ≠ [])
    (h : [':'].intercalate (xs.map (·.text.toList)) = [':'].intercalate (ys.map (·.text.toList))) :
    xs = ys := by
  have split (zs : List Ident) (hz : zs ≠ []) :
      ([':'].intercalate (zs.map (·.text.toList))).splitOn ':' = zs.map (·.text.toList) := by
    refine List.splitOn_intercalate ':' ?_ (by simpa using hz)
    intro l hl
    obtain ⟨id, -, rfl⟩ := List.mem_map.mp hl
    exact id.colon_notMem
  have texts := split xs hx
  rw [h, split ys hy] at texts
  refine (List.map_injective_iff.mpr ?_ texts).symm
  intro a b hab
  exact ext_text (String.toList_inj.mp hab)

end Ident

end Tourney
