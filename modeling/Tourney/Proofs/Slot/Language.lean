import Mathlib.Data.List.Basic
import Tourney.Proofs.Ident
import Tourney.Proofs.Text.Numeral
import Tourney.Slot.Parse

/-!
# The language of team slots

What a text with a brace has to look like to be a reference (`Reference.Spelled`): identifiers, a
keyword and a position between colons, all of it between braces. Fields hold neither colons nor
braces, so a spelled reference falls apart into its fields again, and reading accepts exactly the
spelled references (`Reference.ofChars?_eq_some`). Every other text with a brace is malformed, and a
text without one is an identifier or nothing (`TeamSlot.Reading`).
-/

namespace Tourney

variable {text context : String} {field cs body : List Char} {fields : List (List Char)} {n : Nat}
  {id : Ident} {t : Target} {r : Reference} {c : Char} {answer : Except Error TeamSlot}

/-! ## Fields -/

theorem position?_eq_some :
    position? field = some n ↔ Text.Spells field n ∧ 0 < n ∧ n < Text.limit64 := by
  rw [position?, Option.filter_eq_some_iff, Text.numeral?_eq_some, decide_eq_true_eq, and_assoc,
    and_comm (a := n < Text.limit64)]

theorem identField?_eq_some : identField? field = some id ↔ field = id.text.toList := by
  have parsed : identField? field = some id ↔ Ident.parse (String.ofList field) = .ok id := by
    rw [identField?, Ident.parse?]
    cases Ident.parse (String.ofList field) <;> simp [Except.toOption]
  rw [parsed, Ident.parse_eq_ok, ← String.toList_inj, String.toList_ofList, eq_comm]

namespace Target

/-- The fields that stand for a target. -/
inductive Fields : Target → List (List Char) → Prop
  | position {n : Nat} {field : List Char} : Text.Spells field n → Fields (.position n) [field]
  | rank {n : Nat} {field : List Char} :
      Text.Spells field n → Fields (.rank n) ["league".toList, field]
  | winner (m : Ident) : Fields (.winner m) [m.text.toList, "winner".toList]
  | loser (m : Ident) : Fields (.loser m) [m.text.toList, "loser".toList]

/-- A target that can be asked for in writing: the outcome of a match that is not called `league`, or
a position from one up to the largest 64-bit number. -/
def Nameable : Target → Prop
  | .winner m | .loser m => m.text ≠ "league"
  | .rank n | .position n => 0 < n ∧ n < Text.limit64

instance (t : Target) : Decidable t.Nameable :=
  match t with
  | .winner _ | .loser _ => inferInstanceAs (Decidable (_ ≠ _))
  | .rank _ | .position _ => inferInstanceAs (Decidable (_ ∧ _))

theorem ofFields?_eq_some : ofFields? fields = some t ↔ t.Nameable ∧ t.Fields fields := by
  constructor
  · intro h
    unfold ofFields? at h
    split at h
    · obtain ⟨n, hn, rfl⟩ := Option.map_eq_some_iff.mp h
      obtain ⟨spells, range⟩ := position?_eq_some.mp hn
      exact ⟨range, .position spells⟩
    · next m last =>
        -- The keyword `league` is looked for first, so a match of that name is never reached.
        split at h
        · next keyword =>
            obtain ⟨n, hn, rfl⟩ := Option.map_eq_some_iff.mp h
            obtain ⟨spells, range⟩ := position?_eq_some.mp hn
            exact ⟨range, keyword ▸ .rank spells⟩
        · next other =>
            have named {id : Ident} (hm : m = id.text.toList) : id.text ≠ "league" := by
              rintro same
              exact other (by rw [hm, same])
            split at h
            · next won =>
                obtain ⟨id, hid, rfl⟩ := Option.map_eq_some_iff.mp h
                have hm := identField?_eq_some.mp hid
                exact ⟨named hm, won ▸ hm ▸ .winner id⟩
            · split at h
              · next lost =>
                  obtain ⟨id, hid, rfl⟩ := Option.map_eq_some_iff.mp h
                  have hm := identField?_eq_some.mp hid
                  exact ⟨named hm, lost ▸ hm ▸ .loser id⟩
              · cases h
    · cases h
  · rintro ⟨nameable, h⟩
    have loser : "loser".toList ≠ "winner".toList := by decide
    cases h with
    | position spells | rank spells =>
        simp [ofFields?, position?_eq_some.mpr ⟨spells, nameable⟩]
    | winner m =>
        rw [ofFields?, if_neg (mt String.toList_inj.mp nameable), if_pos rfl,
          identField?_eq_some.mpr rfl, Option.map_some]
    | loser m =>
        rw [ofFields?, if_neg (mt String.toList_inj.mp nameable), if_neg loser, if_pos rfl,
          identField?_eq_some.mpr rfl, Option.map_some]

end Target

namespace Reference

theorem ofFields?_eq_some :
    ofFields? fields = some r ↔
      r.target.Nameable ∧ ∃ rest, r.target.Fields rest ∧
        fields = r.stage.text.toList :: r.group.text.toList :: rest := by
  unfold ofFields?
  split
  · next stage group rest =>
      simp only [bind, Option.bind_eq_some_iff, Target.ofFields?_eq_some, identField?_eq_some,
        pure, Option.some.injEq, List.cons.injEq]
      constructor
      · rintro ⟨t, ⟨nameable, spelled⟩, s, rfl, g, rfl, rfl⟩
        exact ⟨nameable, rest, spelled, rfl, rfl, rfl⟩
      · rintro ⟨nameable, rest', spelled, rfl, rfl, rfl⟩
        exact ⟨_, ⟨nameable, spelled⟩, _, rfl, _, rfl, rfl⟩
  · next short => simpa using fun _ rest _ same => short _ _ _ same

/-- The reference that a text spells: identifiers of a stage and a group, and the fields of a target
that can be asked for, with colons between them and braces around them. -/
def Spelled (r : Reference) (cs : List Char) : Prop :=
  r.target.Nameable ∧ ∃ rest, r.target.Fields rest ∧
    cs = '{' :: [':'].intercalate (r.stage.text.toList :: r.group.text.toList :: rest) ++ ['}']

end Reference

/-! ## Fields hold neither colons nor braces -/

/-- Whether a character may stand in a field. -/
def isPlain (c : Char) : Bool :=
  c != ':' && !Reference.isBrace c

/-- A class of characters without the colon and the braces holds plain characters only. -/
theorem isPlain_of {p : Char → Bool} (colon : p ':' = false) (opening : p '{' = false)
    (closing : p '}' = false) (h : p c = true) : isPlain c = true := by
  by_contra reserved
  have special : c = ':' ∨ c = '{' ∨ c = '}' := by
    simpa [isPlain, Reference.isBrace, or_iff_not_imp_left] using reserved
  rcases special with rfl | rfl | rfl
  · simp [colon] at h
  · simp [opening] at h
  · simp [closing] at h

theorem Ident.isPlain (id : Ident) (mem : c ∈ id.text.toList) : isPlain c = true :=
  isPlain_of (by decide) (by decide) (by decide) (id.wellFormed.2.2 c mem)

theorem Text.Spells.isPlain (h : Text.Spells field n) (mem : c ∈ field) : isPlain c = true := by
  rcases h.plain mem with rfl | digit
  · decide
  · exact isPlain_of (by decide) (by decide) (by decide) digit

theorem isPlain_keyword {word : String} (mem : word ∈ ["league", "winner", "loser"])
    (hc : c ∈ word.toList) : isPlain c = true := by
  have plain : ["league", "winner", "loser"].all (·.toList.all isPlain) = true := by decide
  exact List.all_eq_true.mp (List.all_eq_true.mp plain word mem) c hc

theorem Target.Fields.isPlain (h : t.Fields fields) (mem : field ∈ fields) (hc : c ∈ field) :
    isPlain c = true := by
  cases h with
  | position spells =>
      obtain rfl := List.mem_singleton.mp mem
      exact spells.isPlain hc
  | rank spells =>
      rcases List.mem_pair.mp mem with rfl | rfl
      · exact isPlain_keyword (by simp) hc
      · exact spells.isPlain hc
  | winner m =>
      rcases List.mem_pair.mp mem with rfl | rfl
      · exact m.isPlain hc
      · exact isPlain_keyword (by simp) hc
  | loser m =>
      rcases List.mem_pair.mp mem with rfl | rfl
      · exact m.isPlain hc
      · exact isPlain_keyword (by simp) hc

theorem mem_of_mem_intercalate {α : Type} {sep : List α} {ls : List (List α)} {x : α}
    (h : x ∈ sep.intercalate ls) : x ∈ sep ∨ ∃ l ∈ ls, x ∈ l := by
  induction ls with
  | nil => cases h
  | cons l ls ih =>
      cases ls with
      | nil =>
          rw [List.intercalate_singleton] at h
          exact .inr ⟨l, List.mem_cons_self, h⟩
      | cons l' ls =>
          rw [List.intercalate_cons_cons, List.append_assoc, List.mem_append, List.mem_append] at h
          rcases h with here | between | later
          · exact .inr ⟨l, List.mem_cons_self, here⟩
          · exact .inl between
          · refine (ih later).imp_right ?_
            rintro ⟨l₁, mem, hx⟩
            exact ⟨l₁, List.mem_cons_of_mem _ mem, hx⟩

/-- No field of a reference has a colon. -/
theorem Target.Fields.colon_notMem (s g : Ident) (h : t.Fields fields) :
    ∀ f ∈ s.text.toList :: g.text.toList :: fields, ':' ∉ f := by
  rw [List.forall_mem_cons, List.forall_mem_cons]
  exact ⟨s.colon_notMem, g.colon_notMem, fun f hf colon => absurd (h.isPlain hf colon) (by decide)⟩

namespace Reference

theorem inner?_eq_some : inner? cs = some body ↔ cs = '{' :: body ++ ['}'] := by
  unfold inner?
  split
  · next rest =>
      rw [Option.ite_none_right_eq_some, Option.some.injEq, List.cons_append, List.cons.injEq]
      constructor
      · rintro ⟨last, rfl⟩
        exact ⟨rfl, (List.dropLast_append_getLast? _ last).symm⟩
      · rintro ⟨-, rfl⟩
        exact ⟨List.getLast?_concat, List.dropLast_concat⟩
  · next other => simpa using fun same => other _ same

/-- What is written for the fields of a reference falls apart into them again. -/
theorem ofChars?_of_fields (s g : Ident) {rest : List (List Char)} (h : t.Fields rest) :
    ofChars? ('{' :: [':'].intercalate (s.text.toList :: g.text.toList :: rest) ++ ['}']) =
      ofFields? (s.text.toList :: g.text.toList :: rest) := by
  have plain : ∀ f ∈ s.text.toList :: g.text.toList :: rest, ∀ c ∈ f, isPlain c = true := by
    rw [List.forall_mem_cons, List.forall_mem_cons]
    exact ⟨fun c => s.isPlain, fun c => g.isPlain, fun f hf c => h.isPlain hf⟩
  have noBrace : ([':'].intercalate (s.text.toList :: g.text.toList :: rest)).any isBrace = false := by
    refine List.any_eq_false.mpr fun c mem => ?_
    rcases mem_of_mem_intercalate mem with colon | ⟨f, hf, hc⟩
    · rw [List.mem_singleton.mp colon]
      decide
    · have := plain f hf c hc
      simp_all [isPlain]
  simp only [ofChars?, inner?_eq_some.mpr rfl, Option.bind_eq_bind, Option.bind_some, noBrace,
    Bool.false_eq_true, ↓reduceIte, List.splitOn_intercalate ':' (h.colon_notMem s g)
    (List.cons_ne_nil _ _)]

/-- Reading accepts exactly the spelled references. -/
theorem ofChars?_eq_some : ofChars? cs = some r ↔ r.Spelled cs := by
  constructor
  · intro h
    obtain ⟨body, hbody, found⟩ := Option.bind_eq_some_iff.mp h
    obtain ⟨-, found⟩ := Option.ite_none_left_eq_some.mp found
    obtain ⟨nameable, rest, fields, split⟩ := ofFields?_eq_some.mp found
    refine ⟨nameable, rest, fields, ?_⟩
    rw [inner?_eq_some.mp hbody, ← split, List.intercalate_splitOn]
  · rintro ⟨nameable, rest, fields, rfl⟩
    rw [ofChars?_of_fields r.stage r.group fields]
    exact ofFields?_eq_some.mpr ⟨nameable, rest, fields, rfl⟩

end Reference

end Tourney
