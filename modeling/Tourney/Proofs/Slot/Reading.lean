import Tourney.Proofs.Slot.Language

/-!
# Reading and writing team slots

What is written for a reference is read back as that reference, whatever its stage, group and match
are called, with one exception: the outcome of a match that is called `league` is written like a rank
and refused (`TeamSlot.parse_reference_text`). What is read from a text is written like the text,
but for a plus sign and zeros in front of a position (`TeamSlot.parse_eq_iff_reading`).
-/

namespace Tourney

variable {text context : String} {fields : List (List Char)} {n : Nat} {id : Ident} {t u : Target}
  {r : Reference} {s : TeamSlot} {answer : Except Error TeamSlot}

/-! ## Written references -/

namespace Target

/-- The fields as they are written. -/
def written : Target → List (List Char)
  | .winner m => [m.text.toList, "winner".toList]
  | .loser m => [m.text.toList, "loser".toList]
  | .rank n => ["league".toList, Nat.toDigits 10 n]
  | .position n => [Nat.toDigits 10 n]

theorem map_toList_fields (t : Target) : t.fields.map String.toList = t.written := by
  cases t <;> simp [fields, written]

theorem fields_written (t : Target) : t.Fields t.written := by
  cases t with
  | winner m => exact .winner m
  | loser m => exact .loser m
  | rank n => exact .rank (Text.spells_toDigits n)
  | position n => exact .position (Text.spells_toDigits n)

theorem not_spells_keyword {word : String} (mem : word ∈ ["winner", "loser"]) :
    ¬ Text.Spells word.toList n := by
  intro h
  rcases List.mem_pair.mp mem with rfl | rfl
  · exact absurd (h.plain (c := 'w') (by decide)) (by decide)
  · exact absurd (h.plain (c := 'l') (by decide)) (by decide)

theorem Fields.of_single {f : List Char} (h : t.Fields [f]) :
    ∃ n, t = .position n ∧ Text.Spells f n := by
  cases h with
  | position spells => exact ⟨_, rfl, spells⟩

theorem Fields.of_pair {f last : List Char} (h : t.Fields [f, last]) :
    (∃ n, t = .rank n ∧ Text.Spells last n) ∨
      ∃ m : Ident, f = m.text.toList ∧
        (t = .winner m ∧ last = "winner".toList ∨ t = .loser m ∧ last = "loser".toList) := by
  cases h with
  | rank spells => exact .inl ⟨_, rfl, spells⟩
  | winner m => exact .inr ⟨m, rfl, .inl ⟨rfl, rfl⟩⟩
  | loser m => exact .inr ⟨m, rfl, .inr ⟨rfl, rfl⟩⟩

/-- Fields stand for one target only. -/
theorem Fields.unique (h : t.Fields fields) (h' : u.Fields fields) : t = u := by
  have apart : "winner".toList ≠ "loser".toList := by decide
  have ident {m m' : Ident} (same : m.text.toList = m'.text.toList) : m = m' :=
    Ident.ext_text (String.toList_inj.mp same)
  cases h with
  | position spells =>
      obtain ⟨n', rfl, spells'⟩ := h'.of_single
      rw [spells.unique spells']
  | rank spells =>
      rcases h'.of_pair with ⟨n', rfl, spells'⟩ | ⟨m', -, ⟨-, rfl⟩ | ⟨-, rfl⟩⟩
      · rw [spells.unique spells']
      · exact absurd spells (not_spells_keyword (by simp))
      · exact absurd spells (not_spells_keyword (by simp))
  | winner m =>
      rcases h'.of_pair with ⟨n, -, spells⟩ | ⟨m', same, ⟨rfl, -⟩ | ⟨-, keyword⟩⟩
      · exact absurd spells (not_spells_keyword (by simp))
      · rw [ident same]
      · exact absurd keyword apart
  | loser m =>
      rcases h'.of_pair with ⟨n, -, spells⟩ | ⟨m', same, ⟨-, keyword⟩ | ⟨rfl, -⟩⟩
      · exact absurd spells (not_spells_keyword (by simp))
      · exact absurd keyword.symm apart
      · rw [ident same]

end Target

namespace Reference

theorem toList_text (r : Reference) :
    r.text.toList =
      '{' :: [':'].intercalate (r.stage.text.toList :: r.group.text.toList :: r.target.written) ++
        ['}'] := by
  rw [← Target.map_toList_fields]
  simp [text, fields, String.toList_intercalate]

/-- Different references are written differently, whatever they ask for. -/
theorem text_injective {r r' : Reference} (h : r.text = r'.text) : r = r' := by
  have written := congrArg String.toList h
  rw [toList_text, toList_text, List.cons_append, List.cons_append, List.cons.injEq] at written
  have fields := congrArg (List.splitOn ':') (List.append_cancel_right written.2)
  have own := r.target.fields_written
  have other := r'.target.fields_written
  rw [List.splitOn_intercalate ':' (own.colon_notMem r.stage r.group) (List.cons_ne_nil _ _),
    List.splitOn_intercalate ':' (other.colon_notMem r'.stage r'.group) (List.cons_ne_nil _ _),
    List.cons.injEq, List.cons.injEq] at fields
  obtain ⟨stage, group, target⟩ := fields
  have targets : r.target = r'.target := own.unique (target ▸ other)
  cases r
  cases r'
  cases Ident.ext_text (String.toList_inj.mp stage)
  cases Ident.ext_text (String.toList_inj.mp group)
  cases targets
  rfl

theorem spelled_text : r.Spelled r.text.toList ↔ r.target.Nameable :=
  ⟨And.left, fun nameable => ⟨nameable, _, r.target.fields_written, r.toList_text⟩⟩

theorem ofChars?_text (r : Reference) :
    ofChars? r.text.toList = if r.target.Nameable then some r else none := by
  split
  · next nameable => exact ofChars?_eq_some.mpr (spelled_text.mpr nameable)
  · next refused =>
      refine Option.eq_none_iff_forall_ne_some.mpr fun r' found => refused ?_
      -- another reference would have the same fields, and these stand for one target only
      rw [toList_text, ofChars?_of_fields _ _ r.target.fields_written] at found
      obtain ⟨nameable, rest, fields, same⟩ := ofFields?_eq_some.mp found
      obtain ⟨-, -, rfl⟩ : _ ∧ _ ∧ r.target.written = rest := by simpa using same
      rwa [← fields.unique r.target.fields_written]

end Reference

namespace TeamSlot

/-- A text with a brace, which has to be a reference. -/
def Braced (text : String) : Prop :=
  ∃ c ∈ text.toList, c = '{' ∨ c = '}'

theorem braced_iff : Braced text ↔ text.toList.any Reference.isBrace = true := by
  simp [Braced, Reference.isBrace]

theorem parse_of_braced (h : Braced text) :
    parse context text = match Reference.ofChars? text.toList with
      | some r => .ok (.reference r)
      | none => .error (.malformedReference context (Reference.excerpt text)) :=
  if_pos (braced_iff.mp h)

theorem parse_of_not_braced (h : ¬ Braced text) :
    parse context text = (Ident.parse text).map .literal :=
  if_neg (mt braced_iff.mpr h)

theorem braced_text (r : Reference) : Braced r.text :=
  ⟨'{', r.toList_text ▸ List.mem_cons_self, .inl rfl⟩

theorem parse_of_nameable (context : String) (h : r.target.Nameable) :
    parse context r.text = .ok (.reference r) := by
  rw [parse_of_braced (braced_text r), Reference.ofChars?_text, if_pos h]

/-- Reading what is written for a reference gives the reference back, unless it asks for the outcome
of a match that is called `league`, or for a position out of range; then it is refused. -/
theorem parse_reference_text (context : String) (r : Reference) :
    parse context r.text =
      if r.target.Nameable then .ok (.reference r)
      else .error (.malformedReference context (Reference.excerpt r.text)) := by
  by_cases nameable : r.target.Nameable
  · rw [if_pos nameable, parse_of_nameable context nameable]
  · rw [if_neg nameable, parse_of_braced (braced_text r), Reference.ofChars?_text, if_neg nameable]

def knockout : Ident := ⟨"KO", by decide, by decide, List.all_eq_true.mp rfl⟩
def semifinals : Ident := ⟨"SF", by decide, by decide, List.all_eq_true.mp rfl⟩
def league : Ident := ⟨"league", by decide, by decide, List.all_eq_true.mp rfl⟩

/-- The outcome of a match that is called `league` has a written form that cannot be read. -/
theorem league_outcome_not_read :
    parse ownContext (⟨knockout, semifinals, .winner league⟩ : Reference).text =
      .error (.malformedReference ownContext "\x7bKO:SF:league:winner\x7d") ∧
    parse ownContext (⟨knockout, semifinals, .winner league⟩ : Reference).text ≠
      .ok (.reference ⟨knockout, semifinals, .winner league⟩) := by
  have refused : parse ownContext (⟨knockout, semifinals, .winner league⟩ : Reference).text =
      .error (.malformedReference ownContext "\x7bKO:SF:league:winner\x7d") := rfl
  exact ⟨refused, by rw [refused]; nofun⟩

/-! ## What a text is read as -/

/-- What an error repeats of a text: all of it, or its first thirty characters and three dots. -/
def Echoes (text shown : String) : Prop :=
  if text.toList.length ≤ 30 then shown = text
  else shown.toList = text.toList.take 30 ++ ['.', '.', '.']

theorem echoes_iff {shown : String} : Echoes text shown ↔ shown = Reference.excerpt text := by
  unfold Echoes Reference.excerpt Reference.excerptLength
  split
  · rfl
  · rw [← String.toList_inj, String.toList_append, String.toList_ofList]
    rfl

/-- What a text has to be read as: without a brace an identifier, or the rule for identifiers that
it breaks; with a brace the reference that it spells, or else a malformed one. -/
inductive Reading (context text : String) : Except Error TeamSlot → Prop
  | literal {id : Ident} :
      ¬ Braced text → id.text = text → Reading context text (.ok (.literal id))
  | notIdent {rule : Violation} :
      ¬ Braced text → ¬ Ident.WellFormed text → Ident.parse text = .error (.invalid rule) →
        Reading context text (.error (.invalid rule))
  | reference {r : Reference} :
      Braced text → r.Spelled text.toList → Reading context text (.ok (.reference r))
  | malformed {shown : String} :
      Braced text → (∀ r : Reference, ¬ r.Spelled text.toList) → Echoes text shown →
        Reading context text (.error (.malformedReference context shown))

theorem Reading.parse_eq (h : Reading context text answer) : parse context text = answer := by
  cases h with
  | literal plain same =>
      rw [parse_of_not_braced plain, Ident.parse_eq_ok.mpr same]
      rfl
  | notIdent plain _ refused =>
      rw [parse_of_not_braced plain, refused]
      rfl
  | reference braced spelled =>
      rw [parse_of_braced braced, Reference.ofChars?_eq_some.mpr spelled]
  | malformed braced other echo =>
      have none : Reference.ofChars? text.toList = none :=
        Option.eq_none_iff_forall_ne_some.mpr fun r found =>
          other r (Reference.ofChars?_eq_some.mp found)
      rw [parse_of_braced braced, none, echoes_iff.mp echo]

theorem reading_parse (context text : String) : Reading context text (parse context text) := by
  by_cases braced : Braced text
  · rw [parse_of_braced braced]
    cases found : Reference.ofChars? text.toList with
    | some r => exact .reference braced (Reference.ofChars?_eq_some.mp found)
    | none =>
        refine .malformed braced (fun r spelled => ?_) (echoes_iff.mpr rfl)
        simp [Reference.ofChars?_eq_some.mpr spelled] at found
  · rw [parse_of_not_braced braced]
    by_cases good : Ident.WellFormed text
    · rw [Ident.parse_eq_ok.mpr (rfl : (⟨text, good⟩ : Ident).text = text)]
      exact .literal braced rfl
    · obtain ⟨rule, refused⟩ := Ident.parse_eq_error good
      rw [refused]
      exact .notIdent braced good refused

/-- A slot is written like a text, but for a plus sign and zeros in front of a position. -/
def WrittenLike (s : TeamSlot) (text : String) : Prop :=
  s.text = text ∨ ∃ r n front lead, s = .reference r ∧
    (r.target = .rank n ∨ r.target = .position n) ∧ Text.IsLead lead ∧
    text.toList = front ++ ':' :: lead ++ Nat.toDigits 10 n ++ ['}'] ∧
    s.text.toList = front ++ ':' :: Nat.toDigits 10 n ++ ['}']

theorem writtenLike_of_spelled (h : r.Spelled text.toList) :
    (TeamSlot.reference r).WrittenLike text := by
  obtain ⟨-, rest, spelled, same⟩ := h
  have written := r.toList_text
  obtain ⟨stage, group, target⟩ := r
  cases spelled with
  | winner other | loser other => exact .inl (String.toList_inj.mp (written.trans same.symm))
  | @position n field spells =>
      obtain ⟨lead, isLead, rfl⟩ := spells.exists_lead
      refine .inr ⟨_, n, '{' :: stage.text.toList ++ ':' :: group.text.toList, lead, rfl, .inr rfl,
        isLead, ?_, ?_⟩
      · simp [same, List.intercalate_cons_cons]
      · simp [TeamSlot.text, written, Target.written, List.intercalate_cons_cons]
  | @rank n field spells =>
      obtain ⟨lead, isLead, rfl⟩ := spells.exists_lead
      refine .inr ⟨_, n, '{' :: stage.text.toList ++ ':' :: group.text.toList ++
        ':' :: "league".toList, lead, rfl, .inl rfl, isLead, ?_, ?_⟩
      · simp [same, List.intercalate_cons_cons]
      · simp [TeamSlot.text, written, Target.written, List.intercalate_cons_cons]

/-- A text is read as what it has to be read as, and nothing else. A slot that is read is written
like its text, and from its written form it is read again. -/
theorem parse_eq_iff_reading (context text : String) :
    (∀ answer, parse context text = answer ↔ Reading context text answer) ∧
      ∀ s, parse context text = .ok s →
        s.WrittenLike text ∧ ∀ context', parse context' s.text = .ok s := by
  constructor
  · intro answer
    constructor
    · rintro rfl
      exact reading_parse context text
    · exact Reading.parse_eq
  · intro s found
    have reading := found ▸ reading_parse context text
    cases reading with
    | literal plain same =>
        subst same
        exact ⟨.inl rfl, fun context' => Reading.parse_eq (.literal plain rfl)⟩
    | reference _ spelled =>
        exact ⟨writtenLike_of_spelled spelled, fun context' => parse_of_nameable context' spelled.1⟩

theorem parse_signedRank :
    parse ownContext "\x7bKO:SF:league:+007\x7d" = .ok (.reference ⟨knockout, semifinals, .rank 7⟩) :=
  rfl

theorem signedRank_read_again :
    parse ownContext "\x7bKO:SF:league:+007\x7d" = .ok (.reference ⟨knockout, semifinals, .rank 7⟩) ∧
      (TeamSlot.reference ⟨knockout, semifinals, .rank 7⟩).WrittenLike "\x7bKO:SF:league:+007\x7d" ∧
      ∀ context', parse context' (TeamSlot.reference ⟨knockout, semifinals, .rank 7⟩).text =
        .ok (.reference ⟨knockout, semifinals, .rank 7⟩) :=
  ⟨parse_signedRank, (parse_eq_iff_reading _ _).2 _ parse_signedRank⟩

end TeamSlot

end Tourney
