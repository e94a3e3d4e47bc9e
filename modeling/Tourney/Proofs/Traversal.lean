import Mathlib.Data.List.Forall2

/-!
# Traversals that stop at the first failure

A computation in `Except` succeeds when each of its parts does. A traversal of a list succeeds when
it succeeds on every element, and it depends on nothing but its results on the elements. One that
carries a state keeps what each of its steps keeps. With a state beside it, a computation may come
to an answer and leave the state as it was (`Gives`).
-/

namespace Tourney

variable {ε α β : Type}

theorem bind_eq_ok {x : Except ε α} {f : α → Except ε β} {b : β} :
    x >>= f = .ok b ↔ ∃ a, x = .ok a ∧ f a = .ok b := by
  cases x <;> simp [bind, Except.bind]

/-- A step after a check: it is reached when the check passes. -/
theorem check_bind_eq_ok {x : Except ε Unit} {next : Unit → Except ε β} {b : β} :
    x >>= next = .ok b ↔ x = .ok () ∧ next () = .ok b := by
  rw [bind_eq_ok]
  constructor
  · rintro ⟨⟨⟩, passes, rest⟩
    exact ⟨passes, rest⟩
  · rintro ⟨passes, rest⟩
    exact ⟨(), passes, rest⟩

theorem bind_eq_error {x : Except ε α} {f : α → Except ε β} {e : ε} :
    x >>= f = .error e ↔ x = .error e ∨ ∃ a, x = .ok a ∧ f a = .error e := by
  cases x <;> simp [bind, Except.bind]

/-- A step after a refusal: it is only reached when nothing is refused. -/
theorem refuse_bind_eq_ok {p : Prop} [Decidable p] {e : ε} {next : Unit → Except ε β} {b : β} :
    (if p then throw e >>= next else next ()) = .ok b ↔ ¬p ∧ next () = .ok b := by
  by_cases h : p <;> simp [h, bind, Except.bind, throw, throwThe, MonadExceptOf.throw]

theorem discard_eq_ok {x : Except ε α} {u : Unit} : discard x = .ok u ↔ ∃ a, x = .ok a := by
  cases x <;> simp [discard, Functor.discard, Functor.mapConst, Except.map]

theorem forM_eq_ok {f : α → Except ε Unit} {xs : List α} :
    xs.forM f = .ok () ↔ ∀ x ∈ xs, f x = .ok () := by
  induction xs with
  | nil => simp [pure, Except.pure]
  | cons x xs ih =>
      have step : (x :: xs).forM f = .ok () ↔ ∃ u, f x = .ok u ∧ xs.forM f = .ok () := bind_eq_ok
      rw [step, ih, List.forall_mem_cons]
      constructor
      · rintro ⟨⟨⟩, hx, rest⟩
        exact ⟨hx, rest⟩
      · rintro ⟨hx, rest⟩
        exact ⟨(), hx, rest⟩

theorem mapM_eq_ok {f : α → Except ε β} {xs : List α} {ys : List β} :
    xs.mapM f = .ok ys ↔ List.Forall₂ (fun x y => f x = .ok y) xs ys := by
  induction xs generalizing ys with
  | nil => cases ys <;> simp [pure, Except.pure]
  | cons x xs ih =>
      rw [List.mapM_cons, bind_eq_ok]
      cases ys <;> simp [bind_eq_ok, ih, pure, Except.pure]

theorem exists_of_forall₂_right {R : α → β → Prop} {xs : List α} {ys : List β}
    (h : List.Forall₂ R xs ys) {y : β} (mem : y ∈ ys) : ∃ x ∈ xs, R x y := by
  induction h with
  | nil => cases mem
  | cons hx _ ih =>
      rcases List.mem_cons.mp mem with rfl | mem
      · exact ⟨_, List.mem_cons_self, hx⟩
      · obtain ⟨x, hm, hr⟩ := ih mem
        exact ⟨x, List.mem_cons_of_mem _ hm, hr⟩

theorem exists_of_forall₂_left {R : α → β → Prop} {xs : List α} {ys : List β}
    (h : List.Forall₂ R xs ys) {x : α} (mem : x ∈ xs) : ∃ y ∈ ys, R x y :=
  exists_of_forall₂_right h.flip mem

theorem map_eq_of_forall₂ {γ : Type} {R : α → β → Prop} {f : α → γ} {g : β → γ} {xs : List α}
    {ys : List β} (h : List.Forall₂ R xs ys) (same : ∀ x y, R x y → f x = g y) :
    xs.map f = ys.map g := by
  induction h with
  | nil => rfl
  | cons hxy _ ih => rw [List.map_cons, List.map_cons, same _ _ hxy, ih]

theorem flatMap_eq_of_forall₂ {γ : Type} {R : α → β → Prop} {f : α → List γ} {g : β → List γ}
    {xs : List α} {ys : List β} (h : List.Forall₂ R xs ys) (same : ∀ x y, R x y → f x = g y) :
    xs.flatMap f = ys.flatMap g := by
  rw [List.flatMap_def, List.flatMap_def, map_eq_of_forall₂ h same]

theorem exists_of_mapM_eq_ok {f : α → Except ε β} {xs : List α} {ys : List β}
    (h : xs.mapM f = .ok ys) {y : β} (mem : y ∈ ys) : ∃ x ∈ xs, f x = .ok y :=
  exists_of_forall₂_right (mapM_eq_ok.mp h) mem

theorem mapM_ok_of_ok {f g : α → Except ε β} {xs : List α} {ys : List β}
    (h : ∀ x ∈ xs, ∀ y, f x = .ok y → g x = .ok y) (hf : xs.mapM f = .ok ys) :
    xs.mapM g = .ok ys := by
  rw [mapM_eq_ok] at hf ⊢
  induction hf with
  | nil => exact .nil
  | cons hx _ ih =>
      exact .cons (h _ List.mem_cons_self _ hx) (ih fun y hy => h y (List.mem_cons_of_mem _ hy))

theorem mapM_eq_error {f : α → Except ε β} {xs : List α} {e : ε} (h : xs.mapM f = .error e) :
    ∃ x ∈ xs, f x = .error e := by
  induction xs with
  | nil => simp [pure, Except.pure] at h
  | cons x xs ih =>
      rw [List.mapM_cons] at h
      cases hx : f x with
      | error e' =>
          simp only [hx, bind, Except.bind, Except.error.injEq] at h
          exact ⟨x, List.mem_cons_self, h ▸ hx⟩
      | ok y =>
          cases hxs : xs.mapM f with
          | error e' =>
              simp only [hx, hxs, bind, Except.bind, Except.error.injEq] at h
              subst h
              obtain ⟨z, hz, hf⟩ := ih hxs
              exact ⟨z, List.mem_cons_of_mem _ hz, hf⟩
          | ok ys => simp [hx, hxs, bind, Except.bind, pure, Except.pure] at h

/-! ## Traversals that carry a state -/

section Folds

variable {σ τ : Type} {f : σ → α → Except ε σ} {s s' : σ}

theorem foldlM_cons_eq_ok {x : α} {xs : List α} :
    (x :: xs).foldlM f s = .ok s' ↔ ∃ t, f s x = .ok t ∧ xs.foldlM f t = .ok s' := by
  rw [List.foldlM_cons, bind_eq_ok]

/-- What each step keeps is kept, and where each step puts one more part at the end, the parts
correspond to the elements in their order. -/
theorem foldlM_grows (parts : σ → List β) {P : σ → Prop} {Q : α → β → Prop}
    (step : ∀ s x s', P s → f s x = .ok s' → P s' ∧ ∃ y, Q x y ∧ parts s' = parts s ++ [y])
    {xs : List α} (start : P s) (h : xs.foldlM f s = .ok s') :
    P s' ∧ ∃ ys, List.Forall₂ Q xs ys ∧ parts s' = parts s ++ ys := by
  induction xs generalizing s with
  | nil =>
      cases h
      exact ⟨start, [], .nil, by simp⟩
  | cons x xs ih =>
      obtain ⟨t, first, rest⟩ := foldlM_cons_eq_ok.mp h
      obtain ⟨kept, y, hy, grown⟩ := step s x t start first
      obtain ⟨kept', ys, hys, grown'⟩ := ih kept rest
      exact ⟨kept', y :: ys, .cons hy hys, by simp [grown', grown]⟩

/-- Where each step only puts one more part at the end, all parts are put there and nothing else
changes. -/
theorem foldlM_appends (append : σ → List β → σ) {Q : α → β → Prop}
    (none : ∀ s, append s [] = s) (more : ∀ s y ys, append (append s [y]) ys = append s (y :: ys))
    (step : ∀ s x s', f s x = .ok s' → ∃ y, Q x y ∧ s' = append s [y]) {xs : List α}
    (h : xs.foldlM f s = .ok s') : ∃ ys, List.Forall₂ Q xs ys ∧ s' = append s ys := by
  induction xs generalizing s with
  | nil =>
      cases h
      exact ⟨[], .nil, (none _).symm⟩
  | cons x xs ih =>
      obtain ⟨t, first, rest⟩ := foldlM_cons_eq_ok.mp h
      obtain ⟨y, hy, rfl⟩ := step s x t first
      obtain ⟨ys, hys, rfl⟩ := ih rest
      exact ⟨y :: ys, .cons hy hys, more s y ys⟩

theorem foldlM_keeps {P : σ → Prop} (step : ∀ s x s', P s → f s x = .ok s' → P s') {xs : List α}
    (start : P s) (h : xs.foldlM f s = .ok s') : P s' := by
  induction xs generalizing s with
  | nil => cases h; exact start
  | cons x xs ih =>
      obtain ⟨t, first, rest⟩ := foldlM_cons_eq_ok.mp h
      exact ih (step s x t start first) rest

/-- Two traversals whose steps correspond come to corresponding results. -/
theorem foldlM_map {g : τ → β → Except ε τ} {φ : σ → τ} {ψ : α → β} {P : σ → Prop}
    {xs : List α} (keeps : ∀ s x s', P s → f s x = .ok s' → P s')
    (step : ∀ s, P s → ∀ x ∈ xs, g (φ s) (ψ x) = (f s x).map φ) (start : P s) :
    (xs.map ψ).foldlM g (φ s) = (xs.foldlM f s).map φ := by
  induction xs generalizing s with
  | nil => rfl
  | cons x xs ih =>
      have first := step s start x List.mem_cons_self
      rw [List.map_cons, List.foldlM_cons, List.foldlM_cons, first]
      cases hx : f s x with
      | error e => rfl
      | ok t =>
          exact ih (fun s hs y hy => step s hs y (List.mem_cons_of_mem _ hy))
            (keeps s x t start hx)

end Folds

/-! ## Computations that leave their state -/

section States

variable {σ : Type} {x : ExceptT ε (StateM σ) α} {s : σ} {answer : Except ε α}

/-- From a state, a computation comes to an answer and leaves the state as it was. -/
def Gives (x : ExceptT ε (StateM σ) α) (s : σ) (answer : Except ε α) : Prop :=
  (ExceptT.run x).run s = (answer, s)

theorem gives_ofExcept (answer : Except ε α) :
    Gives (MonadExcept.ofExcept answer : ExceptT ε (StateM σ) α) s answer := by
  cases answer <;> rfl

theorem gives_bind {next : α → ExceptT ε (StateM σ) β} {after : α → Except ε β}
    (first : Gives x s answer) (rest : ∀ a, answer = .ok a → Gives (next a) s (after a)) :
    Gives (x >>= next) s (answer >>= after) := by
  unfold Gives at *
  rw [ExceptT.run_bind, StateT.run_bind, first]
  cases answer with
  | error e => rfl
  | ok a => exact rest a rfl

theorem gives_get_bind {next : σ → ExceptT ε (StateM σ) α} (h : Gives (next s) s answer) :
    Gives (get >>= next) s answer :=
  h

theorem gives_discard (h : Gives x s answer) : Gives (discard x) s (discard answer) := by
  have stateful : discard x = x >>= fun _ => pure () := rfl
  have plain : discard answer = answer >>= fun _ => pure () := by
    cases answer <;> rfl
  rw [stateful, plain]
  exact gives_bind h fun _ _ => rfl

theorem gives_mapM {f : β → ExceptT ε (StateM σ) α} {g : β → Except ε α} {xs : List β}
    (each : ∀ x ∈ xs, Gives (f x) s (g x)) : Gives (xs.mapM f) s (xs.mapM g) := by
  induction xs with
  | nil => rfl
  | cons x xs ih =>
      obtain ⟨first, rest⟩ := List.forall_mem_cons.mp each
      rw [List.mapM_cons, List.mapM_cons]
      refine gives_bind first fun y _ => ?_
      exact gives_bind (ih rest) fun ys _ => rfl

theorem gives_foldlM {τ : Type} {f : τ → β → ExceptT ε (StateM σ) τ} {g : τ → β → Except ε τ}
    {xs : List β} (each : ∀ t, ∀ x ∈ xs, Gives (f t x) s (g t x)) (t : τ) :
    Gives (xs.foldlM f t) s (xs.foldlM g t) := by
  induction xs generalizing t with
  | nil => rfl
  | cons x xs ih =>
      rw [List.foldlM_cons, List.foldlM_cons]
      refine gives_bind (each t x List.mem_cons_self) fun t' _ => ?_
      exact ih (fun t y hy => each t y (List.mem_cons_of_mem _ hy)) t'

theorem gives_forM {f : β → ExceptT ε (StateM σ) Unit} {g : β → Except ε Unit} {xs : List β}
    (each : ∀ x ∈ xs, Gives (f x) s (g x)) : Gives (xs.forM f) s (xs.forM g) := by
  induction xs with
  | nil => rfl
  | cons x xs ih =>
      obtain ⟨first, rest⟩ := List.forall_mem_cons.mp each
      exact gives_bind first fun _ _ => ih rest

end States

end Tourney
