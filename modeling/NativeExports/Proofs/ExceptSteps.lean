import Mathlib
/-!
Purpose: the steps of a computation in `Except`, as simp lemmas, so that a run of the
program's monadic code is evaluated one bind at a time, and the two facts every proof about a
successful run starts from: a bind that succeeds ran both parts to success
(`except_bind_eq_ok`), and a successful fold keeps what each of its steps keeps
(`foldlM_except_inv`).
-/

namespace NativeExports

section ExceptSteps

variable {ε α β : Type}

@[simp] theorem except_ok_bind (a : α) (f : α → Except ε β) : (Except.ok a >>= f) = f a := rfl

@[simp] theorem except_error_bind (e : ε) (f : α → Except ε β) :
    (Except.error e >>= f) = .error e := rfl

@[simp] theorem throw_except (e : ε) : (throw e : Except ε α) = .error e := rfl

@[simp] theorem tryCatch_except_ok (a : α) (h : ε → Except ε α) :
    tryCatch (Except.ok a : Except ε α) h = .ok a := rfl

@[simp] theorem tryCatch_except_error (e : ε) (h : ε → Except ε α) :
    tryCatch (Except.error e : Except ε α) h = h e := rfl

@[simp] theorem mapError_except_ok {δ : Type} (a : α) (f : ε → δ) :
    (Except.ok a : Except ε α).mapError f = .ok a := rfl

@[simp] theorem mapError_except_error {δ : Type} (e : ε) (f : ε → δ) :
    (Except.error e : Except ε α).mapError f = .error (f e) := rfl

@[simp] theorem ofExcept_except (x : Except ε α) : (MonadExcept.ofExcept x : Except ε α) = x := by
  cases x <;> rfl

/-- A bind that succeeds ran both of its parts to success. -/
theorem except_bind_eq_ok {x : Except ε α} {f : α → Except ε β} {b : β}
    (h : (x >>= f) = .ok b) : ∃ a, x = .ok a ∧ f a = .ok b := by
  cases x with
  | error e => cases h
  | ok a => exact ⟨a, rfl, h⟩

/-- A mapped computation succeeds only when the computation does. -/
theorem except_map_eq_ok {f : α → β} {x : Except ε α} {b : β}
    (h : f <$> x = .ok b) : ∃ a, x = .ok a ∧ f a = b := by
  cases x with
  | error e => cases h
  | ok a => exact ⟨a, rfl, by simpa using h⟩

/-- A mapping of a list with a head that succeeds ran the head, then the rest, to success. -/
theorem mapM_cons_eq_ok {f : α → Except ε β} {x : α} {xs : List α} {ys : List β}
    (h : (x :: xs).mapM f = .ok ys) : ∃ y ys', f x = .ok y ∧ xs.mapM f = .ok ys' ∧ ys = y :: ys' := by
  rw [List.mapM_cons] at h
  obtain ⟨y, hy, hrest⟩ := except_bind_eq_ok h
  obtain ⟨ys', hys', hys⟩ := except_bind_eq_ok hrest
  cases hys
  exact ⟨y, ys', hy, hys', rfl⟩

/-- A fold that succeeds keeps every property that each of its steps keeps. -/
theorem foldlM_except_inv {f : β → α → Except ε β} {l : List α} (P : β → Prop)
    (step : ∀ b a b', a ∈ l → P b → f b a = .ok b' → P b') :
    ∀ {b b'}, P b → l.foldlM f b = .ok b' → P b' := by
  induction l with
  | nil => intro b b' hb h; cases h; exact hb
  | cons a l ih =>
    intro b b' hb h
    rw [List.foldlM_cons] at h
    obtain ⟨c, hc, hrest⟩ := except_bind_eq_ok h
    exact ih (fun b a b' ha => step b a b' (List.mem_cons_of_mem _ ha))
      (step b a c List.mem_cons_self hb hc) hrest

/-- A mapped computation fails as the computation does. -/
theorem except_map_eq_error {f : α → β} {x : Except ε α} {e : ε} (h : f <$> x = .error e) :
    x = .error e := by
  cases x with
  | error e' => cases h; rfl
  | ok a => cases h

/-- A fold that fails failed at the step of one of its elements. -/
theorem foldlM_except_error {f : β → α → Except ε β} :
    ∀ {l : List α} {b : β} {e : ε}, l.foldlM f b = .error e → ∃ a ∈ l, ∃ c, f c a = .error e
  | [], _, _, h => by cases h
  | a :: l, b, e, h => by
    rw [List.foldlM_cons] at h
    cases hstep : f b a with
    | error e' =>
      rw [hstep, except_error_bind] at h
      cases h
      exact ⟨a, List.mem_cons_self, b, hstep⟩
    | ok c =>
      rw [hstep, except_ok_bind] at h
      obtain ⟨a', ha', c', hc'⟩ := foldlM_except_error h
      exact ⟨a', List.mem_cons_of_mem _ ha', c', hc'⟩

end ExceptSteps

end NativeExports
