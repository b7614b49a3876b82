import Mathlib.Data.List.Forall2

/-!
# Steps that can fail

A list of steps is taken from the first to the last and stops at the first one that fails
(`exists_of_mapM_eq_error`).  All of them succeed exactly if every one does (`exists_mapM_eq_ok_iff`), and their
results are then those of the single steps, one by one (`forall₂_of_mapM_eq_ok`, `mem_of_mapM_eq_ok`).
-/

namespace NamespaceManifest

section Steps

variable {ε α β : Type} {f : α → Except ε β}

theorem bind_pure_eq_ok_iff
    {x : Except ε α} {g : α → β} {b : β} :
    (x >>= fun a => pure (g a)) = .ok b ↔ ∃ a, x = .ok a ∧ g a = b := by
  cases x <;> simp [bind, Except.bind, pure, Except.pure]

theorem bind_pure_eq_error_iff
    {x : Except ε α} {g : α → β} {e : ε} :
    (x >>= fun a => pure (g a)) = .error e ↔ x = .error e := by
  cases x <;> simp [bind, Except.bind, pure, Except.pure]

theorem mapM_cons_eq_ok_iff
    {x : α} {xs : List α} {ys : List β} :
    (x :: xs).mapM f = .ok ys ↔
      ∃ z zs, f x = .ok z ∧ xs.mapM f = .ok zs ∧ ys = z :: zs := by
  rw [List.mapM_cons]
  cases hx : f x with
  | error e =>
      simp [bind, Except.bind]
  | ok z =>
      cases hxs : xs.mapM f with
      | error e =>
          simp [bind, Except.bind]
      | ok zs =>
          simp [bind, Except.bind, pure, Except.pure, eq_comm]

theorem forall₂_of_mapM_eq_ok
    {xs : List α} {ys : List β}
    (h : xs.mapM f = .ok ys) :
    List.Forall₂ (fun x y => f x = .ok y) xs ys := by
  induction xs generalizing ys with
  | nil =>
      cases h
      exact .nil
  | cons x xs ih =>
      rw [mapM_cons_eq_ok_iff] at h
      obtain ⟨z, zs, hz, hzs, rfl⟩ := h
      exact .cons hz (ih hzs)

/-- The results of steps that all succeed. -/
theorem mem_of_mapM_eq_ok
    {xs : List α} {ys : List β} {y : β}
    (h : xs.mapM f = .ok ys) :
    y ∈ ys ↔ ∃ x ∈ xs, f x = .ok y := by
  replace h := forall₂_of_mapM_eq_ok h
  induction h with
  | nil =>
      simp
  | cons hz _ ih =>
      simp [ih, hz, eq_comm]

/-- Steps all succeed if every one does. -/
theorem exists_mapM_eq_ok_iff
    {xs : List α} :
    (∃ ys, xs.mapM f = .ok ys) ↔ ∀ x ∈ xs, ∃ y, f x = .ok y := by
  induction xs with
  | nil =>
      simp [pure, Except.pure]
  | cons x xs ih =>
      rw [List.forall_mem_cons, ← ih]
      constructor
      · rintro ⟨ys, h⟩
        rw [mapM_cons_eq_ok_iff] at h
        obtain ⟨z, zs, hz, hzs, -⟩ := h
        exact ⟨⟨z, hz⟩, zs, hzs⟩
      · rintro ⟨⟨z, hz⟩, zs, hzs⟩
        refine ⟨z :: zs, ?_⟩
        rw [mapM_cons_eq_ok_iff]
        exact ⟨z, zs, hz, hzs, rfl⟩

/-- Steps that do not all succeed have one that fails. -/
theorem exists_of_mapM_eq_error
    {xs : List α} {e : ε}
    (h : xs.mapM f = .error e) :
    ∃ x ∈ xs, f x = .error e := by
  induction xs with
  | nil =>
      cases h
  | cons x xs ih =>
      rw [List.mapM_cons] at h
      cases hx : f x with
      | error e' =>
          simp only [hx, bind, Except.bind, Except.error.injEq] at h
          exact ⟨x, by simp, by rw [hx, h]⟩
      | ok z =>
          cases hxs : xs.mapM f with
          | error e' =>
              simp only [hx, hxs, bind, Except.bind, Except.error.injEq] at h
              obtain ⟨y, hy, hfail⟩ := ih (by rw [hxs, h])
              exact ⟨y, List.mem_cons_of_mem x hy, hfail⟩
          | ok zs =>
              simp [hx, hxs, bind, Except.bind, pure, Except.pure] at h

/-- What the results of steps hold, the steps hold. -/
theorem perm_flatMap_of_mapM_eq_ok
    {γ : Type} {xs : List α} {ys : List β} {g : β → List γ} {k : α → List γ}
    (h : xs.mapM f = .ok ys)
    (hg : ∀ x y, f x = .ok y → (g y).Perm (k x)) :
    (ys.flatMap g).Perm (xs.flatMap k) := by
  replace h := forall₂_of_mapM_eq_ok h
  induction h with
  | nil =>
      exact List.Perm.refl _
  | cons hz _ ih =>
      rw [List.flatMap_cons, List.flatMap_cons]
      exact (hg _ _ hz).append ih

end Steps

end NamespaceManifest
