import Mathlib.Data.List.Forall2

/-!
# Steps that may fail

* `bind_eq_ok_iff`, `mapError_eq_ok_iff`, `toOption_eq_some_iff`: a step that goes on from an earlier
  one;
* `forall₂_of_mapM_ok`, `getElem?_of_mapM_ok`: what comes of a list, entry by entry;
* `exists_of_mapM_ok`, `exists_of_mapM_some`, `exists_of_mem_mapM`: what comes of a list comes of its
  entries.
-/

namespace WorkflowEngine

variable {ε ε' α β : Type}

/-- **Two steps succeed** when the first does and the second does with what it gives. -/
theorem bind_eq_ok_iff {x : Except ε α} {f : α → Except ε β} {b : β} :
    x >>= f = .ok b ↔ ∃ a, x = .ok a ∧ f a = .ok b := by
  cases x <;> simp [bind, Except.bind]

theorem mapError_eq_ok_iff {x : Except ε α} {f : ε → ε'} {a : α} :
    x.mapError f = .ok a ↔ x = .ok a := by
  cases x with
  | error e => exact ⟨nofun, nofun⟩
  | ok b => exact ⟨fun h => congrArg _ (Except.ok.inj h), fun h => congrArg _ (Except.ok.inj h)⟩

theorem toOption_eq_some_iff {x : Except ε α} {a : α} : x.toOption = some a ↔ x = .ok a := by
  cases x <;> simp [Except.toOption]

theorem forall₂_of_mapM_ok {f : α → Except ε β} {xs : List α} {ys : List β}
    (h : xs.mapM f = .ok ys) : List.Forall₂ (fun x y => f x = .ok y) xs ys := by
  induction xs generalizing ys with
  | nil =>
    cases h
    exact .nil
  | cons x xs ih =>
    rw [List.mapM_cons] at h
    obtain ⟨y, hy, h⟩ := bind_eq_ok_iff.1 h
    obtain ⟨rest, hrest, h⟩ := bind_eq_ok_iff.1 h
    cases h
    exact .cons hy (ih hrest)

theorem getElem?_of_mapM_ok {f : α → Except ε β} {xs : List α} {ys : List β}
    (h : xs.mapM f = .ok ys) (i : Nat) : ys[i]? = xs[i]?.bind fun x => (f x).toOption := by
  have hall := forall₂_of_mapM_ok h
  clear h
  induction hall generalizing i with
  | nil => rfl
  | cons hy _ ih =>
    cases i with
    | zero => exact (toOption_eq_some_iff.2 hy).symm
    | succ i => simpa using ih i

theorem exists_of_mapM_ok {f : α → Except ε β} {xs : List α} {ys : List β}
    (h : xs.mapM f = .ok ys) : ∀ y ∈ ys, ∃ x ∈ xs, f x = .ok y := by
  intro y hy
  obtain ⟨i, hi⟩ := List.mem_iff_getElem?.1 hy
  rw [getElem?_of_mapM_ok h] at hi
  obtain ⟨x, hx, hfx⟩ := Option.bind_eq_some_iff.1 hi
  exact ⟨x, List.mem_of_getElem? hx, toOption_eq_some_iff.1 hfx⟩

theorem exists_of_mapM_some {f : α → Option β} {xs : List α} {ys : List β}
    (h : xs.mapM f = some ys) : ∀ y ∈ ys, ∃ x ∈ xs, f x = some y := by
  induction xs generalizing ys with
  | nil =>
    cases h
    simp
  | cons x xs ih =>
    rw [List.mapM_cons] at h
    obtain ⟨y, hy, h⟩ := Option.bind_eq_some_iff.1 h
    obtain ⟨rest, hrest, h⟩ := Option.bind_eq_some_iff.1 h
    cases h
    refine List.forall_mem_cons.2 ⟨⟨x, List.mem_cons_self, hy⟩, fun z hz => ?_⟩
    obtain ⟨x', hx', hz'⟩ := ih hrest z hz
    exact ⟨x', List.mem_cons_of_mem _ hx', hz'⟩

theorem exists_of_mem_mapM {σ : Type} {f : α → StateM σ β} {xs : List α} {s : σ} {b : β}
    (h : b ∈ (xs.mapM f s).1) : ∃ x ∈ xs, ∃ s', (f x s').1 = b := by
  induction xs generalizing s with
  | nil => cases h
  | cons x xs ih =>
    rw [List.mapM_cons] at h
    rcases List.mem_cons.1 h with rfl | h
    · exact ⟨x, List.mem_cons_self, s, rfl⟩
    · obtain ⟨x', hx', h⟩ := ih h
      exact ⟨x', List.mem_cons_of_mem _ hx', h⟩

end WorkflowEngine
