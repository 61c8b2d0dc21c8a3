/-!
# Lists without repetition

* `distinct`: the first occurrence of every entry, in order;
* `mem_distinct`, `nodup_distinct`: it keeps the members and repeats none;
* `distinct_of_nodup`: a list without repetition stays as it is;
* `distinct_append`: entries of a second list come behind those of the first, if they are new;
* `addNew`: entries put behind a list one at a time, those that are there already left out.
-/

namespace WorkflowEngine

variable {α : Type} [DecidableEq α]

/-- **The first occurrence of every entry**, in the order of the list. -/
def distinct : List α → List α
  | [] => []
  | x :: xs => x :: (distinct xs).filter (· ≠ x)

@[simp] theorem distinct_nil : distinct ([] : List α) = [] := rfl

@[simp] theorem mem_distinct {x : α} {xs : List α} : x ∈ distinct xs ↔ x ∈ xs := by
  induction xs with
  | nil => simp
  | cons y ys ih => by_cases h : x = y <;> simp [distinct, h, ih]

theorem nodup_distinct (xs : List α) : (distinct xs).Nodup := by
  induction xs with
  | nil => simp
  | cons y ys ih => exact List.nodup_cons.2 ⟨by simp, ih.filter _⟩

theorem distinct_of_nodup {xs : List α} (h : xs.Nodup) : distinct xs = xs := by
  induction xs with
  | nil => rfl
  | cons y ys ih =>
    obtain ⟨hy, hys⟩ := List.nodup_cons.1 h
    rw [distinct, ih hys, List.filter_eq_self.2]
    intro z hz
    have : z ≠ y := fun e => hy (e ▸ hz)
    simpa using this

@[simp] theorem distinct_distinct (xs : List α) : distinct (distinct xs) = distinct xs :=
  distinct_of_nodup (nodup_distinct xs)

@[simp] theorem distinct_eq_nil_iff {xs : List α} : distinct xs = [] ↔ xs = [] := by
  cases xs <;> simp [distinct]

theorem distinct_append (xs ys : List α) :
    distinct (xs ++ ys) = distinct xs ++ (distinct ys).filter (· ∉ xs) := by
  induction xs with
  | nil => exact (List.filter_eq_self.2 (by simp)).symm
  | cons x xs ih =>
    rw [List.cons_append, distinct, ih, List.filter_append, List.filter_filter, distinct,
      List.cons_append]
    refine congrArg (_ :: _ ++ ·) (List.filter_congr fun y _ => ?_)
    by_cases h : y = x <;> simp [h]

/-- **Entries put behind a list** one at a time, those that are there already left out. -/
def addNew (xs ys : List α) : List α := ys.foldl (fun xs y => if y ∈ xs then xs else xs ++ [y]) xs

@[simp] theorem addNew_nil (xs : List α) : addNew xs [] = xs := rfl

theorem addNew_cons (xs : List α) (y : α) (ys : List α) :
    addNew xs (y :: ys) = addNew (if y ∈ xs then xs else xs ++ [y]) ys := rfl

end WorkflowEngine
