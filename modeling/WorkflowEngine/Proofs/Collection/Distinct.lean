import WorkflowEngine.Collection.Distinct

/-!
# Entries that are new

A list grows by entries of another one, and those that are there already are left out.

* `addNew_eq`: what comes of entries put behind a list one at a time;
* `addNew_eq_distinct`: behind a list without repetition, that is `distinct` of both;
* `distinct_map`: `distinct` of a list whose entries were renamed;
* **`FirstOccurrences`**: the entries of a list, each once, in the order in which they come first;
* `firstOccurrences_iff`: there is one such list, and it is `distinct`.
-/

namespace WorkflowEngine

variable {α : Type} [DecidableEq α]

theorem addNew_eq (xs ys : List α) : addNew xs ys = xs ++ (distinct ys).filter (· ∉ xs) := by
  induction ys generalizing xs with
  | nil => simp
  | cons y ys ih =>
    rw [addNew_cons, ih, distinct, List.filter_cons, List.filter_filter]
    by_cases hy : y ∈ xs
    · -- what is not there differs from `y`, so leaving `y` out first makes no difference
      simp only [hy, if_true, not_true_eq_false, decide_false, Bool.false_eq_true, if_false]
      congr 1
      refine List.filter_congr fun z _ => ?_
      by_cases hz : z ∈ xs
      · simp [hz]
      · have hne : z ≠ y := fun heq => hz (heq ▸ hy)
        simp [hz, hne]
    · simp only [hy, if_false, not_false_eq_true, decide_true, if_true, List.append_assoc,
        List.singleton_append]
      congr 2
      refine List.filter_congr fun z _ => ?_
      simp [List.mem_append]

theorem addNew_eq_distinct {xs : List α} (nodup : xs.Nodup) (ys : List α) :
    addNew xs ys = distinct (xs ++ ys) := by
  rw [addNew_eq, distinct_append, distinct_of_nodup nodup]

theorem distinct_map {β : Type} [DecidableEq β] {f : α → β} (inj : Function.Injective f)
    (xs : List α) : distinct (xs.map f) = (distinct xs).map f := by
  induction xs with
  | nil => rfl
  | cons x xs ih =>
    rw [List.map_cons, distinct, ih, distinct, List.map_cons, List.filter_map]
    refine congrArg (_ :: List.map f ·) (List.filter_congr fun y _ => ?_)
    simp [inj.eq_iff]

/-! ## The order of first occurrence -/

/-- **The entries of a list, each once**, in the order in which they come first. -/
structure FirstOccurrences (ys xs : List α) : Prop where
  mem_iff : ∀ x, x ∈ ys ↔ x ∈ xs
  ordered : ys.Pairwise fun x y => xs.idxOf x < xs.idxOf y

theorem FirstOccurrences.nodup {xs ys : List α} (h : FirstOccurrences ys xs) : ys.Nodup :=
  h.ordered.imp fun hlt heq => by
    rw [heq] at hlt
    exact Nat.lt_irrefl _ hlt

theorem firstOccurrences_distinct (xs : List α) : FirstOccurrences (distinct xs) xs where
  mem_iff _ := mem_distinct
  ordered := by
    induction xs with
    | nil => exact .nil
    | cons x xs ih =>
      have hbehind : ∀ y ∈ (distinct xs).filter (· ≠ x), (x :: xs).idxOf y = xs.idxOf y + 1 := by
        intro y hy
        have hne : x ≠ y := by
          rintro rfl
          simp at hy
        rw [List.idxOf_cons, beq_eq_false_iff_ne.2 hne, cond_false]
      rw [distinct, List.pairwise_cons]
      constructor
      · intro y hy
        rw [List.idxOf_cons_self, hbehind y hy]
        exact Nat.succ_pos _
      · refine (ih.filter _).imp_of_mem fun {y z} hy hz hlt => ?_
        rw [hbehind y hy, hbehind z hz]
        omega

theorem firstOccurrences_iff {xs ys : List α} : FirstOccurrences ys xs ↔ ys = distinct xs := by
  constructor
  · intro h
    have hdistinct := firstOccurrences_distinct xs
    have hperm : ys.Perm (distinct xs) :=
      (List.perm_ext_iff_of_nodup h.nodup hdistinct.nodup).2 fun x =>
        (h.mem_iff x).trans (hdistinct.mem_iff x).symm
    refine hperm.eq_of_pairwise (fun x y _ _ hxy hyx => ?_) h.ordered hdistinct.ordered
    exact absurd (Nat.lt_trans hxy hyx) (Nat.lt_irrefl _)
  · rintro rfl
    exact firstOccurrences_distinct xs

end WorkflowEngine
