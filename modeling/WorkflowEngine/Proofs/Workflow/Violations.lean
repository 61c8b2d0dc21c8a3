import Mathlib.Algebra.BigOperators.Group.Finset.Basic
import Mathlib.Algebra.GroupWithZero.Nat
import WorkflowEngine.Proofs.Workflow.Validity

/-!
# One complaint for every breach

A definition is accepted exactly when it is well formed. When it is refused, there are as many complaints
as there are breaches of the structural rules, each counted as often as it is committed.

* `repetitions`, `count_repeatedFrom`, `length_repeatedFrom`: names that occur again;
* `Definition.undeclared`, `Definition.endsViolations`, `Definition.violations`: the breaches, counted on
  the definition itself;
* `hasPlace_iff`, `length_endsDefects`, `length_transitionDefectsFrom`, `length_initialDefects`,
  `length_defects`: the complaints, rule by rule;
* **`validate_exact`**: what is accepted, and how many complaints there are otherwise.
-/

namespace WorkflowEngine

open scoped BigOperators

variable {d : Definition} {x : String} {xs seen : List String}

/-! ## Repeated names -/

/-- How many entries of a list have occurred before: of every name all occurrences but the first. -/
def repetitions (xs : List String) : Nat := ∑ x ∈ xs.toFinset, (xs.count x - 1)

/-- **A name is reported once for every occurrence but the first**, and for all of them if it had been
seen earlier. -/
theorem count_repeatedFrom :
    (repeatedFrom seen xs).count x = xs.count x - if x ∈ seen then 0 else 1 := by
  induction xs generalizing seen with
  | nil => simp [repeatedFrom]
  | cons y xs ih =>
    rw [repeatedFrom, List.count_append, ih]
    by_cases hxy : y = x
    · subst hxy
      by_cases hy : y ∈ seen <;> simp [hy, Nat.add_comm]
    · have hname : (if y ∈ seen then [y] else []).count x = 0 := by
        split <;> simp [hxy]
      rw [hname, List.count_cons_of_ne hxy, Nat.zero_add]
      simp [Ne.symm hxy]

theorem length_repeatedFrom (xs : List String) : (repeatedFrom [] xs).length = repetitions xs := by
  have hcount : ∀ x, (repeatedFrom [] xs).count x = xs.count x - 1 := fun x => count_repeatedFrom
  have hsubset : (repeatedFrom [] xs).toFinset ⊆ xs.toFinset := by
    intro x hx
    have hpos := List.count_pos_iff.2 (List.mem_toFinset.1 hx)
    rw [hcount] at hpos
    exact List.mem_toFinset.2 (List.count_pos_iff.1 (by omega))
  calc (repeatedFrom [] xs).length
      = ∑ x ∈ (repeatedFrom [] xs).toFinset, (repeatedFrom [] xs).count x :=
        (List.sum_toFinset_count_eq_length _).symm
    _ = ∑ x ∈ xs.toFinset, (repeatedFrom [] xs).count x :=
        Finset.sum_subset hsubset fun x _ hx =>
          List.count_eq_zero.2 fun hmem => hx (List.mem_toFinset.2 hmem)
    _ = repetitions xs := Finset.sum_congr rfl fun x _ => hcount x

/-! ## Counting breaches -/

namespace Definition

/-- How many entries of a list of places are not declared. -/
def undeclared (d : Definition) (places : List PlaceName) : Nat := places.countP (· ∉ d.placeNames)

/-- How often one transition breaks the rules, apart from its name: by a side without places, by a place
that is not declared, by several targets in a state machine. -/
def endsViolations (d : Definition) (t : Transition) : Nat :=
  (if t.sources = [] then 1 else 0) + (if t.targets = [] then 1 else 0) +
    d.undeclared t.sources + d.undeclared t.targets +
    (if d.kind = .stateMachine ∧ 1 < t.targets.length then 1 else 0)

/-- **How often a definition breaks the structural rules.** -/
def violations (d : Definition) : Nat :=
  (if Text.isBlankText d.name then 1 else 0) + repetitions d.placeNames +
    (repetitions (d.transitions.map (·.name)) + (d.transitions.map d.endsViolations).sum) +
    (d.undeclared d.initialPlaces +
      if d.kind = .stateMachine ∧ d.initialPlaces.length ≠ 1 then 1 else 0)

end Definition

/-! ## Counting complaints -/

theorem hasPlace_iff {p : PlaceName} : d.hasPlace p = true ↔ p ∈ d.placeNames := by
  simp [Definition.hasPlace, Definition.place?, Definition.placeNames]

theorem length_filter_hasPlace (d : Definition) (places : List PlaceName) :
    (places.filter (!d.hasPlace ·)).length = d.undeclared places := by
  rw [← List.countP_eq_length_filter]
  refine List.countP_congr fun p _ => ?_
  rw [Bool.not_eq_true', ← Bool.not_eq_true, hasPlace_iff, decide_eq_true_iff]

theorem length_ite_singleton {α : Type} (c : Prop) [Decidable c] (a : α) :
    (if c then [a] else []).length = if c then 1 else 0 := by
  split <;> rfl

theorem length_endsDefects (d : Definition) (t : Transition) :
    (d.endsDefects t).length = d.endsViolations t := by
  simp only [Definition.endsDefects, List.length_append, List.length_map, length_filter_hasPlace,
    length_ite_singleton, List.isEmpty_iff, Definition.endsViolations]

theorem length_transitionDefectsFrom (d : Definition) (seen : List TransitionName)
    (ts : List Transition) : (d.transitionDefectsFrom seen ts).length =
      (repeatedFrom seen (ts.map (·.name))).length + (ts.map d.endsViolations).sum := by
  induction ts generalizing seen with
  | nil => rfl
  | cons t ts ih =>
    rw [Definition.transitionDefectsFrom, List.length_append, List.length_append, ih,
      length_endsDefects, length_ite_singleton, List.map_cons, List.map_cons, repeatedFrom,
      List.length_append, length_ite_singleton, List.sum_cons]
    omega

theorem length_initialDefects (d : Definition) :
    d.initialDefects.length = d.undeclared d.initialPlaces +
      if d.kind = .stateMachine ∧ d.initialPlaces.length ≠ 1 then 1 else 0 := by
  rw [Definition.initialDefects, List.length_append, List.length_map, length_filter_hasPlace]
  refine congrArg (d.undeclared d.initialPlaces + ·) ?_
  cases d.kind with
  | workflow => simp
  | stateMachine => rcases d.initialPlaces.length with _ | _ | n <;> simp

theorem length_defects (d : Definition) : d.defects.length = d.violations := by
  rw [Definition.defects, List.length_append, List.length_append, List.length_append,
    length_ite_singleton, List.length_map, length_repeatedFrom, length_transitionDefectsFrom,
    length_repeatedFrom, length_initialDefects, Definition.violations]

/-! ## Acceptance -/

/-- **A definition is accepted exactly when it is well formed**, declared places being those that have one
of the declared names. When it is refused, there is one complaint for every breach. -/
theorem validate_exact (d : Definition) :
    (d.validate = .ok () ↔ d.WellFormed) ∧ (∀ p, d.hasPlace p = true ↔ p ∈ d.placeNames) ∧
      (¬d.WellFormed → ∃ defects, d.validate = .error (.invalid d.name defects) ∧
        (defects.map Defect.message).length = d.violations) := by
  have haccept : d.validate = .ok () ↔ d.WellFormed := validate_eq_ok_iff.trans isValid_iff
  refine ⟨haccept, fun p => hasPlace_iff, fun h => ⟨d.defects, ?_, ?_⟩⟩
  · rw [Definition.validate, if_neg]
    intro hnone
    exact h (haccept.1 (if_pos hnone))
  · rw [List.length_map, length_defects]

/-- A definition that breaks every rule, most of them more than once. -/
def tangled : Definition where
  name := " \t"
  kind := .stateMachine
  places := [⟨"a", {}⟩, ⟨"a", {}⟩, ⟨"b", {}⟩, ⟨"a", {}⟩]
  transitions :=
    [{ name := "go", sources := [], targets := ["b", "c", "c"] },
     { name := "go", sources := ["a", "d"], targets := [] }]
  initialPlaces := ["d", "a", "d"]

theorem validate_exact_tangled :
    ¬tangled.WellFormed ∧ tangled.violations = 13 ∧
      ∃ defects, tangled.validate = .error (.invalid tangled.name defects) ∧
        (defects.map Defect.message).length = tangled.violations := by
  have h : ¬tangled.WellFormed := fun h => absurd h.named (by decide)
  exact ⟨h, by decide, (validate_exact tangled).2.2 h⟩

end WorkflowEngine
