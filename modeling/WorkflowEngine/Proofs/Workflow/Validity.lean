import Mathlib.Data.List.Nodup
import WorkflowEngine.Workflow.Marking
import WorkflowEngine.Workflow.Validation

/-!
# What a definition without defects promises

* `Definition.WellFormed`: the structural rules, each one for itself;
* `repeatedFrom_eq_nil_iff`, `endsDefects_eq_nil_iff`, `initialDefects_eq_nil_iff`: when one rule
  finds nothing;
* **`isValid_iff`**: a definition has no defect exactly when it is well formed;
* `WellFormed.length_initial`, `WellFormed.length_advance`: a subject of a state machine starts in
  one place and stays in one place.
-/

namespace WorkflowEngine

/-- **The structural rules of a definition.** -/
structure Definition.WellFormed (d : Definition) : Prop where
  named : Text.isBlankText d.name = false
  places_nodup : d.placeNames.Nodup
  transitions_nodup : (d.transitions.map (·.name)).Nodup
  sources_ne_nil : ∀ t ∈ d.transitions, t.sources ≠ []
  targets_ne_nil : ∀ t ∈ d.transitions, t.targets ≠ []
  sources_declared : ∀ t ∈ d.transitions, ∀ p ∈ t.sources, d.hasPlace p = true
  targets_declared : ∀ t ∈ d.transitions, ∀ p ∈ t.targets, d.hasPlace p = true
  initial_declared : ∀ p ∈ d.initialPlaces, d.hasPlace p = true
  single_target : d.kind = .stateMachine → ∀ t ∈ d.transitions, t.targets.length = 1
  single_initial : d.kind = .stateMachine → d.initialPlaces.length = 1

/-! ## Rules that find nothing -/

theorem repeatedFrom_eq_nil_iff {seen xs : List String} :
    repeatedFrom seen xs = [] ↔ xs.Nodup ∧ ∀ x ∈ xs, x ∉ seen := by
  induction xs generalizing seen with
  | nil => simp [repeatedFrom]
  | cons x xs ih =>
    rw [repeatedFrom, List.append_eq_nil_iff, ih, List.nodup_cons]
    simp only [ite_eq_right_iff, List.cons_ne_nil, imp_false, List.mem_cons, not_or,
      forall_eq_or_imp]
    constructor
    · rintro ⟨hx, hn, h⟩
      exact ⟨⟨fun hm => (h x hm).1 rfl, hn⟩, hx, fun y hy => (h y hy).2⟩
    · rintro ⟨⟨hm, hn⟩, hx, h⟩
      exact ⟨hx, hn, fun y hy => ⟨fun e => hm (e ▸ hy), h y hy⟩⟩

theorem filter_hasPlace_eq_nil_iff {d : Definition} {places : List PlaceName} :
    places.filter (!d.hasPlace ·) = [] ↔ ∀ p ∈ places, d.hasPlace p = true := by
  simp [List.filter_eq_nil_iff]

theorem endsDefects_eq_nil_iff {d : Definition} {t : Transition} :
    d.endsDefects t = [] ↔ t.sources ≠ [] ∧ t.targets ≠ [] ∧
      (∀ p ∈ t.sources, d.hasPlace p = true) ∧ (∀ p ∈ t.targets, d.hasPlace p = true) ∧
      (d.kind = .stateMachine → t.targets.length ≤ 1) := by
  simp only [Definition.endsDefects, List.append_eq_nil_iff, List.map_eq_nil_iff,
    filter_hasPlace_eq_nil_iff, ite_eq_right_iff, List.cons_ne_nil, imp_false, List.isEmpty_iff,
    not_and, Nat.not_lt, and_assoc, ne_eq]

theorem transitionDefectsFrom_eq_nil_iff {d : Definition} {seen : List TransitionName}
    {ts : List Transition} :
    d.transitionDefectsFrom seen ts = [] ↔
      ((ts.map (·.name)).Nodup ∧ ∀ n ∈ ts.map (·.name), n ∉ seen) ∧
        ∀ t ∈ ts, d.endsDefects t = [] := by
  induction ts generalizing seen with
  | nil => simp [Definition.transitionDefectsFrom]
  | cons t ts ih =>
    rw [Definition.transitionDefectsFrom, List.append_eq_nil_iff, List.append_eq_nil_iff, ih,
      List.map_cons, List.nodup_cons]
    simp only [ite_eq_right_iff, List.cons_ne_nil, imp_false, List.mem_cons, not_or,
      forall_eq_or_imp]
    constructor
    · rintro ⟨⟨ht, he⟩, ⟨hn, h⟩, hrest⟩
      exact ⟨⟨⟨fun hm => (h _ hm).1 rfl, hn⟩, ht, fun n hm => (h n hm).2⟩, he, hrest⟩
    · rintro ⟨⟨⟨hm, hn⟩, ht, h⟩, he, hrest⟩
      exact ⟨⟨ht, he⟩, ⟨hn, fun n hn' => ⟨fun e => hm (e ▸ hn'), h n hn'⟩⟩, hrest⟩

theorem initialDefects_eq_nil_iff {d : Definition} :
    d.initialDefects = [] ↔ (∀ p ∈ d.initialPlaces, d.hasPlace p = true) ∧
      (d.kind = .stateMachine → d.initialPlaces.length = 1) := by
  rw [Definition.initialDefects, List.append_eq_nil_iff, List.map_eq_nil_iff,
    filter_hasPlace_eq_nil_iff]
  refine and_congr_right fun _ => ?_
  cases d.kind with
  | workflow => simp
  | stateMachine =>
    rcases d.initialPlaces.length with _ | _ | n <;> simp

/-- **A definition has no defect exactly when it is well formed.** -/
theorem isValid_iff {d : Definition} : d.isValid = true ↔ d.WellFormed := by
  have hdefects : d.isValid = true ↔ d.defects = [] := by simp [Definition.isValid]
  rw [hdefects, Definition.defects]
  simp only [List.append_eq_nil_iff, List.map_eq_nil_iff, repeatedFrom_eq_nil_iff,
    transitionDefectsFrom_eq_nil_iff, initialDefects_eq_nil_iff, ite_eq_right_iff,
    List.cons_ne_nil, imp_false, Bool.not_eq_true, endsDefects_eq_nil_iff]
  constructor
  · rintro ⟨⟨⟨hname, hplaces, _⟩, ⟨htrans, _⟩, hends⟩, hinit, hsingle⟩
    refine ⟨hname, hplaces, htrans, fun t ht => (hends t ht).1, fun t ht => (hends t ht).2.1,
      fun t ht => (hends t ht).2.2.1, fun t ht => (hends t ht).2.2.2.1, hinit, ?_, hsingle⟩
    intro hk t ht
    have hle := (hends t ht).2.2.2.2 hk
    have hpos := List.length_pos_iff.2 (hends t ht).2.1
    omega
  · intro h
    refine ⟨⟨⟨h.named, h.places_nodup, by simp⟩, ⟨h.transitions_nodup, by simp⟩, ?_⟩,
      h.initial_declared, h.single_initial⟩
    intro t ht
    exact ⟨h.sources_ne_nil t ht, h.targets_ne_nil t ht, h.sources_declared t ht,
      h.targets_declared t ht, fun hk => Nat.le_of_eq (h.single_target hk t ht)⟩

theorem validate_eq_ok_iff {d : Definition} {u : Unit} : d.validate = .ok u ↔ d.isValid = true := by
  unfold Definition.validate Definition.isValid
  by_cases h : d.defects = [] <;> simp [h]

/-! ## Where a subject of a well-formed definition stands -/

namespace Definition.WellFormed

variable {d : Definition}

theorem transition?_name (h : d.WellFormed) {t : Transition} (ht : t ∈ d.transitions) :
    d.transition? t.name = some t := by
  obtain ⟨u, hu⟩ : ∃ u, d.transition? t.name = some u := by
    refine Option.isSome_iff_exists.1 (List.find?_isSome.2 ⟨t, ht, ?_⟩)
    simp
  have hname : u.name = t.name := by simpa using List.find?_some hu
  have hmem : u ∈ d.transitions := List.mem_of_find?_eq_some hu
  rw [hu, List.inj_on_of_nodup_map h.transitions_nodup hmem ht hname]

theorem hasPlace_initial (h : d.WellFormed) {p : PlaceName} (hp : p ∈ d.initial.places) :
    d.hasPlace p = true :=
  h.initial_declared p (Marking.mem_ofPlaces.1 hp)

theorem length_initial (h : d.WellFormed) (hk : d.kind = .stateMachine) :
    d.initial.places.length = 1 := by
  obtain ⟨p, hp⟩ := List.length_eq_one_iff.1 (h.single_initial hk)
  simp [Definition.initial, Marking.ofPlaces, hp, distinct]

theorem hasPlace_advance (h : d.WellFormed) {m : Marking} {t : Transition}
    (ht : t ∈ d.transitions) (hm : ∀ p ∈ m.places, d.hasPlace p = true) {p : PlaceName}
    (hp : p ∈ (m.advance d.kind t).places) : d.hasPlace p = true := by
  cases hk : d.kind with
  | workflow =>
    rw [hk, Marking.mem_advance_workflow] at hp
    rcases hp with ⟨hp, _⟩ | hp
    · exact hm p hp
    · exact h.targets_declared t ht p hp
  | stateMachine =>
    rw [hk, Marking.mem_advance_stateMachine] at hp
    exact h.targets_declared t ht p hp

theorem exists_target (h : d.WellFormed) (hk : d.kind = .stateMachine) {t : Transition}
    (ht : t ∈ d.transitions) : ∃ p, t.targets = [p] :=
  List.length_eq_one_iff.1 (h.single_target hk t ht)

theorem length_advance (h : d.WellFormed) (hk : d.kind = .stateMachine) (m : Marking)
    {t : Transition} (ht : t ∈ d.transitions) : (m.advance d.kind t).places.length = 1 := by
  obtain ⟨p, hp⟩ := h.exists_target hk ht
  simp [Marking.advance, Marking.ofPlaces, hk, hp, distinct]

end Definition.WellFormed

end WorkflowEngine
