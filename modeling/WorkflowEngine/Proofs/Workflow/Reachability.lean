import Mathlib.Logic.Relation
import WorkflowEngine.Proofs.Dispatch.Call
import WorkflowEngine.Proofs.Workflow.Validity
import WorkflowEngine.Workflow.Reachability

/-!
# The places that a search reaches

A search follows a transition as soon as one of its sources is reached. What it finds is the least
set of places that is closed under this, and every place that a run of firings marks is in it.

* `Definition.Reaches`: the closure, by its two rules;
* **`mem_visit`**: a search from any state of its queue finds what is left of the closure;
* `Definition.Fires`: one permitted firing, guards left aside;
* `reaches_of_fires`, `exists_run_of_reaches`: runs stay within the closure, and a state machine
  comes to every place of it;
* **`reachableFrom_exact`**: the search is the closure, and the closure bounds the runs.
-/

namespace WorkflowEngine.Definition

open Relation

variable {d : Definition} {places others queue seen : List PlaceName} {p q : PlaceName}

/-! ## The closure -/

/-- **The places reached from some places**: these, and with one source of a transition all of its
targets. -/
inductive Reaches (d : Definition) (places : List PlaceName) : PlaceName → Prop where
  | given {p : PlaceName} : p ∈ places → d.Reaches places p
  | follow {t : Transition} {p q : PlaceName} :
    d.Reaches places p → t ∈ d.transitions → p ∈ t.sources → q ∈ t.targets → d.Reaches places q

@[simp] theorem mem_targetsOf :
    q ∈ d.targetsOf p ↔ ∃ t ∈ d.transitions, p ∈ t.sources ∧ q ∈ t.targets := by
  simp [targetsOf, and_assoc]

theorem Reaches.targetsOf (h : d.Reaches places p) (hq : q ∈ d.targetsOf p) :
    d.Reaches places q := by
  obtain ⟨t, ht, hp, hq⟩ := mem_targetsOf.1 hq
  exact h.follow ht hp hq

theorem Reaches.trans (h : d.Reaches others p) (hothers : ∀ q ∈ others, d.Reaches places q) :
    d.Reaches places p := by
  induction h with
  | given hp => exact hothers _ hp
  | follow _ ht hp hq ih => exact ih.follow ht hp hq

theorem not_reaches_nil : ¬ d.Reaches [] p := by
  intro h
  induction h with
  | given hp => exact absurd hp List.not_mem_nil
  | follow _ _ _ _ ih => exact ih

/-! ## The search -/

/-- **Every place that a seen one leads to is seen or waits.** -/
def Closed (d : Definition) (queue seen : List PlaceName) : Prop :=
  ∀ p ∈ seen, ∀ q ∈ d.targetsOf p, q ∈ seen ∨ q ∈ queue

theorem Closed.covers (closed : d.Closed queue seen) (h : d.Reaches places q)
    (start : ∀ p ∈ places, p ∈ seen ∨ p ∈ queue) : q ∈ seen ∨ d.Reaches queue q := by
  induction h with
  | given hp => exact (start _ hp).imp_right .given
  | follow _ ht hp hq ih =>
    rcases ih with ih | ih
    · exact (closed _ ih _ (mem_targetsOf.2 ⟨_, ht, hp, hq⟩)).imp_right .given
    · exact .inr (ih.follow ht hp hq)

theorem Closed.skip (closed : d.Closed (p :: queue) seen) (hp : p ∈ seen) :
    d.Closed queue seen := by
  intro r hr q hq
  rcases closed r hr q hq with h | h
  · exact .inl h
  · rcases List.mem_cons.1 h with rfl | h
    · exact .inl hp
    · exact .inr h

theorem Closed.enter (closed : d.Closed (p :: queue) seen) :
    d.Closed (queue ++ d.targetsOf p) (seen ++ [p]) := by
  intro r hr q hq
  rcases List.mem_append.1 hr with hr | hr
  · rcases closed r hr q hq with h | h
    · exact .inl (List.mem_append_left _ h)
    · rcases List.mem_cons.1 h with rfl | h
      · exact .inl (List.mem_append_right _ (List.mem_singleton_self _))
      · exact .inr (List.mem_append_left _ h)
  · rw [List.mem_singleton.1 hr] at hq
    exact .inr (List.mem_append_right _ hq)

/-- **What a search finds**: the places it has seen, and all that its queue reaches. -/
theorem mem_visit (closed : d.Closed queue seen) :
    q ∈ d.visit queue seen ↔ q ∈ seen ∨ d.Reaches queue q := by
  fun_induction visit d queue seen with
  | case1 seen => simp [not_reaches_nil]
  | case2 seen p queue hp ih =>
    rw [ih (closed.skip hp)]
    constructor
    · exact Or.imp_right fun h => h.trans fun r hr => .given (List.mem_cons_of_mem _ hr)
    · rintro (h | h)
      · exact .inl h
      · refine (closed.skip hp).covers h fun r hr => ?_
        rcases List.mem_cons.1 hr with rfl | hr
        · exact .inl hp
        · exact .inr hr
  | case3 seen p queue hp ih =>
    rw [ih closed.enter]
    have hfirst : d.Reaches (p :: queue) p := .given List.mem_cons_self
    constructor
    · rintro (h | h)
      · rcases List.mem_append.1 h with h | h
        · exact .inl h
        · exact .inr (List.mem_singleton.1 h ▸ hfirst)
      · refine .inr (h.trans fun r hr => ?_)
        rcases List.mem_append.1 hr with hr | hr
        · exact .given (List.mem_cons_of_mem _ hr)
        · exact hfirst.targetsOf hr
    · rintro (h | h)
      · exact .inl (List.mem_append_left _ h)
      · refine closed.enter.covers h fun r hr => ?_
        rcases List.mem_cons.1 hr with rfl | hr
        · exact .inl (List.mem_append_right _ (List.mem_singleton_self _))
        · exact .inr (List.mem_append_left _ hr)

theorem mem_reachableFrom : q ∈ d.reachableFrom places ↔ d.Reaches places q := by
  have closed : d.Closed places [] := fun p hp => absurd hp List.not_mem_nil
  simpa [reachableFrom] using mem_visit closed

theorem nodup_visit (h : seen.Nodup) : (d.visit queue seen).Nodup := by
  fun_induction visit d queue seen with
  | case1 seen => exact h
  | case2 seen p queue _ ih => exact ih h
  | case3 seen p queue hp ih => exact ih (List.nodup_append.2 ⟨h, List.nodup_singleton p, by
      simpa using fun r hr (e : r = p) => hp (e ▸ hr)⟩)

theorem mem_unreachable :
    p ∈ d.unreachable ↔ p ∈ d.placeNames ∧ ¬ d.Reaches d.initialPlaces p := by
  simp [unreachable, mem_reachableFrom]

/-! ## Runs -/

/-- **One permitted firing**, guards left aside. -/
def Fires (d : Definition) (m m' : Marking) : Prop :=
  ∃ t ∈ d.transitions, m.permits d.kind t = true ∧ m' = m.advance d.kind t

theorem exists_source_of_permits {m : Marking} {k : Kind} {t : Transition}
    (h : m.permits k t = true) : ∃ p ∈ t.sources, p ∈ m.places := by
  simp only [Marking.permits, Bool.and_eq_true, Bool.not_eq_true', List.isEmpty_eq_false_iff] at h
  obtain ⟨hne, hmarked⟩ := h
  cases k with
  | stateMachine =>
    obtain ⟨p, hp, hm⟩ := List.any_eq_true.1 hmarked
    exact ⟨p, hp, List.contains_iff_mem.1 hm⟩
  | workflow =>
    obtain ⟨p, hp⟩ := List.exists_mem_of_ne_nil _ hne
    exact ⟨p, hp, List.contains_iff_mem.1 (List.all_eq_true.1 hmarked p hp)⟩

theorem mem_or_mem_of_mem_advance {m : Marking} {k : Kind} {t : Transition}
    (h : p ∈ (m.advance k t).places) : p ∈ m.places ∨ p ∈ t.targets := by
  cases k with
  | stateMachine => exact .inr (Marking.mem_advance_stateMachine.1 h)
  | workflow => exact (Marking.mem_advance_workflow.1 h).imp_left And.left

theorem reaches_of_fires {m m' : Marking} (fires : d.Fires m m')
    (h : ∀ p ∈ m.places, d.Reaches places p) : ∀ p ∈ m'.places, d.Reaches places p := by
  obtain ⟨t, ht, hpermits, rfl⟩ := fires
  intro p hp
  rcases mem_or_mem_of_mem_advance hp with hp | hp
  · exact h p hp
  · -- for both kinds, one marked source is enough to have followed the transition
    obtain ⟨r, hr, hm⟩ := exists_source_of_permits hpermits
    exact (h r hm).follow ht hr hp

theorem reaches_of_run {m : Marking} (run : ReflTransGen d.Fires d.initial m) :
    ∀ p ∈ m.places, d.Reaches d.initialPlaces p := by
  induction run with
  | refl => exact fun p hp => .given (Marking.mem_ofPlaces.1 hp)
  | tail _ fires ih => exact reaches_of_fires fires ih

/-- **A state machine comes to every place that its start reaches**, and then stands there. -/
theorem WellFormed.exists_run_of_reaches (h : d.WellFormed) (machine : d.kind = .stateMachine)
    (reaches : d.Reaches d.initialPlaces p) :
    ∃ m, ReflTransGen d.Fires d.initial m ∧ m.places = [p] := by
  induction reaches with
  | given hp =>
    obtain ⟨q, hq⟩ := List.length_eq_one_iff.1 (h.single_initial machine)
    rw [hq, List.mem_singleton] at hp
    exact ⟨d.initial, .refl, by simp [initial, Marking.ofPlaces, hq, hp, distinct]⟩
  | @follow t p q _ ht hp hq ih =>
    obtain ⟨m, run, hm⟩ := ih
    obtain ⟨r, hr⟩ := h.exists_target machine ht
    rw [hr, List.mem_singleton] at hq
    have hpermits : m.permits d.kind t = true := by
      have hne : t.sources ≠ [] := List.ne_nil_of_mem hp
      simp [Marking.permits, machine, Marking.contains, hm, hp, hne]
    have hthere : (m.advance d.kind t).places = [q] := by
      simp [Marking.advance, Marking.ofPlaces, machine, hr, hq, distinct]
    exact ⟨_, run.tail ⟨t, ht, hpermits, rfl⟩, hthere⟩

/-- **The search finds the closure, and the closure bounds every run.** A place that is called
unreachable is never marked; a valid state machine comes to each of its other places. -/
theorem reachableFrom_exact (d : Definition) :
    (∀ places, (d.reachableFrom places).Nodup ∧
      ∀ p, p ∈ d.reachableFrom places ↔ d.Reaches places p) ∧
    (∀ p ∈ d.unreachable, ∀ m, ReflTransGen d.Fires d.initial m → p ∉ m.places) ∧
    (d.isValid = true → d.kind = .stateMachine → ∀ p ∈ d.placeNames, p ∉ d.unreachable →
      ∃ m, ReflTransGen d.Fires d.initial m ∧ p ∈ m.places) := by
  refine ⟨fun places => ⟨nodup_visit .nil, fun p => mem_reachableFrom⟩, ?_, ?_⟩
  · intro p hp m run hm
    exact (mem_unreachable.1 hp).2 (reaches_of_run run p hm)
  · intro valid machine p declared hp
    have reaches : d.Reaches d.initialPlaces p := by
      by_contra h
      exact hp (mem_unreachable.2 ⟨declared, h⟩)
    obtain ⟨m, run, hm⟩ := (isValid_iff.1 valid).exists_run_of_reaches machine reaches
    exact ⟨m, run, hm ▸ List.mem_singleton_self p⟩

/-- An asset can be published. -/
theorem reachableFrom_exact_asset :
    assetFlow.isValid = true ∧ assetFlow.kind = .stateMachine ∧
      "published" ∉ assetFlow.unreachable ∧
      ∃ m, ReflTransGen assetFlow.Fires assetFlow.initial m ∧ "published" ∈ m.places := by
  have valid : assetFlow.isValid = true := by decide
  have reached : "published" ∉ assetFlow.unreachable := by
    simp [unreachable, reachableFrom, visit, Definition.targetsOf, assetFlow, loadAsset,
      publishAsset]
  exact ⟨valid, rfl, reached,
    (reachableFrom_exact assetFlow).2.2 valid rfl "published" (by decide) reached⟩

end WorkflowEngine.Definition
