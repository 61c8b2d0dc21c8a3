import WorkflowEngine.Proofs.Routing.Plan

/-!
# What makes planning fail

Planning compares a transition with the first owner of its address and with the route of its slugs,
and so the error that it reports depends on the order of the definitions. Whether it fails does not,
and neither does the plan.

* `PlanConflict`: a name without slug, or two transitions in conflict;
* `plannable_of_not_planConflict`, `PlanConflict.not_plannable`: requests can be planned exactly where
  there is no conflict;
* `Definition.Reordered`, `Reordered`: the same definitions and transitions in another order;
* **`planQueues_conflict_reordered`**: planning fails exactly on a conflict, in every order.
-/

namespace WorkflowEngine

/-! ## Conflicts -/

/-- **What stands in the way of a plan.** -/
inductive PlanConflict (config : RouterConfig) (definitions : List Definition) : Prop where
  /-- Nothing is left of a name in its slug. -/
  | unnamed {d : Definition} {t : Transition} (asks : Queues definitions d t)
      (empty : Routing.slug d.name = "" ∨ Routing.slug t.name = "")
  /-- Transitions of two names get one address that is made of slugs. -/
  | shared {d d' : Definition} {t t' : Transition} (asks : Queues definitions d t)
      (asks' : Queues definitions d' t') (computed : t.metadata.transport = none)
      (computed' : t'.metadata.transport = none)
      (same : config.addressOf d t = config.addressOf d' t') (differ : t.name ≠ t'.name)
  /-- One pair of slugs gets two addresses. -/
  | split {d d' : Definition} {t t' : Transition} (asks : Queues definitions d t)
      (asks' : Queues definitions d' t') (workflow : Routing.slug d.name = Routing.slug d'.name)
      (transition : Routing.slug t.name = Routing.slug t'.name)
      (differ : config.addressOf d t ≠ config.addressOf d' t')

section Conflicts

variable {config : RouterConfig} {definitions : List Definition}

theorem computed_requestOf {d : Definition} {t : Transition} (h : t.metadata.transport = none) :
    (d.requestOf t).computed config.effectivePrefix = config.addressOf d t := by
  rw [RouterConfig.addressOf, h]
  rfl

/-- **The requests of definitions without conflict** agree with each other. -/
theorem plannable_of_not_planConflict (h : ¬ PlanConflict config definitions) :
    Plannable config.effectivePrefix (definitions.flatMap Definition.queueRequests) where
  named q hq := by
    obtain ⟨d, t, asks, rfl⟩ := mem_queueRequests_iff.1 hq
    exact not_or.1 fun empty => h (.unnamed asks empty)
  compatible q hq q' hq' := by
    obtain ⟨d, t, asks, rfl⟩ := mem_queueRequests_iff.1 hq
    obtain ⟨d', t', asks', rfl⟩ := mem_queueRequests_iff.1 hq'
    refine ⟨fun hnone hnone' same => ?_, fun workflow transition => ?_⟩
    · rw [computed_requestOf hnone, computed_requestOf hnone'] at same
      by_contra differ
      exact h (.shared asks asks' hnone hnone' same differ)
    · by_contra differ
      exact h (.split asks asks' workflow transition differ)

theorem PlanConflict.not_plannable (h : PlanConflict config definitions) :
    ¬ Plannable config.effectivePrefix (definitions.flatMap Definition.queueRequests) := by
  have request {d : Definition} {t : Transition} (asks : Queues definitions d t) :
      d.requestOf t ∈ definitions.flatMap Definition.queueRequests :=
    mem_queueRequests_iff.2 ⟨d, t, asks, rfl⟩
  intro hp
  cases h with
  | unnamed asks empty =>
    obtain ⟨hw, ht⟩ := hp.named _ (request asks)
    exact empty.elim hw ht
  | shared asks asks' computed computed' same differ =>
    refine differ ((hp.compatible _ (request asks) _ (request asks')).owner computed computed' ?_)
    rwa [computed_requestOf computed, computed_requestOf computed']
  | split asks asks' workflow transition differ =>
    exact differ ((hp.compatible _ (request asks) _ (request asks')).route workflow transition)

theorem exists_error_iff_planConflict :
    (∃ e, planQueues config definitions [] = .error e) ↔ PlanConflict config definitions := by
  have hplan : (∃ plan, planQueues config definitions [] = .ok plan) ↔ _ := exists_planQueues_iff
  constructor
  · rintro ⟨e, he⟩
    by_contra h
    obtain ⟨plan, hok⟩ := hplan.2 (plannable_of_not_planConflict h)
    cases he.symm.trans hok
  · intro h
    cases hresult : planQueues config definitions [] with
    | error e => exact ⟨e, rfl⟩
    | ok plan => exact absurd (hplan.1 ⟨plan, hresult⟩) h.not_plannable

end Conflicts

/-! ## Order -/

/-- A definition with its transitions in another order. -/
def Definition.Reordered (d d' : Definition) : Prop :=
  ∃ ts, d.transitions.Perm ts ∧ d' = { d with transitions := ts }

/-- **Definitions in another order**, the transitions of each in another order too. -/
def Reordered (definitions definitions' : List Definition) : Prop :=
  ∃ between, definitions.Perm between ∧ List.Forall₂ Definition.Reordered between definitions'

theorem Definition.Reordered.queueRequests {d d' : Definition} (h : d.Reordered d') :
    d.queueRequests.Perm d'.queueRequests := by
  obtain ⟨ts, hperm, rfl⟩ := h
  exact (hperm.filter _).map _

theorem Reordered.queueRequests {definitions definitions' : List Definition}
    (h : Reordered definitions definitions') :
    (definitions.flatMap Definition.queueRequests).Perm
      (definitions'.flatMap Definition.queueRequests) := by
  obtain ⟨between, hperm, heach⟩ := h
  refine (hperm.flatMap_right _).trans ?_
  -- From here on the definitions stand in one order, and only their transitions do not.
  clear hperm
  induction heach with
  | nil => exact .nil
  | cons hd _ ih => exact hd.queueRequests.append ih

/-- **Planning fails exactly on a conflict, and gives the same plan in every order** of the definitions
and of their transitions. -/
theorem planQueues_conflict_reordered (config : RouterConfig) (definitions : List Definition) :
    ((∃ e, planQueues config definitions [] = .error e) ↔ PlanConflict config definitions) ∧
      ∀ definitions', Reordered definitions definitions' → ∀ plan,
        planQueues config definitions [] = .ok plan ↔
          planQueues config definitions' [] = .ok plan := by
  refine ⟨exists_error_iff_planConflict, fun definitions' h plan => ?_⟩
  exact planQueues_eq_ok_iff_of_mem_iff fun _ => h.queueRequests.mem_iff

end WorkflowEngine
