import WorkflowEngine.Proofs.Collection.SortedMap
import WorkflowEngine.Routing.RouteMap

/-!
# Looking up routes

* `RouteMap.get?_insert`: what an insertion changes;
* `RouteMap.mem_entries_iff`: the routes that are listed are those that are found;
* `RouteMap.Filled`, **`RouteMap.ext_get?`**: a map in which every workflow has a route is determined
  by its look-ups;
* `RouteMap.mem_addresses_iff`, `RouteMap.pairwise_addresses`: the addresses in use, in increasing
  order.
-/

namespace WorkflowEngine.RouteMap

variable {m m' : RouteMap} {workflow transition address : String}

@[simp] theorem get?_empty (workflow transition : String) :
    empty.get? workflow transition = none := rfl

theorem ofWorkflow_eq {ts : SortedMap String} (h : m.routes.get? workflow = some ts) :
    m.ofWorkflow workflow = ts := by
  rw [ofWorkflow, h, Option.getD_some]

theorem ofWorkflow_insert (m : RouteMap) (workflow transition address w : String) :
    (m.insert workflow transition address).ofWorkflow w =
      if w = workflow then (m.ofWorkflow workflow).insert transition address
      else m.ofWorkflow w := by
  split
  · next h =>
    rw [h]
    exact ofWorkflow_eq (SortedMap.get?_insert_self ..)
  · next h => rw [ofWorkflow, insert, SortedMap.get?_insert_of_ne _ h, ← ofWorkflow]

theorem get?_insert (m : RouteMap) (workflow transition address w t : String) :
    (m.insert workflow transition address).get? w t =
      if w = workflow ∧ t = transition then some address else m.get? w t := by
  rw [get?, ofWorkflow_insert]
  by_cases hw : w = workflow
  · subst hw
    by_cases ht : t = transition
    · subst ht
      simp [SortedMap.get?_insert_self]
    · simp [ht, SortedMap.get?_insert_of_ne _ ht, get?]
  · simp [hw, get?]

theorem mem_entries_iff {r : Route} :
    r ∈ m.entries ↔ m.get? r.workflow r.transition = some r.address := by
  obtain ⟨w, t, a⟩ := r
  simp only [entries, List.mem_flatMap, List.mem_map, Prod.exists, Route.mk.injEq]
  constructor
  · rintro ⟨w, ts, hw, t, a, ht, rfl, rfl, rfl⟩
    rw [get?, ofWorkflow_eq (SortedMap.mem_entries_iff.1 hw)]
    exact SortedMap.mem_entries_iff.1 ht
  · intro h
    cases hw : m.routes.get? w with
    | none => simp [get?, ofWorkflow, hw] at h
    | some ts =>
      rw [get?, ofWorkflow_eq hw] at h
      exact ⟨w, ts, SortedMap.mem_entries_iff.2 hw, t, a, SortedMap.mem_entries_iff.2 h, rfl, rfl,
        rfl⟩

/-! ## Maps without empty parts -/

/-- **Every workflow of the map has a route.** -/
def Filled (m : RouteMap) : Prop :=
  ∀ workflow ts, m.routes.get? workflow = some ts → ∃ t a, ts.get? t = some a

theorem filled_empty : empty.Filled := fun _ _ h => nomatch h

theorem Filled.insert (h : m.Filled) (workflow transition address : String) :
    (m.insert workflow transition address).Filled := by
  intro w ts hw
  by_cases heq : w = workflow
  · subst heq
    rw [RouteMap.insert, SortedMap.get?_insert_self] at hw
    cases hw
    exact ⟨transition, address, SortedMap.get?_insert_self ..⟩
  · rw [RouteMap.insert, SortedMap.get?_insert_of_ne _ heq] at hw
    exact h w ts hw

theorem Filled.ne_none (h : m.Filled) (same : ∀ w t, m.get? w t = m'.get? w t) {workflow : String}
    {ts : SortedMap String} (hw : m.routes.get? workflow = some ts) :
    m'.routes.get? workflow ≠ none := by
  intro hnone
  obtain ⟨t, a, ht⟩ := h workflow ts hw
  have := same workflow t
  rw [get?, ofWorkflow_eq hw, ht, get?, ofWorkflow, hnone] at this
  cases this

/-- **A map in which every workflow has a route is determined by its look-ups.** -/
theorem ext_get? (h : m.Filled) (h' : m'.Filled) (same : ∀ w t, m.get? w t = m'.get? w t) :
    m = m' := by
  have hroutes : m.routes = m'.routes := by
    refine SortedMap.ext_get? fun w => ?_
    cases hw : m.routes.get? w with
    | none =>
      cases hw' : m'.routes.get? w with
      | none => rfl
      | some ts' => exact absurd hw (h'.ne_none (fun w t => (same w t).symm) hw')
    | some ts =>
      obtain ⟨ts', hw'⟩ := Option.ne_none_iff_exists'.1 (h.ne_none same hw)
      have hts : ts = ts' := SortedMap.ext_get? fun t => by
        have := same w t
        rwa [get?, get?, ofWorkflow_eq hw, ofWorkflow_eq hw'] at this
      rw [hw', hts]
  cases m
  cases m'
  exact congrArg RouteMap.mk hroutes

/-! ## Addresses -/

theorem mem_addresses_iff : address ∈ m.addresses ↔ ∃ r ∈ m.entries, r.address = address := by
  simp [addresses, SortedMap.mem_keys_ofList]

theorem pairwise_addresses (m : RouteMap) : m.addresses.Pairwise (· < ·) :=
  SortedMap.pairwise_keys _

end WorkflowEngine.RouteMap
