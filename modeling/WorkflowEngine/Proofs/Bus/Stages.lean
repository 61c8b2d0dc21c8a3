import WorkflowEngine.Bus.Sender
import WorkflowEngine.Proofs.Collection.Distinct
import WorkflowEngine.Proofs.Message.Stamps
import WorkflowEngine.Proofs.Routing.Locator

/-!
# Two ways to a route

Whoever sends a message may put its stamps on beforehand, as its locator says, or leave it to the
routing stages of a bus to find the way.

* `Envelope.through`: an envelope as it leaves routing stages;
* **`through_eq`**: it keeps the way it has, or gets that of the first locator that knows one;
* `ContextPayload.given`, `stamps_eq_distinct`: partition values as they were given;
* `Locator.stamps_eq_addNew`, `Locator.nodup_stamps`: the stamps of a locator do not repeat anything;
* **`Locator.stamps_agree_through`**: both ways lead to one queue, with the same partition values.
-/

namespace WorkflowEngine

/-! ## Through the stages -/

/-- **An envelope as it leaves routing stages**, one for each locator. -/
def Envelope.through (e : Envelope) (locators : List Locator) : Envelope :=
  (locators.map routingStage).foldl (fun e stage => stage e) e

variable {e : Envelope} {l : Locator} {locators : List Locator}

theorem routingStage_of_directed (h : (e.hasLifecycleMarker || e.hasRoute) = true) :
    routingStage l e = e := by
  rw [routingStage, if_pos h]

theorem through_of_directed (h : (e.hasLifecycleMarker || e.hasRoute) = true) :
    e.through locators = e := by
  induction locators with
  | nil => rfl
  | cons l locators ih =>
    change (routingStage l e).through locators = e
    rw [routingStage_of_directed h, ih]

/-- **A message keeps the way it has**, and stays as it is when it was under way before; else it gets
the queue of the first locator that has one for it. -/
theorem through_eq (e : Envelope) (locators : List Locator) : e.through locators =
    if e.hasLifecycleMarker || e.hasRoute then e
    else ((locators.findSome? fun l => l.queue? e.message.workflow e.message.transition).map
      fun address => e.stamp (.route address)).getD e := by
  by_cases h : (e.hasLifecycleMarker || e.hasRoute) = true
  · rw [if_pos h, through_of_directed h]
  · rw [if_neg h]
    induction locators with
    | nil => rfl
    | cons l locators ih =>
      change (routingStage l e).through locators = _
      rw [routingStage, if_neg h, List.findSome?_cons]
      cases l.queue? e.message.workflow e.message.transition with
      | none => exact ih
      | some address =>
        -- from here on the message has a route, and the other stages leave it alone
        refine through_of_directed ?_
        simp [Envelope.hasRoute, Envelope.route?_stamp_route]

theorem through_cases (e : Envelope) (locators : List Locator) : e.through locators = e ∨
    (e.hasLifecycleMarker || e.hasRoute) = false ∧
      ∃ address, e.through locators = e.stamp (.route address) := by
  rw [through_eq]
  by_cases h : (e.hasLifecycleMarker || e.hasRoute) = true
  · exact .inl (if_pos h)
  · rw [if_neg h]
    cases locators.findSome? fun l => l.queue? e.message.workflow e.message.transition with
    | none => exact .inl rfl
    | some address => exact .inr ⟨Bool.eq_false_iff.2 h, address, rfl⟩

theorem through_replicate_of_queue?_none (n : Nat)
    (h : l.queue? e.message.workflow e.message.transition = none) :
    e.through (.replicate n l) = e := by
  rw [through_eq, List.findSome?_replicate, h, ite_self]
  exact ite_self e

theorem through_replicate_succ (n : Nat) (h : (e.hasLifecycleMarker || e.hasRoute) = false) :
    e.through (.replicate (n + 1) l) = ((l.queue? e.message.workflow e.message.transition).map
      fun address => e.stamp (.route address)).getD e := by
  rw [through_eq, h, if_neg Bool.false_ne_true, List.findSome?_replicate_of_pos (Nat.succ_pos n)]

/-! ## Partition values -/

/-- **Partition values as they were given**, repetitions included. -/
def ContextPayload.given : ContextPayload → List ContextStamp
  | .one value => [⟨defaultContextKey, value⟩]
  | .several values => values.map fun value => ⟨defaultContextKey, value⟩
  | .keyed stamps => stamps

theorem ContextPayload.stamps_eq_distinct (p : ContextPayload) : p.stamps = distinct p.given := by
  cases p <;> rfl

namespace Locator

variable {m : TransitionMessage} {payload : Option ContextPayload}

/-- The partition values of a payload, none without one. -/
def given (payload : Option ContextPayload) : List ContextStamp :=
  (payload.map ContextPayload.given).getD []

theorem stamps_eq (l : Locator) (m : TransitionMessage) (payload : Option ContextPayload) :
    l.stamps m payload = (l.queue? m.workflow m.transition).toList.map .route ++
      (distinct (given payload)).map .context := by
  rw [stamps_eq_append, given]
  cases payload with
  | none => rfl
  | some p => rw [Option.map_some, Option.map_some, Option.getD_some, Option.getD_some,
      p.stamps_eq_distinct]

/-- The stamps of a locator are those that come of putting its queue and the partition values on one at
a time, where what is there already is left out. -/
theorem stamps_eq_addNew (l : Locator) (m : TransitionMessage) (payload : Option ContextPayload) :
    l.stamps m payload = addNew ((l.queue? m.workflow m.transition).toList.map .route)
      ((given payload).map .context) := by
  have hinj : Function.Injective Stamp.context := fun c c' heq => by
    cases heq
    rfl
  rw [stamps_eq, addNew_eq, distinct_map hinj, List.filter_eq_self.2]
  simp

theorem nodup_stamps (l : Locator) (m : TransitionMessage) (payload : Option ContextPayload) :
    (l.stamps m payload).Nodup := by
  have hroute : ((l.queue? m.workflow m.transition).toList.map Stamp.route).Nodup := by
    cases l.queue? m.workflow m.transition <;> simp
  rw [stamps_eq_addNew, addNew_eq_distinct hroute]
  exact nodup_distinct _

theorem stamps_stampAll (l : Locator) (m : TransitionMessage) (payload : Option ContextPayload)
    (id : EnvelopeId) :
    (Envelope.stampAll { id, message := m } (l.stamps m payload)).stamps = l.stamps m payload := by
  rw [Envelope.stamps_stampAll_of_new (l.nodup_stamps m payload) (by simp)]
  rfl

/-! ## Both ways -/

theorem facts_of_stamps {address? : Option String} {contexts : List ContextStamp}
    (h : e.stamps = address?.toList.map .route ++ contexts.map .context) :
    e.route? = address? ∧ e.contexts = contexts ∧ e.hasLifecycleMarker = false := by
  have haddress : (contexts.map Stamp.context).filterMap Stamp.address? = [] := by
    simp [Stamp.address?]
  have hcontext : (contexts.map Stamp.context).filterMap Stamp.context? = contexts := by
    rw [List.filterMap_map]
    exact List.filterMap_some
  have hmarker : (contexts.map Stamp.context).any (·.isLifecycleMarker) = false := by
    simp [Stamp.isLifecycleMarker]
  unfold Envelope.route? Envelope.contexts Envelope.hasLifecycleMarker
  rw [h, List.filterMap_append, List.filterMap_append, List.any_append, haddress, hcontext, hmarker]
  cases address? with
  | none => exact ⟨rfl, rfl, rfl⟩
  | some address => exact ⟨rfl, rfl, rfl⟩

/-- **Both ways lead to one queue, with the same partition values.**

A locator gives a message a route at most, to its queue for it, and behind it every partition value
once, in the order in which they were given first; it makes no difference that what is there already is
left out once more. A new envelope keeps all these stamps, and routing stages over the locator leave it
as it is. An envelope that has the partition values only leaves one or more such stages with the same
route and the same partition values. -/
theorem stamps_agree_through (l : Locator) (m : TransitionMessage)
    (payload : Option ContextPayload) :
    ∃ contexts, FirstOccurrences contexts (given payload) ∧
      l.stamps m payload =
        (l.queue? m.workflow m.transition).toList.map .route ++ contexts.map .context ∧
      l.stamps m payload = addNew ((l.queue? m.workflow m.transition).toList.map .route)
        ((given payload).map .context) ∧
      ∀ (id id' : EnvelopeId) (n : Nat),
        let stamped := Envelope.stampAll { id, message := m } (l.stamps m payload)
        let plain : Envelope := { id := id', message := m, stamps := contexts.map .context }
        stamped.stamps = l.stamps m payload ∧
          stamped.through (.replicate n l) = stamped ∧
          (plain.through (.replicate (n + 1) l)).route? = stamped.route? ∧
          (plain.through (.replicate (n + 1) l)).contexts = stamped.contexts := by
  refine ⟨distinct (given payload), firstOccurrences_iff.2 rfl, l.stamps_eq m payload,
    l.stamps_eq_addNew m payload, fun id id' n => ?_⟩
  intro stamped plain
  have hstamps : stamped.stamps = l.stamps m payload := l.stamps_stampAll m payload id
  obtain ⟨hroute, hcontexts, -⟩ := facts_of_stamps (hstamps.trans (l.stamps_eq m payload))
  have hplainStamps : plain.stamps = (none : Option String).toList.map .route ++
      (distinct (given payload)).map .context := rfl
  obtain ⟨hplain, hplain', hmarker⟩ := facts_of_stamps hplainStamps
  have hmessage : stamped.message = m := Envelope.message_stampAll _ _
  have hunrouted : plain.hasRoute = false := by rw [Envelope.hasRoute, hplain, Option.isSome_none]
  refine ⟨hstamps, ?_, ?_⟩
  · -- the locator gave a route, or it has no queue to give now
    cases hqueue : l.queue? m.workflow m.transition with
    | none => exact through_replicate_of_queue?_none n (by rw [hmessage, hqueue])
    | some address =>
      refine through_of_directed ?_
      rw [Envelope.hasRoute, hroute, hqueue, Option.isSome_some, Bool.or_true]
  · rw [through_replicate_succ n (by rw [hmarker, hunrouted]; rfl), hroute, hcontexts]
    change (((l.queue? m.workflow m.transition).map _).getD plain).route? = _ ∧ _
    cases l.queue? m.workflow m.transition with
    | none => exact ⟨hplain, hplain'⟩
    | some address =>
      exact ⟨plain.route?_stamp_route address,
        (Envelope.contexts_stamp_of_context?_none rfl).trans hplain'⟩

end Locator

end WorkflowEngine
