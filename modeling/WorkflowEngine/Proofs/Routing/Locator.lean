import WorkflowEngine.Proofs.Collection.Distinct
import WorkflowEngine.Routing.Locator

/-!
# What a locator says

A locator says of a transition whether it is queued and where to, and puts the same address on the
messages for it.

* `Locator.isAsync_iff`: a transition is queued exactly when it has a queue;
* `Envelope.message_stamp`, `Envelope.route?_stamp_context`: what stamps leave alone;
* `Locator.stamps_eq_append`: the stamps of a locator are its route, and then the partition values;
* **`Locator.route?_stamps`**: a message for a queue has its route.
-/

namespace WorkflowEngine

theorem Locator.isAsync_iff {l : Locator} {workflow : WorkflowName} {transition : TransitionName} :
    l.isAsync workflow transition = true ↔
      ∃ address, l.queue? workflow transition = some address := by
  unfold isAsync queue?
  cases l.sync <;> cases l.routes.lookup? workflow transition <;> simp

namespace Envelope

@[simp] theorem id_stamp (e : Envelope) (s : Stamp) : (e.stamp s).id = e.id := by
  unfold stamp
  split <;> rfl

@[simp] theorem message_stamp (e : Envelope) (s : Stamp) : (e.stamp s).message = e.message := by
  unfold stamp
  split <;> rfl

@[simp] theorem message_stampAll (e : Envelope) (stamps : List Stamp) :
    (e.stampAll stamps).message = e.message := by
  unfold stampAll
  induction stamps generalizing e with
  | nil => rfl
  | cons s stamps ih => rw [List.foldl_cons, ih, message_stamp]

theorem route?_stamp_route (e : Envelope) (address : String) :
    (e.stamp (.route address)).route? = some address := by
  simp [stamp, route?, Stamp.context?, Stamp.address?]

theorem route?_stamp_context (e : Envelope) (c : ContextStamp) :
    (e.stamp (.context c)).route? = e.route? := by
  unfold stamp
  split
  · rfl
  · simp [route?, Stamp.address?]

theorem route?_stampAll_context (e : Envelope) (contexts : List ContextStamp) :
    (e.stampAll (contexts.map .context)).route? = e.route? := by
  unfold stampAll
  induction contexts generalizing e with
  | nil => rfl
  | cons c contexts ih => rw [List.map_cons, List.foldl_cons, ih, route?_stamp_context]

end Envelope

/-! ## The stamps of a locator -/

theorem ContextPayload.distinct_stamps (p : ContextPayload) : distinct p.stamps = p.stamps := by
  cases p with
  | one value => rfl
  | several values => exact distinct_distinct _
  | keyed stamps => exact distinct_distinct _

namespace Locator

variable {l : Locator} {m : TransitionMessage}

/-- **Leaving out what is there already makes no difference**: a payload repeats no partition value,
and none is a route. -/
theorem stamps_eq_append (l : Locator) (m : TransitionMessage) (payload : Option ContextPayload) :
    l.stamps m payload = (l.queue? m.workflow m.transition).toList.map .route ++
      ((payload.map ContextPayload.stamps).getD []).map .context := by
  have hinj : Function.Injective Stamp.context := fun c c' heq => Stamp.context.inj heq
  have hdistinct : distinct ((payload.map ContextPayload.stamps).getD []) =
      (payload.map ContextPayload.stamps).getD [] := by
    cases payload with
    | none => rfl
    | some p => exact p.distinct_stamps
  rw [stamps, addNew_eq, distinct_map hinj, hdistinct, List.filter_eq_self.2]
  simp

theorem head?_stamps {address : String} (h : l.queue? m.workflow m.transition = some address)
    (payload : Option ContextPayload) :
    (l.stamps m payload).head? = some (.route address) := by
  rw [stamps_eq_append, h]
  rfl

/-- **A message that a locator sends to a queue has its route.** -/
theorem route?_stamps {address : String} (h : l.queue? m.workflow m.transition = some address)
    (e : Envelope) (payload : Option ContextPayload) :
    (e.stampAll (l.stamps m payload)).route? = some address := by
  rw [stamps_eq_append, h]
  exact (Envelope.route?_stampAll_context ..).trans (e.route?_stamp_route address)

end Locator

end WorkflowEngine
