import WorkflowEngine.Proofs.Dispatch.Ledger

/-!
# Chains in lockstep

Two chains with the same pending events, on subjects that their dispatcher does not tell from each other,
take the same steps, as long as what is queued by one is queued by the other. What they run on may
differ.

* `Dispatcher.Enqueued`, `enqueued_of_enqueue`: what may come of a queued transition;
* `Dispatcher.InStep`: chains that have come equally far;
* `Dispatcher.QueuesAlong`: what is queued on one side is queued on the other;
* **`InStep.step`**, **`InStep.exists_stop`**: one step, and a whole run;
* `InStep.runFrom_ok`: a chain that comes to its end has the other one come to its end;
* `EndsAlike`, `InStep.endsAlike`: chains whose transitions are never refused end alike.
-/

namespace WorkflowEngine.Dispatcher

open Relation

variable {σ τ : Type} {x : Dispatcher} {services : Services σ} {services' : Services τ}
  {d : Definition}

/-! ## Queued transitions -/

/-- The message of a queued transition. -/
def messageFor (d : Definition) (t : Transition) (s : Subject) (id : String) : TransitionMessage :=
  { entityId := id, entityType := s.entityType, transition := t.name, workflow := d.name }

/-- **What may come of a queued transition**: it is given up, the store refuses the subject, the bus
refuses the message, or the message is sent. -/
inductive Enqueued (x : Dispatcher) (services : Services σ) (d : Definition) (t : Transition)
    (s : Subject) (w : σ) : Except DispatchError (Option Envelope) → σ → Prop
  | nobody (unidentified : x.identity? s = none) : Enqueued x services d t s w (.ok none) w
  | unstored {id cause w'} (identified : x.identity? s = some id)
      (unstored : services.persist s w = (.error cause, w')) :
      Enqueued x services d t s w (.error (.store cause)) w'
  | unsent {id w₁ cause w'} (identified : x.identity? s = some id)
      (stored : services.persist s w = (.ok (), w₁))
      (unsent : services.send (messageFor d t s id)
        (x.locator.stamps (messageFor d t s id) (x.reading.context s)) w₁ = (.error cause, w')) :
      Enqueued x services d t s w (.error (.bus cause)) w'
  | sent {id w₁ e w'} (identified : x.identity? s = some id)
      (stored : services.persist s w = (.ok (), w₁))
      (sent : services.send (messageFor d t s id)
        (x.locator.stamps (messageFor d t s id) (x.reading.context s)) w₁ = (.ok e, w')) :
      Enqueued x services d t s w (.ok (some e)) w'

theorem enqueued_of_enqueue {t : Transition} {s : Subject} {w w' : σ}
    {answer : Except DispatchError (Option Envelope)}
    (h : x.enqueue services d t s w = (answer, w')) : x.Enqueued services d t s w answer w' := by
  unfold enqueue at h
  cases identified : x.identity? s with
  | none =>
    rw [identified] at h
    cases h
    exact .nobody identified
  | some id =>
    rw [identified] at h
    have hmessage : (⟨id, s.entityType, t.name, d.name⟩ : TransitionMessage) = messageFor d t s id := rfl
    simp only [hmessage] at h
    rcases stored : services.persist s w with ⟨cause | _, w₁⟩
    · rw [stored] at h
      cases h
      exact .unstored identified stored
    · rw [stored] at h
      simp only at h
      rcases sent : services.send (messageFor d t s id)
        (x.locator.stamps (messageFor d t s id) (x.reading.context s)) w₁ with ⟨cause | e, w₂⟩
      · rw [sent] at h
        cases h
        exact .unsent identified stored sent
      · rw [sent] at h
        cases h
        exact .sent identified stored sent

theorem enqueue_of_enqueued {t : Transition} {s : Subject} {w w' : σ}
    {answer : Except DispatchError (Option Envelope)} (h : x.Enqueued services d t s w answer w') :
    x.enqueue services d t s w = (answer, w') := by
  cases h with
  | nobody unidentified => simp only [enqueue, unidentified]
  | unstored identified unstored => simp only [enqueue, identified, unstored]
  | unsent identified stored unsent =>
    unfold messageFor at unsent
    simp only [enqueue, identified, stored, unsent]
  | sent identified stored sent => exact enqueue_of_sent identified stored sent

/-! ## Chains that have come equally far -/

/-- **Chains that have come equally far**: the same events are pending, for related subjects of the entity
of a given one; and what they run on is related. -/
structure InStep (S : Subject → Subject → Prop) (entity : Subject) (R : σ → τ → Prop)
    (c : ChainState σ) (c' : ChainState τ) : Prop where
  stack : c'.stack = c.stack
  entity : entity.SameEntity c.subject
  subject : S c.subject c'.subject
  world : R c.world c'.world

/-- **What is queued on one side is queued on the other.** -/
def QueuesAlong (x : Dispatcher) (services : Services σ) (services' : Services τ) (d : Definition)
    (S : Subject → Subject → Prop) (entity : Subject) (R : σ → τ → Prop) : Prop :=
  ∀ {t s s' w w' answer w₁}, x.locator.isAsync d.name t.name = true → entity.SameEntity s →
    S s s' → R w w' → x.enqueue services d t s w = (.ok answer, w₁) →
    ∃ answer' w₁', x.enqueue services' d t s' w' = (.ok answer', w₁') ∧
      answer'.isSome = answer.isSome ∧ R w₁ w₁'

section Lockstep

variable {S : Subject → Subject → Prop} {entity : Subject} {R : σ → τ → Prop}
  (overlooks : x.Overlooks d S) (along : x.QueuesAlong services services' d S entity R)

include overlooks along in
/-- **Chains in lockstep stay in lockstep.** -/
theorem InStep.step {c c₁ : ChainState σ} {c' : ChainState τ}
    (h : InStep S entity R c c') (step : x.Step services d c c₁) :
    ∃ c₁', x.Step services' d c' c₁' ∧ InStep S entity R c₁ c₁' := by
  obtain ⟨stack', report', s', w'⟩ := c'
  obtain ⟨rfl, same, alike, related⟩ := h
  have hchoice := overlooks.firstEnabled? alike
  cases step with
  | settled idle =>
    exact ⟨_, .settled ((hchoice _).trans idle), rfl, same, alike, related⟩
  | abandoned chosen queued outcome =>
    obtain ⟨answer', w₁', houtcome, hnone, hrelated⟩ := along queued same alike related outcome
    obtain rfl : answer' = none := by simpa using hnone
    exact ⟨_, .abandoned ((hchoice _).trans chosen) queued houtcome, rfl, same, alike, hrelated⟩
  | sent chosen queued outcome =>
    obtain ⟨answer', w₁', houtcome, hsome, hrelated⟩ := along queued same alike related outcome
    obtain ⟨e', rfl⟩ := Option.isSome_iff_exists.1 hsome
    exact ⟨_, .sent ((hchoice _).trans chosen) queued houtcome, rfl, same, alike, hrelated⟩
  | fired chosen inline =>
    exact ⟨_, .fired ((hchoice _).trans chosen) inline, rfl,
      same.trans (Subject.sameEntity_fire _ d _), overlooks.fire alike _, related⟩

include overlooks along in
/-- **When one chain stops, the other one has come equally far.** -/
theorem InStep.exists_stop {c : ChainState σ} {c' : ChainState τ}
    (h : InStep S entity R c c') :
    ∃ last last', x.Stop services d last (x.runFrom services d c) ∧
      ReflTransGen (x.Step services' d) c' last' ∧ InStep S entity R last last' := by
  obtain ⟨last, hrun, hstop⟩ := Dispatcher.exists_stop x services d c
  refine ⟨last, ?_⟩
  suffices hlast : ∃ last', ReflTransGen (x.Step services' d) c' last' ∧
      InStep S entity R last last' by
    obtain ⟨last', hrun', hsame⟩ := hlast
    exact ⟨last', hstop, hrun', hsame⟩
  clear hstop
  induction hrun with
  | refl => exact ⟨c', .refl, h⟩
  | tail _ step ih =>
    obtain ⟨c₁', hrun', hsame⟩ := ih
    obtain ⟨c₂', hstep, hsame'⟩ := hsame.step overlooks along step
    exact ⟨c₂', hrun'.tail hstep, hsame'⟩

include overlooks along in
/-- **A chain that comes to its end has the other one come to its end**, with a subject that a store
cannot tell from its own. -/
theorem InStep.runFrom_ok {c : ChainState σ} {c' : ChainState τ}
    (h : InStep S entity R c c') {report : Report} {s : Subject} {w : σ}
    (run : x.runFrom services d c = (.ok report, s, w)) :
    ∃ report' s' w', x.runFrom services' d c' = (.ok report', s', w') ∧
      entity.SameEntity s ∧ S s s' ∧ R w w' := by
  obtain ⟨last, ⟨stack', report', s', w'⟩, hstop, hrun', hsame⟩ := h.exists_stop overlooks along
  rw [run] at hstop
  cases hstop with
  | finished =>
    obtain ⟨rfl, same, alike, related⟩ := hsame
    refine ⟨report', s', w', ?_, same, alike, related⟩
    rw [runFrom_steps hrun']
    exact runFrom_stop .finished

/-- **Chains that end alike**: both with a report or both with one error, their subjects not to be told
apart by a store. -/
structure EndsAlike (r : Registry) (entity : Subject) (R : σ → τ → Prop)
    (a : Except DispatchError Report × Subject × σ) (b : Except DispatchError Report × Subject × τ) :
    Prop where
  outcome : b.1.map (fun _ => ()) = a.1.map fun _ => ()
  entity : entity.SameEntity a.2.1
  subject : a.2.1.KeptAs r b.2.1
  world : R a.2.2 b.2.2

include overlooks along in
/-- **Chains in lockstep end alike**, if what is queued is never refused. -/
theorem InStep.endsAlike (never : ∀ {t s w w' e w₁}, x.locator.isAsync d.name t.name = true →
      entity.SameEntity s → R w w' → x.enqueue services d t s w ≠ (.error e, w₁))
    {c : ChainState σ} {c' : ChainState τ} (h : InStep S entity R c c') :
    EndsAlike x.registry entity R (x.runFrom services d c) (x.runFrom services' d c') := by
  obtain ⟨last, ⟨stack', report', s', w'⟩, hstop, hrun', hsame⟩ := h.exists_stop overlooks along
  obtain ⟨rfl, same, alike, related⟩ := hsame
  have kept := overlooks.keptAs alike
  rw [runFrom_steps hrun']
  generalize x.runFrom services d c = r at hstop
  cases hstop with
  | finished =>
    rw [runFrom_stop .finished]
    exact ⟨rfl, same, kept, related⟩
  | refused chosen queued outcome => exact absurd outcome (never queued same related)
  | tooDeep chosen inline =>
    have chosen' := (overlooks.firstEnabled? alike _).trans chosen
    rw [runFrom_stop (.tooDeep chosen' inline)]
    exact ⟨rfl, same, kept, related⟩

end Lockstep

end WorkflowEngine.Dispatcher
