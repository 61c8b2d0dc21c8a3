import WorkflowEngine.Dispatch.Handler
import WorkflowEngine.Proofs.Dispatch.Call
import WorkflowEngine.Proofs.Dispatch.Lockstep

/-!
# What handling a message does

A handler looks at an entity once, before anything else. What it does then depends on whether the
transition of its message is enabled there: nothing, or a chain and storing the entity.

* `Dispatcher.Meets`: what a handler finds of a message's entity and its workflow;
* `Dispatcher.chainOf`, `Dispatcher.finish`: the chain of a message, and what comes after it;
* **`Dispatcher.Handling`**, `handling_of_handleMessage`: the ways in which a handling may go;
* `handleMessage_disabled`, `handleMessage_enabled`: which of them is taken;
* `sameEntity_of_chainOf`, `sound_of_runFrom`: what a chain leaves alone.
-/

namespace WorkflowEngine.Dispatcher

variable {σ : Type}

/-- **What a handler meets**: the entity of its message, and the transition in a definition for it. -/
structure Meets (x : Dispatcher) (services : Services σ) (m : TransitionMessage) (w : σ)
    (d : Definition) (t : Transition) (s : Subject) (w₁ : σ) : Prop where
  workflow : Text.isBlankText m.workflow = false
  transition : Text.isBlankText m.transition = false
  found : services.find m.entityType m.entityId w = (.ok (some s), w₁)
  definition : x.definitionFor s m.workflow = .ok d
  known : d.transition? m.transition = some t

/-- The chain that a handler follows. -/
def chainOf (x : Dispatcher) (d : Definition) (t : Transition) (s : Subject) (w : σ) : ChainState σ :=
  ⟨(followUps d t).map (·, x.maxChainDepth), { applied := [t.name] }, fire s d t, w⟩

/-- What a handler does when its chain has ended. -/
def finish (services : Services σ) (m : TransitionMessage) :
    Except DispatchError Report × Subject × σ → Except HandlingError Unit × σ
  | (.error e, _, w) => (.error (.failed e), w)
  | (.ok _, s, w) =>
    match services.persist s w with
    | (.error e, w) => (.error (.notStored m.entityType m.entityId e), w)
    | (.ok (), w) => (.ok (), w)

/-- **How a handling may go**: it does nothing, its chain fails, the entity cannot be stored after the
chain, it is stored, or the message is turned down before anything is done. -/
inductive Handling (x : Dispatcher) (services : Services σ) (m : TransitionMessage) (w : σ) :
    Except HandlingError Unit → σ → Prop
  | ignored {d t s w₁} (meets : x.Meets services m w d t s w₁) (disabled : x.isEnabled s d t = false) :
      Handling x services m w (.ok ()) w₁
  | failed {d t s w₁ e s' w₂} (meets : x.Meets services m w d t s w₁)
      (enabled : x.isEnabled s d t = true)
      (run : x.runFrom services d (x.chainOf d t s w₁) = (.error e, s', w₂)) :
      Handling x services m w (.error (.failed e)) w₂
  | unstored {d t s w₁ report s' w₂ e w₃} (meets : x.Meets services m w d t s w₁)
      (enabled : x.isEnabled s d t = true)
      (run : x.runFrom services d (x.chainOf d t s w₁) = (.ok report, s', w₂))
      (unstored : services.persist s' w₂ = (.error e, w₃)) :
      Handling x services m w (.error (.notStored m.entityType m.entityId e)) w₃
  | stored {d t s w₁ report s' w₂ w₃} (meets : x.Meets services m w d t s w₁)
      (enabled : x.isEnabled s d t = true)
      (run : x.runFrom services d (x.chainOf d t s w₁) = (.ok report, s', w₂))
      (stored : services.persist s' w₂ = (.ok (), w₃)) : Handling x services m w (.ok ()) w₃
  | turnedDown {e w'} (early : ∀ cause, e ≠ .failed (.bus cause)) :
      Handling x services m w (.error e) w'

variable {x : Dispatcher} {services : Services σ} {m : TransitionMessage} {d : Definition}
  {t : Transition} {s : Subject} {w w₁ : σ}

theorem handleMessage_of_meets (h : x.Meets services m w d t s w₁) :
    x.handleMessage services m w = x.handleFound services m s w₁ := by
  simp only [handleMessage, workflowName, transitionName, checkName, h.workflow, h.transition,
    Bool.false_eq_true, if_false, h.found]

/-- **A message whose transition is not enabled is handled by doing nothing.** -/
theorem handleMessage_disabled (h : x.Meets services m w d t s w₁) (disabled : x.isEnabled s d t = false) :
    x.handleMessage services m w = (.ok (), w₁) := by
  rw [handleMessage_of_meets h, handleFound,
    applyIfEnabled_disabled h.definition h.known disabled w₁]

theorem handleFound_enabled (definition : x.definitionFor s m.workflow = .ok d)
    (known : d.transition? m.transition = some t) (enabled : x.isEnabled s d t = true) (w : σ) :
    x.handleFound services m s w = finish services m (x.runFrom services d (x.chainOf d t s w)) := by
  have hrun : x.follow services d (followUps d t) { applied := [t.name] } (fire s d t) w =
      x.runFrom services d (x.chainOf d t s w) := rfl
  rw [handleFound, applyIfEnabled_enabled definition known enabled w, hrun]
  rcases x.runFrom services d (x.chainOf d t s w) with ⟨_ | report, s', w'⟩ <;> rfl

/-- **A message whose transition is enabled has its chain followed**, and the entity stored. -/
theorem handleMessage_enabled (h : x.Meets services m w d t s w₁) (enabled : x.isEnabled s d t = true) :
    x.handleMessage services m w = finish services m (x.runFrom services d (x.chainOf d t s w₁)) := by
  rw [handleMessage_of_meets h, handleFound_enabled h.definition h.known enabled]

theorem handleMessage_stored (h : x.Meets services m w d t s w₁) (enabled : x.isEnabled s d t = true)
    {report : Report} {s' : Subject} {w₂ w₃ : σ}
    (run : x.runFrom services d (x.chainOf d t s w₁) = (.ok report, s', w₂))
    (stored : services.persist s' w₂ = (.ok (), w₃)) :
    x.handleMessage services m w = (.ok (), w₃) := by
  rw [handleMessage_enabled h enabled, run, finish, stored]

theorem handling_of_meets {answer : Except HandlingError Unit} {w' : σ}
    (meets : x.Meets services m w d t s w₁) (h : x.handleMessage services m w = (answer, w')) :
    x.Handling services m w answer w' := by
  cases enabled : x.isEnabled s d t with
  | false =>
    cases (handleMessage_disabled meets enabled).symm.trans h
    exact .ignored meets enabled
  | true =>
    have hfinish := (handleMessage_enabled meets enabled).symm.trans h
    rcases hrun : x.runFrom services d (x.chainOf d t s w₁) with ⟨e | report, s', w₂⟩
    · rw [hrun] at hfinish
      cases hfinish
      exact .failed meets enabled hrun
    · rw [hrun, finish] at hfinish
      rcases hstore : services.persist s' w₂ with ⟨e | _, w₃⟩
      · rw [hstore] at hfinish
        cases hfinish
        exact .unstored meets enabled hrun hstore
      · rw [hstore] at hfinish
        cases hfinish
        exact .stored meets enabled hrun hstore

theorem definitionFor_ne_bus {s : Subject} {workflow : WorkflowName} {e : DispatchError}
    (h : x.definitionFor s workflow = .error e) (cause : BusError) : e ≠ .bus cause := by
  unfold definitionFor at h
  split at h
  · cases h
    simp
  · split at h <;> cases h
    simp

theorem handling_of_handleMessage {answer : Except HandlingError Unit} {w' : σ}
    (h : x.handleMessage services m w = (answer, w')) : x.Handling services m w answer w' := by
  have whole := h
  unfold handleMessage at h
  cases workflow : Text.isBlankText m.workflow with
  | true =>
    simp only [workflowName, checkName, workflow, if_true] at h
    cases h
    exact .turnedDown (by simp)
  | false =>
    cases transition : Text.isBlankText m.transition with
    | true =>
      simp only [workflowName, transitionName, checkName, workflow, transition, Bool.false_eq_true,
        if_false, if_true] at h
      cases h
      exact .turnedDown (by simp)
    | false =>
      simp only [workflowName, transitionName, checkName, workflow, transition, Bool.false_eq_true,
        if_false] at h
      rcases found : services.find m.entityType m.entityId w with ⟨e | _ | s, w₁⟩
      · rw [found] at h
        cases h
        exact .turnedDown (by simp)
      · rw [found] at h
        cases h
        exact .turnedDown (by simp)
      · rw [found] at h
        cases definition : x.definitionFor s m.workflow with
        | error e =>
          simp only [handleFound, applyIfEnabled, definition] at h
          cases h
          exact .turnedDown fun cause => by simpa using definitionFor_ne_bus definition cause
        | ok d =>
          cases known : d.transition? m.transition with
          | none =>
            simp only [handleFound, applyIfEnabled_unknown definition known] at h
            cases h
            exact .turnedDown (by simp)
          | some t => exact handling_of_meets ⟨workflow, transition, found, definition, known⟩ whole

/-! ## What a handling leaves alone -/

theorem sameEntity_of_chainOf {outcome : Except DispatchError Report} {s' : Subject} {w' : σ}
    (h : x.runFrom services d (x.chainOf d t s w) = (outcome, s', w')) :
    s.SameEntity s' ∧ ∀ name, name ≠ d.name → s'.marking name = s.marking name := by
  have start : s.SameEntity (x.chainOf d t s w).subject ∧
      ∀ name, name ≠ d.name → (x.chainOf d t s w).subject.marking name = s.marking name :=
    ⟨Subject.sameEntity_fire s d t, fun name hname => marking_fire_of_ne hname t⟩
  have keep : ∀ c c' : ChainState σ, x.Step services d c c' →
      (s.SameEntity c.subject ∧ ∀ name, name ≠ d.name → c.subject.marking name = s.marking name) →
      (s.SameEntity c'.subject ∧ ∀ name, name ≠ d.name → c'.subject.marking name = s.marking name) := by
    rintro c c' step ⟨same, others⟩
    rcases step.moves with hstays | ⟨t, _, hfired⟩
    · rw [hstays]
      exact ⟨same, others⟩
    · rw [hfired]
      exact ⟨same.trans (Subject.sameEntity_fire _ d t),
        fun name hname => (marking_fire_of_ne hname t).trans (others name hname)⟩
  obtain ⟨last, hlast, hstop⟩ := exists_stop_of_invariant keep start
  rw [h] at hstop
  rw [← hstop.subject_eq] at hlast
  exact hlast

variable {l : Ledger σ}

theorem Enqueued.sound (lawful : l.Lawful services x.registry) (sound : l.sound w)
    {answer : Except DispatchError (Option Envelope)} {w' : σ}
    (h : x.Enqueued services d t s w answer w') : l.sound w' := by
  cases h with
  | nobody => exact sound
  | unstored _ unstored => exact (lawful.persist_error sound unstored).sound
  | unsent _ stored unsent => exact (lawful.send (lawful.persist_ok sound stored).sound unsent).sound
  | sent _ stored sent => exact (lawful.send (lawful.persist_ok sound stored).sound sent).sound

theorem Step.sound (lawful : l.Lawful services x.registry) {c c' : ChainState σ}
    (h : x.Step services d c c') (sound : l.sound c.world) : l.sound c'.world := by
  cases h with
  | settled | fired => exact sound
  | abandoned _ _ outcome | sent _ _ outcome =>
    exact (enqueued_of_enqueue outcome).sound lawful sound

theorem Stop.sound (lawful : l.Lawful services x.registry) {c : ChainState σ}
    {r : Except DispatchError Report × Subject × σ} (h : x.Stop services d c r)
    (sound : l.sound c.world) : l.sound r.2.2 := by
  cases h with
  | finished | tooDeep => exact sound
  | refused _ _ outcome => exact (enqueued_of_enqueue outcome).sound lawful sound

theorem sound_of_runFrom (lawful : l.Lawful services x.registry) {c : ChainState σ}
    (sound : l.sound c.world) : l.sound (x.runFrom services d c).2.2 := by
  obtain ⟨last, hlast, hstop⟩ := exists_stop_of_invariant (d := d)
    (P := fun c : ChainState σ => l.sound c.world) (fun _ _ step => step.sound lawful) sound
  exact hstop.sound lawful hlast

end WorkflowEngine.Dispatcher
