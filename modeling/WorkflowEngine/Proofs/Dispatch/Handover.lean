import WorkflowEngine.Proofs.Dispatch.Call
import WorkflowEngine.Proofs.Dispatch.DepthFirst
import WorkflowEngine.Proofs.Dispatch.Entity

/-!
# Handing transitions over

A transition that goes to a queue is handed over: the subject is stored, and right behind that the
message for the transition is sent. Nothing else is ever asked of the services, and what fails ends
the call.

* `Handover`, `Handover.effects`, `Handover.answer`: the effects of one hand-over, and what the chain
  makes of it;
* `Handover.Due`: the subject can take the transition where it was stored, and the message says which
  one, of which subject, and goes to its queue;
* `Dispatcher.Course`: how a subject moves between hand-overs;
* `enqueue_recording_cases`: a queued transition is given up or handed over;
* `Dispatcher.Follows`, `follows_of_step`: the invariant of a chain, and that each event keeps it;
* **`effects_of_call`**: the effects of every call are those of its hand-overs.
-/

namespace WorkflowEngine

/-- **What came of a hand-over**: the store refused the subject, or the bus refused the message, or
the message was sent. -/
inductive HandoverOutcome where
  | unstored (cause : StoreError)
  | unsent (cause : BusError)
  | sent (envelope : Envelope)

/-- **A hand-over**: a subject to store, the message to send behind it, and what came of that. -/
structure Handover where
  subject : Subject
  message : TransitionMessage
  stamps : List Stamp
  outcome : HandoverOutcome

namespace Handover

/-- **The effects of a hand-over**: the subject is stored, and if that succeeds the message is sent. -/
def effects (h : Handover) : List Effect :=
  match h.outcome with
  | .unstored cause => [.persisted h.subject (.error cause)]
  | .unsent cause => [.persisted h.subject (.ok ()), .sent h.message h.stamps (.error cause)]
  | .sent envelope => [.persisted h.subject (.ok ()), .sent h.message h.stamps (.ok envelope)]

/-- The envelope that a hand-over sent, or the error that it ends a call with. -/
def answer (h : Handover) : Except DispatchError Envelope :=
  match h.outcome with
  | .unstored cause => .error (.store cause)
  | .unsent cause => .error (.bus cause)
  | .sent envelope => .ok envelope

/-- **A hand-over is due.** The transition that its message names is enabled where the subject was
stored; the message carries the identity and the type of that subject and the name of the workflow;
and its first stamp is the route to the queue of the transition. -/
structure Due (x : Dispatcher) (d : Definition) (h : Handover) : Prop where
  enabled : ∃ t, d.transition? h.message.transition = some t ∧ x.isEnabled h.subject d t = true
  entityId : x.identity? h.subject = some h.message.entityId
  entityType : h.message.entityType = h.subject.entityType
  workflow : h.message.workflow = d.name
  route : ∃ address, x.locator.queue? h.message.workflow h.message.transition = some address ∧
    h.stamps.head? = some (.route address)

end Handover

/-- **The course of a subject through a call.** It may be put at the start, and it fires enabled
transitions; a hand-over is about the subject as it stands, and leaves it there. -/
inductive Dispatcher.Course (x : Dispatcher) (d : Definition) (s : Subject) :
    List Handover → Subject → Prop
  | still : Course x d s [] s
  | started : Course x d s [] (s.mark d.name d.initial)
  | fired {handovers s' t} (course : Course x d s handovers s') (declared : t ∈ d.transitions)
      (enabled : x.isEnabled s' d t = true) : Course x d s handovers (fire s' d t)
  | handed {handovers} (h : Handover) (course : Course x d s handovers h.subject) :
      Course x d s (handovers ++ [h]) h.subject

namespace Dispatcher

variable {σ : Type} {x : Dispatcher} {services : Services σ} {d : Definition}

theorem Course.sameEntity {s s' : Subject} {handovers : List Handover}
    (h : x.Course d s handovers s') : s.SameEntity s' := by
  induction h with
  | still => exact .refl s
  | started => exact s.sameEntity_mark _ _
  | fired _ _ _ ih => exact ih.trans (Subject.sameEntity_fire _ d _)
  | handed _ _ ih => exact ih

theorem Course.eq_nil {s s' : Subject} {handovers : List Handover} (h : x.Course d s handovers s')
    (due : ∀ h ∈ handovers, h.Due x d)
    (nobody : ∀ s', s.SameEntity s' → x.identity? s' = none) : handovers = [] := by
  induction h with
  | still | started => rfl
  | fired _ _ _ ih => exact ih due
  | handed h course =>
    have hid := (due h (by simp)).entityId
    rw [nobody _ course.sameEntity] at hid
    cases hid

theorem due_of_chosen {s : Subject} {names : List TransitionName} {t : Transition} {id : String}
    (chosen : x.firstEnabled? s d names = some t) (queued : x.locator.isAsync d.name t.name = true)
    (identity : x.identity? s = some id) (outcome : HandoverOutcome) :
    let m : TransitionMessage := ⟨id, s.entityType, t.name, d.name⟩
    (Handover.mk s m (x.locator.stamps m (x.reading.context s)) outcome).Due x d := by
  intro m
  obtain ⟨_, known, enabled⟩ := firstEnabled?_eq_some chosen
  obtain ⟨address, route⟩ := Locator.isAsync_iff.1 queued
  have first := Locator.head?_stamps (m := m) route (x.reading.context s)
  exact ⟨⟨t, known, enabled⟩, identity, rfl, rfl, address, route, first⟩

/-- **A queued transition is given up for want of an identity, or handed over.** -/
theorem enqueue_recording_cases {s : Subject} {names : List TransitionName} {t : Transition}
    (chosen : x.firstEnabled? s d names = some t) (queued : x.locator.isAsync d.name t.name = true)
    {w w' : σ × List Effect} {outcome : Except DispatchError (Option Envelope)}
    (enqueued : x.enqueue services.recording d t s w = (outcome, w')) :
    (outcome = .ok none ∧ w'.2 = w.2) ∨
      ∃ h : Handover, h.subject = s ∧ h.Due x d ∧ outcome = h.answer.map some ∧
        w'.2 = w.2 ++ h.effects := by
  unfold enqueue at enqueued
  cases identity : x.identity? s with
  | none =>
    rw [identity] at enqueued
    cases enqueued
    exact .inl ⟨rfl, rfl⟩
  | some id =>
    right
    let m : TransitionMessage := ⟨id, s.entityType, t.name, d.name⟩
    let stamps := x.locator.stamps m (x.reading.context s)
    have due : ∀ outcome, (Handover.mk s m stamps outcome).Due x d := due_of_chosen chosen queued identity
    simp only [identity, Services.recording] at enqueued
    rcases stored : services.persist s w.1 with ⟨e | _, w₁⟩
    · simp only [stored] at enqueued
      cases enqueued
      exact ⟨⟨s, m, stamps, .unstored e⟩, rfl, due _, rfl, rfl⟩
    · rcases sent : services.send m stamps w₁ with ⟨e | envelope, w₂⟩ <;>
        simp only [m, stamps] at sent <;> simp only [stored, sent] at enqueued <;> cases enqueued
      · exact ⟨⟨s, m, stamps, .unsent e⟩, rfl, due _, rfl, List.append_assoc ..⟩
      · exact ⟨⟨s, m, stamps, .sent envelope⟩, rfl, due _, rfl, List.append_assoc ..⟩

/-! ## The invariant of a chain -/

/-- **What a chain under way has done**: hand-overs that were due and succeeded, in the course of its
subject. Its report lists their envelopes. -/
structure Follows (x : Dispatcher) (d : Definition) (s : Subject) (handovers : List Handover)
    (c : ChainState (σ × List Effect)) : Prop where
  effects : c.world.2 = handovers.flatMap Handover.effects
  course : x.Course d s handovers c.subject
  due : ∀ h ∈ handovers, h.Due x d
  sent : handovers.map Handover.answer = c.report.dispatched.map .ok

/-- **Each event keeps the invariant**, with one hand-over more where a message was sent. -/
theorem follows_of_step {s : Subject} {c c' : ChainState (σ × List Effect)}
    (step : x.Step services.recording d c c') (h : ∃ handovers, x.Follows d s handovers c) :
    ∃ handovers, x.Follows d s handovers c' := by
  obtain ⟨handovers, h⟩ := h
  cases step with
  | settled => exact ⟨handovers, h.effects, h.course, h.due, h.sent⟩
  | abandoned chosen queued outcome =>
    rcases enqueue_recording_cases chosen queued outcome with
      ⟨_, hsame⟩ | ⟨h', _, _, hanswer, _⟩
    · exact ⟨handovers, hsame.trans h.effects, h.course, h.due, h.sent⟩
    · cases hh : h'.answer <;> simp [hh, Except.map] at hanswer
  | sent chosen queued outcome =>
    rcases enqueue_recording_cases chosen queued outcome with
      ⟨hnone, _⟩ | ⟨h', rfl, due, hanswer, heffects⟩
    · cases hnone
    · refine ⟨handovers ++ [h'], ?_, .handed h' h.course, ?_, ?_⟩
      · rw [heffects, List.flatMap_append, List.flatMap_singleton]
        exact congrArg (· ++ h'.effects) h.effects
      · intro g hg
        rcases List.mem_append.1 hg with hg | hg
        · exact h.due g hg
        · exact List.mem_singleton.1 hg ▸ due
      · cases hh : h'.answer <;> simp [hh, Except.map] at hanswer
        simp [Report.saw, Report.sent, h.sent, hh, hanswer]
  | fired chosen =>
    exact ⟨handovers, h.effects,
      .fired h.course (mem_of_firstEnabled? chosen) (firstEnabled?_eq_some chosen).2.2, h.due, h.sent⟩

theorem follows_of_opens {c : Call} {s s' : Subject} {events : List Event} {report : Report}
    (opens : x.Opens c s d events report s') (w : σ) :
    x.Follows d s [] ⟨events.map (·, x.maxChainDepth), report, s', (w, [])⟩ := by
  have hname := opens.registered.2
  refine ⟨rfl, ?_, by simp, ?_⟩
  · cases opens with
    | start =>
      change d.name = _ at hname
      subst hname
      exact .started
    | entered | completed => exact .still
    | apply _ known enabled | applyIfEnabled _ known enabled =>
      exact .fired .still (List.mem_of_find?_eq_some known) enabled
  · cases opens <;> rfl

theorem exists_handovers_of_stop {s : Subject} {handovers : List Handover}
    {c : ChainState (σ × List Effect)} {answer : Except DispatchError Report × Subject × σ × List Effect}
    (h : x.Follows d s handovers c) (stop : x.Stop services.recording d c answer) :
    ∃ handovers', answer.2.2.2 = handovers'.flatMap Handover.effects ∧
      x.Course d s handovers' answer.2.1 ∧ (∀ h ∈ handovers', h.Due x d) ∧
      (∀ h ∈ handovers'.dropLast, ∃ e, h.answer = .ok e) ∧
      (∀ h ∈ handovers'.getLast?, ∀ e, h.answer = .error e → answer.1 = .error e) ∧
      ∀ report, answer.1 = .ok report →
        handovers'.map Handover.answer = report.dispatched.map .ok := by
  have succeeded : ∀ h ∈ handovers, ∃ e, h.answer = .ok e := by
    intro g hg
    have := h.sent ▸ List.mem_map_of_mem (f := Handover.answer) hg
    obtain ⟨e, _, he⟩ := List.mem_map.1 this
    exact ⟨e, he.symm⟩
  have unbroken : ∀ h ∈ handovers.getLast?, ∀ e, h.answer = .error e → answer.1 = .error e := by
    intro g hg e he
    obtain ⟨e', he'⟩ := succeeded g (List.mem_of_getLast? hg)
    rw [he'] at he
    cases he
  cases stop with
  | finished =>
    refine ⟨handovers, h.effects, h.course, h.due,
      fun g hg => succeeded g (List.dropLast_subset _ hg), unbroken, ?_⟩
    rintro report ⟨⟩
    exact h.sent
  | tooDeep =>
    refine ⟨handovers, h.effects, h.course, h.due,
      fun g hg => succeeded g (List.dropLast_subset _ hg), unbroken, ?_⟩
    rintro report ⟨⟩
  | refused chosen queued outcome =>
    rcases enqueue_recording_cases chosen queued outcome with
      ⟨hnone, _⟩ | ⟨h', rfl, due, hanswer, heffects⟩
    · cases hnone
    · refine ⟨handovers ++ [h'], ?_, .handed h' h.course, ?_, ?_, ?_, ?_⟩
      · rw [heffects, List.flatMap_append, List.flatMap_singleton]
        exact congrArg (· ++ h'.effects) h.effects
      · intro g hg
        rcases List.mem_append.1 hg with hg | hg
        · exact h.due g hg
        · exact List.mem_singleton.1 hg ▸ due
      · rw [List.dropLast_concat]
        exact succeeded
      · intro g hg e he
        obtain rfl : h' = g := by simpa using hg
        rw [he] at hanswer
        cases hanswer
        rfl
      · rintro report ⟨⟩

/-! ## Every call -/

theorem call_recording (c : Call) (s : Subject) (w : σ) (effects : List Effect) :
    (x.call services.recording c s (w, effects)).map id (Prod.map id Prod.fst) =
      x.call services c s w := by
  rcases x.opens_or_refused c s with ⟨d, events, report, s', opens⟩ | ⟨outcome, refused, _⟩
  · have hrun : (x.runChain services.recording d (events.map (·, x.maxChainDepth)) report s'
        (w, effects)).map id (Prod.map id Prod.fst) =
          x.runChain services d (events.map (·, x.maxChainDepth)) report s' w :=
      x.runChain_recording _ report s' w effects
    rw [call_of_opens opens, call_of_opens opens, follow, follow, ← hrun]
    rfl
  · rw [refused, refused]
    rfl

/-- **A queued transition is handed over by storing the subject and sending the message right behind
it.** The effects of a call are those of hand-overs that are due, each about the subject as it stands
at that point of its course. Only the last one may fail, and then the call fails with its error; a
call that succeeds reports the envelopes of all of them. Without identity there is none. -/
theorem effects_of_call (x : Dispatcher) (services : Services σ) (c : Call) (s : Subject) (w : σ) :
    ∃ (outcome : Except DispatchError (Option Report)) (s' : Subject) (w' : σ)
        (handovers : List Handover),
      x.call services c s w = (outcome, s', w') ∧
      x.call services.recording c s (w, []) =
        (outcome, s', w', handovers.flatMap Handover.effects) ∧
      (∀ h ∈ handovers, ∃ d, x.definitionFor s c.workflow = .ok d ∧ h.Due x d) ∧
      (∀ d, x.definitionFor s c.workflow = .ok d → x.Course d s handovers s') ∧
      (∀ h ∈ handovers.dropLast, ∃ e, h.answer = .ok e) ∧
      (∀ h ∈ handovers.getLast?, ∀ e, h.answer = .error e → outcome = .error e) ∧
      (∀ report, outcome = .ok report →
        handovers.map Handover.answer = (report.getD {}).dispatched.map .ok) ∧
      ((∀ s', s.SameEntity s' → x.identity? s' = none) → handovers = []) := by
  have hplain : (x.call services.recording c s (w, [])).map id (Prod.map id Prod.fst) =
      x.call services c s w := x.call_recording c s w []
  rcases x.opens_or_refused c s with ⟨d, events, report, s₁, opens⟩ | ⟨outcome, refused, hreport, _⟩
  · have keep (c c' : ChainState (σ × List Effect)) (step : x.Step services.recording d c c') :
        (∃ handovers, x.Follows d s handovers c) → ∃ handovers, x.Follows d s handovers c' :=
      follows_of_step step
    obtain ⟨last, ⟨_, hfollows⟩, hstop⟩ :=
      exists_stop_of_invariant keep ⟨[], follows_of_opens opens w⟩
    obtain ⟨handovers, heffects, hcourse, hdue, hsent, hfailed, hreported⟩ :=
      exists_handovers_of_stop hfollows hstop
    rcases hrun : x.runFrom services.recording d
        ⟨events.map (·, x.maxChainDepth), report, s₁, (w, [])⟩ with ⟨outcome, s', w', effects⟩
    rw [hrun] at heffects hcourse hfailed hreported
    obtain rfl : effects = handovers.flatMap Handover.effects := heffects
    have hcall : x.call services.recording c s (w, []) =
        (outcome.map some, s', w', handovers.flatMap Handover.effects) := by
      rw [call_of_opens opens]
      exact congrArg (Prod.map (Except.map some) id) hrun
    rw [hcall] at hplain
    refine ⟨outcome.map some, s', w', handovers, hplain.symm, hcall,
      fun h hh => ⟨d, opens.definitionFor, hdue h hh⟩, ?_, hsent, ?_, ?_, hcourse.eq_nil hdue⟩
    · intro d' found'
      cases opens.definitionFor.symm.trans found'
      exact hcourse
    · intro h hh e he
      exact congrArg (Except.map some) (hfailed h hh e he)
    · intro report' hok
      cases outcome with
      | error e => cases hok
      | ok report =>
        cases hok
        exact hreported report rfl
  · refine ⟨outcome, s, w, [], refused σ services w, refused _ services.recording (w, []), by simp,
      fun _ _ => .still, by simp, by simp, ?_, fun _ => rfl⟩
    rintro (_ | report) hok
    · rfl
    · exact absurd hok (hreport report)

end Dispatcher

end WorkflowEngine
