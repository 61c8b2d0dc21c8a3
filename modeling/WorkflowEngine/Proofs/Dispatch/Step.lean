import Mathlib.Logic.Relation
import WorkflowEngine.Dispatch.Chain

/-!
# Chains, one event at a time

A chain is a stack of pending events with a report, a subject and an outside world. Taking the first
event either leads to another chain or ends it.

* `ChainState`, `Dispatcher.runFrom`: a chain under way, and running it to its end;
* `Dispatcher.Step`: what taking one event may do; `Dispatcher.Stop`: how a chain may end;
* `Step.moves`, `Stop.subject_eq`, `marking_fire_of_ne`: what this does to the subject;
* `runFrom_step`, `runFrom_steps`, `runFrom_stop`: a run follows the steps;
* **`exists_stop`**: every run is a sequence of steps with an end;
* **`exists_stop_of_invariant`**, `finished_of_invariant`: what every step keeps holds where the run
  ends.
-/

namespace WorkflowEngine

open Relation

/-- **A chain under way.** Each pending event has the number of transitions that may still fire in a
row from it. -/
structure ChainState (σ : Type) where
  stack : List (Event × Nat)
  report : Report
  subject : Subject
  world : σ

/-- The report with one more event. -/
def Report.saw (r : Report) (event : Event) : Report := { r with events := r.events ++ [event] }

/-- The report with one more transition fired. -/
def Report.fired (r : Report) (t : TransitionName) : Report := { r with applied := r.applied ++ [t] }

/-- The report with one more envelope sent. -/
def Report.sent (r : Report) (e : Envelope) : Report := { r with dispatched := r.dispatched ++ [e] }

/-- The report with one more transition given up. -/
def Report.gaveUp (r : Report) (t : TransitionName) : Report :=
  { r with abandoned := r.abandoned ++ [t] }

theorem Definition.name_of_transition? {d : Definition} {name : TransitionName} {t : Transition}
    (h : d.transition? name = some t) : t.name = name := by
  simpa using List.find?_some h

namespace Dispatcher

variable {σ : Type}

/-- Run a chain to its end. -/
def runFrom (x : Dispatcher) (services : Services σ) (d : Definition) (c : ChainState σ) :
    Except DispatchError Report × Subject × σ :=
  x.runChain services d c.stack c.report c.subject c.world

/-- **Taking the first pending event**: nothing is enabled, a queued transition is given up or sent,
or a transition fires and its own events come first. -/
inductive Step (x : Dispatcher) (services : Services σ) (d : Definition) :
    ChainState σ → ChainState σ → Prop
  | settled {event left rest report s w}
      (idle : x.firstEnabled? s d (d.candidates event) = none) :
      Step x services d ⟨(event, left) :: rest, report, s, w⟩ ⟨rest, report.saw event, s, w⟩
  | abandoned {event left rest report s w t w'}
      (chosen : x.firstEnabled? s d (d.candidates event) = some t)
      (queued : x.locator.isAsync d.name t.name = true)
      (outcome : x.enqueue services d t s w = (.ok none, w')) :
      Step x services d ⟨(event, left) :: rest, report, s, w⟩
        ⟨rest, (report.saw event).gaveUp t.name, s, w'⟩
  | sent {event left rest report s w t e w'}
      (chosen : x.firstEnabled? s d (d.candidates event) = some t)
      (queued : x.locator.isAsync d.name t.name = true)
      (outcome : x.enqueue services d t s w = (.ok (some e), w')) :
      Step x services d ⟨(event, left) :: rest, report, s, w⟩
        ⟨rest, (report.saw event).sent e, s, w'⟩
  | fired {event left rest report s w t}
      (chosen : x.firstEnabled? s d (d.candidates event) = some t)
      (inline : x.locator.isAsync d.name t.name = false) :
      Step x services d ⟨(event, left + 1) :: rest, report, s, w⟩
        ⟨(followUps d t).map (·, left) ++ rest, (report.saw event).fired t.name, fire s d t, w⟩

/-- **How a chain ends**: nothing is pending, a service refuses, or too many transitions fired in a
row. -/
inductive Stop (x : Dispatcher) (services : Services σ) (d : Definition) :
    ChainState σ → Except DispatchError Report × Subject × σ → Prop
  | finished {report s w} : Stop x services d ⟨[], report, s, w⟩ (.ok report, s, w)
  | refused {event left rest report s w t e w'}
      (chosen : x.firstEnabled? s d (d.candidates event) = some t)
      (queued : x.locator.isAsync d.name t.name = true)
      (outcome : x.enqueue services d t s w = (.error e, w')) :
      Stop x services d ⟨(event, left) :: rest, report, s, w⟩ (.error e, s, w')
  | tooDeep {event rest report s w t}
      (chosen : x.firstEnabled? s d (d.candidates event) = some t)
      (inline : x.locator.isAsync d.name t.name = false) :
      Stop x services d ⟨(event, 0) :: rest, report, s, w⟩
        (.error (.chainTooDeep d.name t.name x.maxChainDepth), s, w)

variable {x : Dispatcher} {services : Services σ} {d : Definition}

theorem firstEnabled?_eq_some {s : Subject} {names : List TransitionName} {t : Transition}
    (h : x.firstEnabled? s d names = some t) :
    t.name ∈ names ∧ d.transition? t.name = some t ∧ x.isEnabled s d t = true := by
  obtain ⟨name, hname, h⟩ := List.exists_of_findSome?_eq_some h
  obtain ⟨hfound, henabled⟩ := Option.filter_eq_some_iff.1 h
  obtain rfl := d.name_of_transition? hfound
  exact ⟨hname, hfound, henabled⟩

theorem Step.moves {c c' : ChainState σ} (h : x.Step services d c c') :
    c'.subject = c.subject ∨ ∃ t ∈ d.transitions, c'.subject = fire c.subject d t := by
  cases h with
  | settled | abandoned | sent => exact .inl rfl
  | fired chosen => exact .inr ⟨_, mem_of_firstEnabled? chosen, rfl⟩

theorem Stop.subject_eq {c : ChainState σ} {r : Except DispatchError Report × Subject × σ}
    (h : x.Stop services d c r) : r.2.1 = c.subject := by
  cases h <;> rfl

theorem enqueue_of_sent {s : Subject} {t : Transition} {id : String} {e : Envelope} {w w₁ w₂ : σ}
    (identity : x.identity? s = some id)
    (stored : services.persist s w = (.ok (), w₁))
    (sent : let m := ⟨id, s.entityType, t.name, d.name⟩
      services.send m (x.locator.stamps m (x.reading.context s)) w₁ = (.ok e, w₂)) :
    x.enqueue services d t s w = (.ok (some e), w₂) := by
  simp only [enqueue, identity, stored, sent]

theorem marking_fire_of_ne {s : Subject} {name : WorkflowName} (h : name ≠ d.name)
    (t : Transition) : (fire s d t).marking name = s.marking name :=
  s.marking_mark_of_ne h _

/-! ## Runs follow steps -/

theorem runChain_nil (report : Report) (s : Subject) (w : σ) :
    x.runChain services d [] report s w = (.ok report, s, w) := by
  rw [runChain]

theorem runChain_cons (event : Event) (left : Nat) (rest : List (Event × Nat)) (report : Report)
    (s : Subject) (w : σ) :
    x.runChain services d ((event, left) :: rest) report s w =
      match x.firstEnabled? s d (d.candidates event) with
      | none => x.runChain services d rest (report.saw event) s w
      | some t =>
        if x.locator.isAsync d.name t.name then
          match x.enqueue services d t s w with
          | (.error e, w) => (.error e, s, w)
          | (.ok none, w) => x.runChain services d rest ((report.saw event).gaveUp t.name) s w
          | (.ok (some e), w) => x.runChain services d rest ((report.saw event).sent e) s w
        else
          match left with
          | 0 => (.error (.chainTooDeep d.name t.name x.maxChainDepth), s, w)
          | left + 1 =>
            x.runChain services d ((followUps d t).map (·, left) ++ rest)
              ((report.saw event).fired t.name) (fire s d t) w := by
  rw [runChain]
  split
  · next h =>
    rw [h]
    rfl
  · next t h =>
    rw [h]
    cases queued : x.locator.isAsync d.name t.name with
    | true =>
      simp only [queued, if_true]
      rcases x.enqueue services d t s w with ⟨_ | _ | e, w'⟩ <;> rfl
    | false =>
      simp only [queued, Bool.false_eq_true, if_false]
      cases left <;> rfl

theorem runFrom_step {c c' : ChainState σ} (h : x.Step services d c c') :
    x.runFrom services d c = x.runFrom services d c' := by
  unfold runFrom
  cases h with
  | settled idle => rw [runChain_cons, idle]
  | abandoned chosen queued outcome | sent chosen queued outcome =>
    rw [runChain_cons, chosen]
    simp only [queued, outcome, if_true]
  | fired chosen inline =>
    rw [runChain_cons, chosen]
    simp only [inline, Bool.false_eq_true, if_false]

theorem runFrom_steps {c c' : ChainState σ} (h : ReflTransGen (x.Step services d) c c') :
    x.runFrom services d c = x.runFrom services d c' := by
  induction h with
  | refl => rfl
  | tail _ step ih => exact ih.trans (runFrom_step step)

theorem runFrom_stop {c : ChainState σ} {r : Except DispatchError Report × Subject × σ}
    (h : x.Stop services d c r) : x.runFrom services d c = r := by
  unfold runFrom
  cases h with
  | finished => exact runChain_nil _ _ _
  | refused chosen queued outcome =>
    rw [runChain_cons, chosen]
    simp only [queued, outcome, if_true]
  | tooDeep chosen inline =>
    rw [runChain_cons, chosen]
    simp only [inline, Bool.false_eq_true, if_false]

theorem step_or_stop (x : Dispatcher) (services : Services σ) (d : Definition) (c : ChainState σ) :
    (∃ c', x.Step services d c c') ∨ ∃ r, x.Stop services d c r := by
  obtain ⟨stack, report, s, w⟩ := c
  rcases stack with _ | ⟨⟨event, left⟩, rest⟩
  · exact .inr ⟨_, .finished⟩
  · cases chosen : x.firstEnabled? s d (d.candidates event) with
    | none => exact .inl ⟨_, .settled chosen⟩
    | some t =>
      cases queued : x.locator.isAsync d.name t.name with
      | true =>
        rcases outcome : x.enqueue services d t s w with ⟨_ | _ | e, w'⟩
        · exact .inr ⟨_, .refused chosen queued outcome⟩
        · exact .inl ⟨_, .abandoned chosen queued outcome⟩
        · exact .inl ⟨_, .sent chosen queued outcome⟩
      | false =>
        cases left with
        | zero => exact .inr ⟨_, .tooDeep chosen queued⟩
        | succ left => exact .inl ⟨_, .fired chosen queued⟩

theorem stackWeight_lt_of_step {c c' : ChainState σ} (h : x.Step services d c c') :
    stackWeight d.breadth c'.stack < stackWeight d.breadth c.stack := by
  cases h with
  | settled | abandoned | sent => exact stackWeight_rest_lt ..
  | fired chosen =>
    exact stackWeight_followUps_lt (length_followUps_le (mem_of_firstEnabled? chosen)) ..

/-- **Every run is a sequence of steps with an end**, and gives what the end gives. -/
theorem exists_stop (x : Dispatcher) (services : Services σ) (d : Definition) (c : ChainState σ) :
    ∃ c', ReflTransGen (x.Step services d) c c' ∧ x.Stop services d c' (x.runFrom services d c) := by
  induction hn : stackWeight d.breadth c.stack using Nat.strongRecOn generalizing c with
  | _ n ih =>
    rcases step_or_stop x services d c with ⟨c₁, h⟩ | ⟨r, h⟩
    · obtain ⟨c', hrun, hstop⟩ := ih _ (hn ▸ stackWeight_lt_of_step h) c₁ rfl
      exact ⟨c', .head h hrun, runFrom_step h ▸ hstop⟩
    · exact ⟨c, .refl, (runFrom_stop h).symm ▸ h⟩

/-- **What every step keeps holds where the run ends.** -/
theorem exists_stop_of_invariant {P : ChainState σ → Prop}
    (keep : ∀ c c', x.Step services d c c' → P c → P c') {c : ChainState σ} (h : P c) :
    ∃ c', P c' ∧ x.Stop services d c' (x.runFrom services d c) := by
  obtain ⟨c', hrun, hstop⟩ := exists_stop x services d c
  refine ⟨c', ?_, hstop⟩
  clear hstop
  induction hrun with
  | refl => exact h
  | tail _ hstep ih => exact keep _ _ hstep ih

theorem finished_of_invariant {P : ChainState σ → Prop}
    (keep : ∀ c c', x.Step services d c c' → P c → P c') {c : ChainState σ} (h : P c)
    {report : Report} {s : Subject} {w : σ} (run : x.runFrom services d c = (.ok report, s, w)) :
    P ⟨[], report, s, w⟩ := by
  obtain ⟨last, hlast, hstop⟩ := exists_stop_of_invariant keep h
  rw [run] at hstop
  cases hstop with
  | finished => exact hlast

end Dispatcher

end WorkflowEngine
