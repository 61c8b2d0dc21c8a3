import WorkflowEngine.Dispatch.Dispatcher
import WorkflowEngine.Proofs.Dispatch.Step

/-!
# Chains are followed depth first

The stack of pending events does the same as a recursion over the tree of events: an event and all
that follows from it come before its next sibling, and how deep an event stands is counted from its
root.

* `Dispatcher.choose?`, `firstEnabled?_eq_choose?`: the first enabled candidate in the order of the names;
* `Dispatcher.followOne`, `Dispatcher.followAll`: the recursion, on one event and on a list of events;
* `runChain_append`, `runChain_cons_eq_resume`: the first events of a stack are followed to their end
  before the rest;
* `Effect`, `Services.recording`, `runChain_recording`: services that write down what is asked of
  them, and that nothing else changes by that;
* **`runChain_eq_followAll`**: the stack and the recursion agree in result, subject, world and effects.
-/

namespace WorkflowEngine

namespace Dispatcher

variable {σ : Type}

/-- **The first name of a list that names an enabled transition**, as that transition. -/
def choose? (x : Dispatcher) (s : Subject) (d : Definition) : List TransitionName → Option Transition
  | [] => none
  | name :: names =>
    match d.transition? name with
    | some t => if x.isEnabled s d t then some t else x.choose? s d names
    | none => x.choose? s d names

theorem firstEnabled?_eq_choose? (x : Dispatcher) (s : Subject) (d : Definition)
    (names : List TransitionName) : x.firstEnabled? s d names = x.choose? s d names := by
  induction names with
  | nil => rfl
  | cons name names ih =>
    rw [choose?, ← ih, firstEnabled?, List.findSome?_cons]
    cases d.transition? name with
    | none => rfl
    | some t => cases h : x.isEnabled s d t <;> simp [h, Option.filter, firstEnabled?]

mutual

/-- **One event and all that follows from it**, at a depth below its root. -/
def followOne (x : Dispatcher) (services : Services σ) (d : Definition) (depth : Nat) (event : Event)
    (report : Report) (s : Subject) (w : σ) : Except DispatchError Report × Subject × σ :=
  match x.choose? s d (d.candidates event) with
  | none => (.ok (report.saw event), s, w)
  | some t =>
    if x.locator.isAsync d.name t.name then
      match x.enqueue services d t s w with
      | (.error e, w) => (.error e, s, w)
      | (.ok none, w) => (.ok ((report.saw event).gaveUp t.name), s, w)
      | (.ok (some e), w) => (.ok ((report.saw event).sent e), s, w)
    else if x.maxChainDepth ≤ depth then
      (.error (.chainTooDeep d.name t.name x.maxChainDepth), s, w)
    else
      x.followAll services d (depth + 1) (t.targets.map (.entered d.name) ++ [.completed d.name t.name])
        ((report.saw event).fired t.name) (fire s d t) w
termination_by (x.maxChainDepth - depth, 0)

/-- **Events one after the other**, each with all that follows from it, until one fails. -/
def followAll (x : Dispatcher) (services : Services σ) (d : Definition) (depth : Nat)
    (events : List Event) (report : Report) (s : Subject) (w : σ) :
    Except DispatchError Report × Subject × σ :=
  match events with
  | [] => (.ok report, s, w)
  | event :: rest =>
    match x.followOne services d depth event report s w with
    | (.error e, s, w) => (.error e, s, w)
    | (.ok report, s, w) => x.followAll services d depth rest report s w
termination_by (x.maxChainDepth - depth, events.length + 1)

end

variable {x : Dispatcher} {services : Services σ} {d : Definition}

theorem followAll_nil (depth : Nat) (report : Report) (s : Subject) (w : σ) :
    x.followAll services d depth [] report s w = (.ok report, s, w) := by
  rw [followAll]

theorem followAll_cons (depth : Nat) (event : Event) (rest : List Event) (report : Report)
    (s : Subject) (w : σ) :
    x.followAll services d depth (event :: rest) report s w =
      match x.followOne services d depth event report s w with
      | (.error e, s, w) => (.error e, s, w)
      | (.ok report, s, w) => x.followAll services d depth rest report s w := by
  rw [followAll]

/-! ## The stack follows the recursion -/

/-- What comes after some events of a chain: nothing if they failed, else the rest of the stack. -/
def resume (x : Dispatcher) (services : Services σ) (d : Definition) (rest : List (Event × Nat)) :
    Except DispatchError Report × Subject × σ → Except DispatchError Report × Subject × σ
  | (.error e, s, w) => (.error e, s, w)
  | (.ok report, s, w) => x.runChain services d rest report s w

/-- **Events at one depth are followed one after the other**, if each of them is followed to its end
before what is pending behind it. -/
theorem runChain_append {left depth : Nat}
    (h : ∀ (event : Event) (rest : List (Event × Nat)) (report : Report) (s : Subject) (w : σ),
      x.runChain services d ((event, left) :: rest) report s w =
        x.resume services d rest (x.followOne services d depth event report s w))
    (events : List Event) (rest : List (Event × Nat)) (report : Report) (s : Subject) (w : σ) :
    x.runChain services d (events.map (·, left) ++ rest) report s w =
      x.resume services d rest (x.followAll services d depth events report s w) := by
  induction events generalizing report s w with
  | nil =>
    rw [followAll_nil]
    rfl
  | cons event events ih =>
    rw [List.map_cons, List.cons_append, h, followAll_cons]
    rcases x.followOne services d depth event report s w with ⟨_ | report', s', w'⟩
    · rfl
    · exact ih report' s' w'

/-- **An event is followed to its end before what is pending behind it.** The induction is on the
number of transitions that may still fire in a row from the event. -/
theorem runChain_cons_eq_resume (left : Nat) : ∀ (depth : Nat), depth + left = x.maxChainDepth →
    ∀ (event : Event) (rest : List (Event × Nat)) (report : Report) (s : Subject) (w : σ),
      x.runChain services d ((event, left) :: rest) report s w =
        x.resume services d rest (x.followOne services d depth event report s w) := by
  induction left with
  | zero =>
    intro depth hdepth event rest report s w
    rw [runChain_cons, followOne, firstEnabled?_eq_choose?]
    cases x.choose? s d (d.candidates event) with
    | none => rfl
    | some t =>
      cases queued : x.locator.isAsync d.name t.name with
      | true =>
        rcases h : x.enqueue services d t s w with ⟨_ | _ | e, w'⟩ <;> simp [queued, h, resume]
      | false => simp [queued, resume, show x.maxChainDepth ≤ depth by omega]
  | succ left ih =>
    intro depth hdepth event rest report s w
    rw [runChain_cons, followOne, firstEnabled?_eq_choose?]
    cases x.choose? s d (d.candidates event) with
    | none => rfl
    | some t =>
      cases queued : x.locator.isAsync d.name t.name with
      | true =>
        rcases h : x.enqueue services d t s w with ⟨_ | _ | e, w'⟩ <;> simp [queued, h, resume]
      | false =>
        simp only [queued, Bool.false_eq_true, if_false, show ¬ x.maxChainDepth ≤ depth by omega]
        exact runChain_append (ih (depth + 1) (by omega)) ..

end Dispatcher

/-! ## What is asked of the services -/

/-- **What was asked of the outside world**, and what came of it. -/
inductive Effect where
  | persisted (subject : Subject) (outcome : Except StoreError Unit)
  | sent (message : TransitionMessage) (stamps : List Stamp) (outcome : Except BusError Envelope)

/-- **Services that write down** what they are asked to store and to send, in order. -/
def Services.recording {σ : Type} (services : Services σ) : Services (σ × List Effect) where
  persist s w :=
    let (outcome, w') := services.persist s w.1
    (outcome, w', w.2 ++ [.persisted s outcome])
  find entityType id w :=
    let (outcome, w') := services.find entityType id w.1
    (outcome, w', w.2)
  send m stamps w :=
    let (outcome, w') := services.send m stamps w.1
    (outcome, w', w.2 ++ [.sent m stamps outcome])

namespace Dispatcher

variable {σ : Type} {x : Dispatcher} {services : Services σ} {d : Definition}

theorem enqueue_recording (t : Transition) {s : Subject} {w w' : σ}
    {outcome : Except DispatchError (Option Envelope)}
    (h : x.enqueue services d t s w = (outcome, w')) (effects : List Effect) :
    ∃ effects', x.enqueue services.recording d t s (w, effects) = (outcome, w', effects') := by
  revert h
  unfold enqueue
  cases x.identity? s with
  | none =>
    rintro ⟨⟩
    exact ⟨effects, rfl⟩
  | some id =>
    simp only
    generalize TransitionMessage.mk id s.entityType t.name d.name = m
    rcases stored : services.persist s w with ⟨_ | _, w₁⟩
    · rintro ⟨⟩
      simp only [Services.recording, stored]
      exact ⟨_, rfl⟩
    · simp only
      rcases sent : services.send m (x.locator.stamps m (x.reading.context s)) w₁ with ⟨_ | _, w₂⟩ <;>
        rintro ⟨⟩ <;> simp only [Services.recording, stored, sent]
      · exact ⟨_, rfl⟩
      · exact ⟨_, rfl⟩

/-- **A chain runs alike whether its effects are written down or not.** -/
theorem runChain_recording (stack : List (Event × Nat)) (report : Report) (s : Subject) (w : σ)
    (effects : List Effect) :
    (x.runChain services.recording d stack report s (w, effects)).map id (Prod.map id Prod.fst) =
      x.runChain services d stack report s w := by
  fun_induction runChain x services d stack report s w generalizing effects with
  | case1 =>
    rw [runChain_nil]
    rfl
  | case2 report s w event left rest report' idle ih =>
    rw [runChain_cons, idle]
    exact ih effects
  | case3 report s w event left rest t chosen queued e w' outcome =>
    obtain ⟨effects', h⟩ := enqueue_recording t outcome effects
    rw [runChain_cons, chosen]
    simp only [queued, h, if_true]
    rfl
  | case4 report s w event left rest report' t chosen queued w' outcome ih
  | case5 report s w event left rest report' t chosen queued e w' outcome ih =>
    obtain ⟨effects', h⟩ := enqueue_recording t outcome effects
    rw [runChain_cons, chosen]
    simp only [queued, h, if_true]
    exact ih effects'
  | case6 report s w event rest t chosen inline =>
    rw [runChain_cons, chosen]
    simp only [inline, Bool.false_eq_true, if_false]
    rfl
  | case7 report s w event rest report' t chosen inline left ih =>
    rw [runChain_cons, chosen]
    simp only [inline, Bool.false_eq_true, if_false]
    exact ih effects

/-- **The stack and the recursion agree**: in the report or the error, in the subject, in the outside
world, and in what was asked of it on the way. -/
theorem runChain_eq_followAll (x : Dispatcher) (services : Services σ) (d : Definition)
    (roots : List Event) (report : Report) (s : Subject) (w : σ) :
    x.runChain services d (roots.map (·, x.maxChainDepth)) report s w =
        x.followAll services d 0 roots report s w ∧
      ∀ effects, x.runChain services.recording d (roots.map (·, x.maxChainDepth)) report s
          (w, effects) =
        x.followAll services.recording d 0 roots report s (w, effects) := by
  have hrun : ∀ {τ : Type} (services : Services τ) (w : τ),
      x.runChain services d (roots.map (·, x.maxChainDepth)) report s w =
        x.followAll services d 0 roots report s w := by
    intro τ services w
    have h : x.runChain services d (roots.map (·, x.maxChainDepth) ++ []) report s w =
        x.resume services d [] (x.followAll services d 0 roots report s w) :=
      runChain_append (runChain_cons_eq_resume x.maxChainDepth 0 (Nat.zero_add _)) ..
    rw [List.append_nil] at h
    rw [h]
    rcases x.followAll services d 0 roots report s w with ⟨_ | report', s', w'⟩
    · rfl
    · exact runChain_nil report' s' w'
  exact ⟨hrun services w, fun effects => hrun services.recording (w, effects)⟩

end Dispatcher

end WorkflowEngine
