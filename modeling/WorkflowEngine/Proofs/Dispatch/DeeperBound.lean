import WorkflowEngine.Proofs.Dispatch.Account
import WorkflowEngine.Proofs.Dispatch.Recording

/-!
# The bound on chains only cuts

A dispatcher that lets more transitions fire in a row does the same as one that lets fewer fire, until
the smaller bound breaks a chain off. What was stored and sent by then is stored and sent under the
greater bound as well, and only more may follow.

* `Dispatcher.withBound`, `ChainState.raised`: another bound, and a chain in which more may fire;
* `TooDeep`: answers of calls that were broken off;
* `Step.raised`, `Stop.raised`: both chains take the same steps, up to where the smaller bound bites;
* `runFrom_raised`, `isPrefix_effects_raised`: what comes of whole chains;
* `CutOf`: one answer is another one or what is left of it when the chain breaks off earlier;
* **`call_cutOf_withBound`**: a call with a smaller bound is cut of the same call with a greater one.
-/

namespace WorkflowEngine

open Relation

/-- The chain with so many more transitions that may fire in a row from each event. -/
def ChainState.raised {σ : Type} (more : Nat) (c : ChainState σ) : ChainState σ :=
  { c with stack := c.stack.map fun entry => (entry.1, entry.2 + more) }

/-- **A call was broken off**, because too many transitions would have fired in a row. -/
def TooDeep {α : Type} (outcome : Except DispatchError α) : Prop :=
  ∃ name transition bound, outcome = .error (.chainTooDeep name transition bound)

theorem tooDeep_map {α β : Type} {outcome : Except DispatchError α} (f : α → β) :
    TooDeep (outcome.map f) ↔ TooDeep outcome := by
  cases outcome <;> simp [TooDeep, Except.map]

namespace Dispatcher

/-- The dispatcher with another bound. -/
def withBound (x : Dispatcher) (bound : Nat) : Dispatcher := { x with maxChainDepth := bound }

variable {σ : Type} {x : Dispatcher} {services : Services σ} {d : Definition} {bound : Nat}

/-! ## Chains under two bounds -/

/-- **A step is a step under every bound**, whatever may fire later on. -/
theorem Step.raised {c c' : ChainState σ} (h : x.Step services d c c') (bound more : Nat) :
    (x.withBound bound).Step services d (c.raised more) (c'.raised more) := by
  cases h with
  | settled idle => exact .settled idle
  | abandoned chosen queued outcome => exact .abandoned chosen queued outcome
  | sent chosen queued outcome => exact .sent chosen queued outcome
  | @fired event left rest report s w t chosen inline =>
    have hfired : (x.withBound bound).Step services d
        ⟨(event, left + more + 1) :: rest.map fun entry => (entry.1, entry.2 + more), report, s, w⟩
        _ := .fired chosen inline
    simpa only [ChainState.raised, List.map_cons, List.map_append, List.map_map, Function.comp_def,
      Nat.add_right_comm left 1 more] using hfired

/-- **Where a chain ends it ends under every bound**, unless it was broken off. -/
theorem Stop.raised {c : ChainState σ} {r : Except DispatchError Report × Subject × σ}
    (h : x.Stop services d c r) (bound more : Nat) :
    (x.withBound bound).Stop services d (c.raised more) r ∨ TooDeep r.1 ∧ r.2.2 = c.world := by
  cases h with
  | finished => exact .inl .finished
  | refused chosen queued outcome => exact .inl (.refused chosen queued outcome)
  | tooDeep => exact .inr ⟨⟨_, _, _, rfl⟩, rfl⟩

theorem runFrom_raised {c : ChainState σ} (h : ¬ TooDeep (x.runFrom services d c).1)
    (bound more : Nat) :
    (x.withBound bound).runFrom services d (c.raised more) = x.runFrom services d c := by
  obtain ⟨last, steps, stop⟩ := exists_stop x services d c
  have steps' : ReflTransGen ((x.withBound bound).Step services d) (c.raised more)
      (last.raised more) := steps.lift _ fun _ _ step => step.raised bound more
  rw [runFrom_steps steps']
  exact runFrom_stop ((stop.raised bound more).resolve_right fun broken => h broken.1)

theorem isPrefix_effects_raised (c : ChainState (σ × List Effect)) (bound more : Nat) :
    (x.runFrom services.recording d c).2.2.2 <+:
      ((x.withBound bound).runFrom services.recording d (c.raised more)).2.2.2 := by
  obtain ⟨last, steps, stop⟩ := exists_stop x services.recording d c
  have steps' : ReflTransGen ((x.withBound bound).Step services.recording d) (c.raised more)
      (last.raised more) := steps.lift _ fun _ _ step => step.raised bound more
  rw [runFrom_steps steps']
  rcases stop.raised bound more with stop' | ⟨_, hworld⟩
  · simp [runFrom_stop stop']
  · rw [hworld]
    exact isPrefix_effects_runFrom (last.raised more)

/-! ## Calls under two bounds -/

theorem Opens.withBound {c : Call} {s s' : Subject} {events : List Event} {report : Report}
    (h : x.Opens c s d events report s') (bound : Nat) :
    (x.withBound bound).Opens c s d events report s' := by
  cases h with
  | start found => exact .start found
  | entered found declared => exact .entered found declared
  | completed found known => exact .completed found known
  | apply found known enabled => exact .apply found known enabled
  | applyIfEnabled found known enabled => exact .applyIfEnabled found known enabled

theorem Refuses.withBound {c : Call} {s : Subject} {outcome : Except DispatchError (Option Report)}
    (h : x.Refuses c s outcome) (bound : Nat) : (x.withBound bound).Refuses c s outcome := by
  cases h with
  | undefined missing => exact .undefined missing
  | undeclared found undeclared => exact .undeclared found undeclared
  | unknown names found unknown => exact .unknown names found unknown
  | disabled found known disabled => exact .disabled found known disabled
  | skipped found known disabled => exact .skipped found known disabled

/-- **One answer is cut of another one**: it is the same, or it was broken off before all was done that
was done for the other one. -/
structure CutOf {α : Type} (a b : Except DispatchError α × Subject × σ × List Effect) : Prop where
  same : ¬ TooDeep a.1 → b = a
  broken : TooDeep b.1 → TooDeep a.1
  effects : a.2.2.2 <+: b.2.2.2

namespace CutOf

variable {α β : Type} {a b : Except DispatchError α × Subject × σ × List Effect}

theorem refl (a : Except DispatchError α × Subject × σ × List Effect) : CutOf a a :=
  ⟨fun _ => rfl, id, List.prefix_rfl⟩

theorem of_same (same : ¬ TooDeep a.1 → b = a) (effects : a.2.2.2 <+: b.2.2.2) : CutOf a b where
  same := same
  broken hb := by
    by_contra ha
    rw [same ha] at hb
    exact ha hb
  effects := effects

theorem map (h : CutOf a b) (f : α → β) :
    CutOf (a.map (·.map f) id) (b.map (·.map f) id) where
  same ha := by rw [h.same fun broken => ha ((tooDeep_map f).2 broken)]
  broken hb := (tooDeep_map f).2 (h.broken ((tooDeep_map f).1 hb))
  effects := h.effects

end CutOf

theorem follow_cutOf_withBound (le : x.maxChainDepth ≤ bound) (services : Services σ)
    (d : Definition) (events : List Event) (report : Report) (s : Subject) (p : σ × List Effect) :
    CutOf (x.follow services.recording d events report s p)
      ((x.withBound bound).follow services.recording d events report s p) := by
  let c : ChainState (σ × List Effect) := ⟨events.map (·, x.maxChainDepth), report, s, p⟩
  have hraised : c.raised (bound - x.maxChainDepth) = ⟨events.map (·, bound), report, s, p⟩ := by
    simp only [c, ChainState.raised, List.map_map, Function.comp_def, Nat.add_sub_cancel' le]
  have hcut : CutOf (x.runFrom services.recording d c)
      ((x.withBound bound).runFrom services.recording d (c.raised (bound - x.maxChainDepth))) :=
    .of_same (fun h => runFrom_raised h bound _) (isPrefix_effects_raised c bound _)
  rwa [hraised] at hcut

/-- **The bound only cuts.** A call with a smaller bound gives the same as one with a greater bound,
in its result, in the subject, in the world and in what was asked of the services, unless it is
broken off; and if the one with the greater bound is broken off, it is as well. In any case what was
asked of the services by then is the first of what is asked of them under the greater bound. All of
this holds of chains from any events. -/
theorem call_cutOf_withBound (x : Dispatcher) {bound : Nat} (le : x.maxChainDepth ≤ bound)
    (services : Services σ) (s : Subject) (w : σ) :
    (∀ c, CutOf (x.call services.recording c s (w, []))
      ((x.withBound bound).call services.recording c s (w, []))) ∧
    ∀ d events report, CutOf (x.follow services.recording d events report s (w, []))
      ((x.withBound bound).follow services.recording d events report s (w, [])) := by
  refine ⟨fun c => ?_, fun d events report => follow_cutOf_withBound le services d events report s _⟩
  rcases x.opens_or_refuses c s with ⟨d, events, report, s', opens⟩ | ⟨outcome, refuses⟩
  · rw [call_of_opens opens, call_of_opens (opens.withBound bound)]
    exact (follow_cutOf_withBound le services d events report s' _).map some
  · rw [call_of_refuses refuses, call_of_refuses (refuses.withBound bound)]
    exact .refl _

/-- An asset that is loaded needs one transition behind the loading, so a greater bound changes
nothing. -/
theorem call_cutOf_withBound_loadAsset :
    (assetDispatcher.withBound 1).maxChainDepth ≤ defaultChainDepth ∧
      ((assetDispatcher.withBound 1).withBound defaultChainDepth).call assetServices.recording
          (.apply "AssetFlow" "load") (asset.mark "AssetFlow" assetFlow.initial) (assetWorld, []) =
        (assetDispatcher.withBound 1).call assetServices.recording
          (.apply "AssetFlow" "load") (asset.mark "AssetFlow" assetFlow.initial) (assetWorld, []) := by
  have le : (assetDispatcher.withBound 1).maxChainDepth ≤ defaultChainDepth := by decide
  have cut := (call_cutOf_withBound (assetDispatcher.withBound 1) le assetServices
    (asset.mark "AssetFlow" assetFlow.initial) assetWorld).1 (.apply "AssetFlow" "load")
  have answer : (assetDispatcher.withBound 1).call assetServices.recording _ _ (assetWorld, []) = _ :=
    call_loadAsset assetServices.recording 0 (assetWorld, [])
  refine ⟨le, cut.same ?_⟩
  rw [answer]
  rintro ⟨_, _, _, broken⟩
  cases broken

end Dispatcher

end WorkflowEngine
