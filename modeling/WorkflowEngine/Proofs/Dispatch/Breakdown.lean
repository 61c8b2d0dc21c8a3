import WorkflowEngine.Proofs.Dispatch.Account
import WorkflowEngine.Proofs.Dispatch.Recording

/-!
# Calls that fail

A call fails in one of two ways. It is turned down before anything happened, or its chain breaks off
on the way. Then the subject stands where the transitions that fired so far have led it, and no other
workflow is touched.

* `DispatchError.isRefusal`, `turnedDown`: the answers of calls that are turned down;
* `Dispatcher.Obstacle`: what a chain breaks off at;
* `Dispatcher.UnderWay`: the invariant of a chain; `underWay_of_opens`, `underWay_of_step`;
* `Stop.obstacle`: a chain that breaks off does so at an obstacle;
* **`call_turnedDown_or_breaksOff`**: what every call that fails leaves behind.
-/

namespace WorkflowEngine

/-- **True of the errors that turn a call down**; the others break a chain off. -/
def DispatchError.isRefusal : DispatchError → Bool
  | .unknownWorkflow _ | .unsupportedEntity .. | .unknownPlace .. | .unknownTransition ..
  | .notEnabled .. => true
  | .chainTooDeep .. | .store _ | .bus _ => false

/-- True of the answers without a chain: a refusal, or no report. -/
def turnedDown : Except DispatchError (Option Report) → Bool
  | .error e => e.isRefusal
  | .ok report => report.isNone

namespace Dispatcher

variable {σ : Type} {x : Dispatcher} {services : Services σ} {d : Definition} {call : Call}
  {s s' : Subject} {events : List Event} {report : Report}

theorem isRefusal_of_definitionFor {workflow : WorkflowName} {e : DispatchError}
    (h : x.definitionFor s workflow = .error e) : e.isRefusal = true := by
  unfold definitionFor at h
  cases found : x.registry.get? workflow with
  | none =>
    rw [found] at h
    cases h
    rfl
  | some d =>
    simp only [found] at h
    split at h <;> cases h
    rfl

theorem Refuses.turnedDown {outcome : Except DispatchError (Option Report)}
    (h : x.Refuses call s outcome) : turnedDown outcome = true := by
  cases h with
  | undefined missing => exact isRefusal_of_definitionFor missing
  | undeclared | unknown | disabled | skipped => rfl

/-! ## Where a chain breaks off -/

/-- **What a chain breaks off at**, by its error: a transition that is enabled but would be one too many
in a row, a subject that is not stored, or a message that is not sent. -/
inductive Obstacle (x : Dispatcher) (d : Definition) (s : Subject) (fired : List TransitionName)
    (effects : List Effect) : DispatchError → Prop
  | tooDeep {t} (known : d.transition? t.name = some t) (enabled : x.isEnabled s d t = true)
      (inline : x.locator.isAsync d.name t.name = false) (spent : x.maxChainDepth ≤ fired.length) :
      Obstacle x d s fired effects (.chainTooDeep d.name t.name x.maxChainDepth)
  | unstored {cause} (last : [.persisted s (.error cause)] <:+ effects) :
      Obstacle x d s fired effects (.store cause)
  | unsent {m stamps cause} (last : [.persisted s (.ok ()), .sent m stamps (.error cause)] <:+ effects) :
      Obstacle x d s fired effects (.bus cause)

/-- **A chain under way** accounts for where its subject stands, has left the other workflows alone,
and has fired as many transitions as any pending event has used up. -/
structure UnderWay (x : Dispatcher) (d : Definition) (call : Call) (s : Subject)
    (c : ChainState σ) : Prop where
  account : x.Account d (call.placed d s) (call.roots d) c.report (c.stack.map Prod.fst) c.subject
  aside : ∀ name, name ≠ d.name → c.subject.marking name = s.marking name
  spent : ∀ entry ∈ c.stack, x.maxChainDepth ≤ entry.2 + c.report.applied.length

theorem underWay_of_opens (opens : x.Opens call s d events report s') (w : σ) :
    x.UnderWay d call s ⟨events.map (·, x.maxChainDepth), report, s', w⟩ where
  account := by
    simpa only [List.map_map, Function.comp_def, List.map_id'] using account_of_opens opens
  aside name hn := opens.marking_eq (opens.registered.2 ▸ hn)
  spent entry hentry := by
    obtain ⟨_, _, rfl⟩ := List.mem_map.1 hentry
    exact Nat.le_add_right ..

theorem underWay_of_step {c c' : ChainState σ} (step : x.Step services d c c')
    (h : x.UnderWay d call s c) : x.UnderWay d call s c' where
  account := account_of_step step h.account
  aside name hn := by
    rcases step.moves with hsame | ⟨t, _, hfire⟩
    · rw [hsame]
      exact h.aside name hn
    · rw [hfire, marking_fire_of_ne hn]
      exact h.aside name hn
  spent := by
    cases step with
    | settled | abandoned | sent =>
      exact fun entry hentry => h.spent entry (List.mem_cons_of_mem _ hentry)
    | @fired event left rest report s w t chosen =>
      have hevent : x.maxChainDepth ≤ left + 1 + report.applied.length :=
        h.spent _ List.mem_cons_self
      have happlied : ((report.saw event).fired t.name).applied.length =
          report.applied.length + 1 := by simp [Report.saw, Report.fired]
      -- the new events may fire one transition less, and one more has fired
      intro entry hentry
      show x.maxChainDepth ≤ entry.2 + ((report.saw event).fired t.name).applied.length
      rcases List.mem_append.1 hentry with hnew | hold
      · obtain ⟨_, _, rfl⟩ := List.mem_map.1 hnew
        omega
      · have hrest : x.maxChainDepth ≤ entry.2 + report.applied.length :=
          h.spent entry (List.mem_cons_of_mem _ hold)
        omega

theorem Stop.not_turnedDown {c : ChainState σ} {r : Except DispatchError Report × Subject × σ}
    (stop : x.Stop services d c r) : WorkflowEngine.turnedDown (r.1.map some) = false := by
  cases stop with
  | finished | tooDeep => rfl
  | refused _ _ outcome => cases enqueued_of_enqueue outcome <;> rfl

/-- **A chain that breaks off does so at an obstacle**, with nothing asked of the services after it. -/
theorem Stop.obstacle {c : ChainState (σ × List Effect)} {e : DispatchError} {p : σ × List Effect}
    (stop : x.Stop services.recording d c (.error e, s', p)) (h : x.UnderWay d call s c) :
    x.Obstacle d s' c.report.applied p.2 e := by
  cases stop with
  | tooDeep chosen inline =>
    obtain ⟨_, known, enabled⟩ := firstEnabled?_eq_some chosen
    have hspent := h.spent _ List.mem_cons_self
    exact .tooDeep known enabled inline (by simpa using hspent)
  | refused _ _ outcome =>
    cases enqueued_of_enqueue outcome with
    | unstored _ unstored =>
      refine .unstored ?_
      rw [(Services.persist_recording unstored).2]
      exact List.suffix_append _ _
    | unsent _ stored unsent =>
      have heffects := (Services.send_recording unsent).2
      rw [(Services.persist_recording stored).2, List.append_assoc] at heffects
      exact .unsent (heffects ▸ List.suffix_append _ _)

/-- **Calls that are turned down change nothing, and chains break off at a legal point.** A call that is
turned down leaves the subject as it was and asks nothing of the services. If a call fails otherwise,
the transitions that fired lead from where it began to where the subject stands, each of them let
fire where the ones before it had led; the other workflows are as before; and there is an obstacle
to going on. -/
theorem call_turnedDown_or_breaksOff (x : Dispatcher) (services : Services σ) (c : Call)
    (s : Subject) (w : σ) :
    ∃ (outcome : Except DispatchError (Option Report)) (s' : Subject) (w' : σ)
        (effects : List Effect),
      x.call services c s w = (outcome, s', w') ∧
      x.call services.recording c s (w, []) = (outcome, s', w', effects) ∧
      (turnedDown outcome = true → s' = s ∧ w' = w ∧ effects = []) ∧
      ∀ e, outcome = .error e → e.isRefusal = false →
        ∃ d fired, x.registry.get? c.workflow = some d ∧ s' = d.fireAll (c.placed d s) fired ∧
          s'.marking c.workflow = d.replay (c.origin d s) fired ∧
          (∀ before name, before ++ [name] <+: fired →
            x.Admits d (x.reading.attributes (d.fireAll (c.placed d s) before))
              (d.replay (c.origin d s) before) name) ∧
          (∀ name, name ≠ c.workflow → s'.marking name = s.marking name) ∧
          x.Obstacle d s' fired effects e := by
  have hplain : (x.call services.recording c s (w, [])).map id (Prod.map id Prod.fst) =
      x.call services c s w := x.call_recording c s w []
  rcases x.opens_or_refuses c s with ⟨d, events, report, s₁, opens⟩ | ⟨outcome, refuses⟩
  · obtain ⟨last, underWay, stop⟩ := exists_stop_of_invariant
      (fun _ _ step => underWay_of_step step) (underWay_of_opens opens (w, []))
    rcases hrun : x.runFrom services.recording d
      ⟨events.map (·, x.maxChainDepth), report, s₁, (w, [])⟩ with ⟨outcome, s', w', effects⟩
    rw [hrun] at stop
    have hcall : x.call services.recording c s (w, []) = (outcome.map some, s', w', effects) := by
      rw [call_of_opens opens]
      exact congrArg (Prod.map (Except.map some) id) hrun
    rw [hcall] at hplain
    refine ⟨outcome.map some, s', w', effects, hplain.symm, hcall, ?_, ?_⟩
    · intro down
      rw [stop.not_turnedDown] at down
      cases down
    · intro e failed _
      obtain rfl : outcome = .error e := by
        cases outcome <;> cases failed
        rfl
      have registered := (definitionFor_eq_ok_iff.1 opens.definitionFor).1
      have hname : d.name = c.workflow := opens.registered.2
      have hsubject : s' = last.subject := stop.subject_eq
      have hmarking := underWay.account.marking
      rw [hname, ← hsubject] at hmarking
      refine ⟨d, last.report.applied, registered, hsubject.trans underWay.account.subject, hmarking,
        c.marking_placed d s ▸ underWay.account.admitted, ?_, stop.obstacle underWay⟩
      intro name hn
      rw [hsubject]
      exact underWay.aside name (hname ▸ hn)
  · refine ⟨outcome, s, w, [], call_of_refuses refuses w, call_of_refuses refuses _,
      fun _ => ⟨rfl, rfl, rfl⟩, ?_⟩
    rintro e rfl hbreaks
    have hdown : e.isRefusal = true := refuses.turnedDown
    rw [hbreaks] at hdown
    cases hdown

/-- Where nothing may fire in a row, the loading of an asset breaks off before it is published. What
was loaded stays loaded. -/
theorem call_turnedDown_or_breaksOff_loadAsset :
    let x : Dispatcher := { assetDispatcher with maxChainDepth := 0 }
    ∃ s' : Subject, s'.marking "AssetFlow" = .ofPlaces ["loaded"] ∧
      x.call assetServices (.apply "AssetFlow" "load") (asset.mark "AssetFlow" assetFlow.initial)
        assetWorld = (.error (.chainTooDeep "AssetFlow" "publish" 0), s', assetWorld) ∧
      ∃ fired, assetFlow.replay (.ofPlaces ["new"]) fired = .ofPlaces ["loaded"] := by
  intro x
  let s := fire (asset.mark "AssetFlow" assetFlow.initial) assetFlow loadAsset
  have opens : x.Opens (.apply "AssetFlow" "load") (asset.mark "AssetFlow" assetFlow.initial)
      assetFlow (followUps assetFlow loadAsset) { applied := ["load"] } s :=
    .apply (t := loadAsset) rfl rfl rfl
  let pending : List (Event × Nat) :=
    [(.entered "AssetFlow" "loaded", 0), (.completed "AssetFlow" "load", 0)]
  have stop : x.Stop assetServices assetFlow ⟨pending, { applied := ["load"] }, s, assetWorld⟩ _ :=
    .tooDeep (t := publishAsset) rfl isAsync_assetDispatcher.2
  have run : x.follow assetServices assetFlow (followUps assetFlow loadAsset)
      { applied := ["load"] } s assetWorld =
        (.error (.chainTooDeep "AssetFlow" "publish" 0), s, assetWorld) := runFrom_stop stop
  have answer : x.call assetServices _ _ assetWorld = _ := call_of_opens opens assetWorld
  rw [run] at answer
  obtain ⟨outcome, s', w', effects, hcall, _, _, broken⟩ := call_turnedDown_or_breaksOff x
    assetServices (.apply "AssetFlow" "load") (asset.mark "AssetFlow" assetFlow.initial) assetWorld
  rw [answer] at hcall
  cases hcall
  obtain ⟨d, fired, registered, _, hmarking, _⟩ := broken _ rfl rfl
  cases registered
  exact ⟨s, rfl, answer, fired, hmarking.symm⟩

end Dispatcher

end WorkflowEngine
