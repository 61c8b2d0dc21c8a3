import WorkflowEngine.Proofs.Dispatch.Handling
import WorkflowEngine.Proofs.Dispatch.Handover

/-!
# Messages that were sent

Services that write down what they are asked for tell which messages were sent. A store whose effects
are written down is as good as before, and what was sent stays sent.

* `Effect.message?`, `messagesOf`: the messages among the effects;
* `Ledger.recorded`, `Lawful.recorded`, `Steady.recorded`: the rows, whatever was written down;
* `handleMessage_recording`: a handling is answered alike whether its effects are written down or not;
* `messagesOf_sent`, `messagesOf_finish`: what steps add to the messages;
* **`isPrefix_effects_runFrom`**, **`isPrefix_messagesOf_runFrom`**: what was done and sent is not taken
  back.
-/

namespace WorkflowEngine

variable {σ : Type}

/-- The message that was sent. -/
def Effect.message? : Effect → Option TransitionMessage
  | .sent m _ (.ok _) => some m
  | _ => none

/-- **The messages that were sent**, in order. -/
def messagesOf (effects : List Effect) : List TransitionMessage := effects.filterMap Effect.message?

theorem messagesOf_append (effects effects' : List Effect) :
    messagesOf (effects ++ effects') = messagesOf effects ++ messagesOf effects' :=
  List.filterMap_append

/-! ## Stores whose effects are written down -/

namespace Services

variable {services : Services σ} {s : Subject} {m : TransitionMessage} {stamps : List Stamp}
  {entityType id : String} {p p' : σ × List Effect}

theorem find_recording {answer : Except StoreError (Option Subject)}
    (h : services.recording.find entityType id p = (answer, p')) :
    services.find entityType id p.1 = (answer, p'.1) ∧ p'.2 = p.2 := by
  cases h
  exact ⟨rfl, rfl⟩

theorem persist_recording {answer : Except StoreError Unit}
    (h : services.recording.persist s p = (answer, p')) :
    services.persist s p.1 = (answer, p'.1) ∧ p'.2 = p.2 ++ [.persisted s answer] := by
  cases h
  exact ⟨rfl, rfl⟩

theorem send_recording {answer : Except BusError Envelope}
    (h : services.recording.send m stamps p = (answer, p')) :
    services.send m stamps p.1 = (answer, p'.1) ∧ p'.2 = p.2 ++ [.sent m stamps answer] := by
  cases h
  exact ⟨rfl, rfl⟩

theorem exists_persist_recording {answer : Except StoreError Unit} {w : σ}
    (h : services.persist s p.1 = (answer, w)) :
    ∃ p', services.recording.persist s p = (answer, p') := by
  refine ⟨(w, p.2 ++ [.persisted s answer]), ?_⟩
  simp only [recording, h]

theorem exists_find_recording {answer : Except StoreError (Option Subject)} {w : σ}
    (h : services.find entityType id p.1 = (answer, w)) :
    ∃ p', services.recording.find entityType id p = (answer, p') := by
  refine ⟨(w, p.2), ?_⟩
  simp only [recording, h]

theorem exists_send_recording {answer : Except BusError Envelope} {w : σ}
    (h : services.send m stamps p.1 = (answer, w)) :
    ∃ p', services.recording.send m stamps p = (answer, p') := by
  refine ⟨(w, p.2 ++ [.sent m stamps answer]), ?_⟩
  simp only [recording, h]

end Services

namespace Ledger

variable {l : Ledger σ} {services : Services σ} {r : Registry}

/-- **The rows of a store, whatever was written down.** -/
def recorded (l : Ledger σ) : Ledger (σ × List Effect) where
  sound p := l.sound p.1
  row? p := l.row? p.1
  identity? := l.identity?

theorem Lawful.recorded (h : l.Lawful services r) : l.recorded.Lawful services.recording r where
  identity? := h.identity?
  keyed := h.keyed
  find := by
    intro p entityType id answer p' sound found
    obtain ⟨⟨hsound, hrow⟩, hread⟩ := h.find sound (Services.find_recording found).1
    exact ⟨⟨hsound, hrow⟩, hread⟩
  persist_ok := by
    intro s p p' sound stored
    obtain ⟨hsound, hrow⟩ := h.persist_ok sound (Services.persist_recording stored).1
    exact ⟨hsound, hrow⟩
  persist_error := by
    intro s p e p' sound unstored
    obtain ⟨hsound, hrow⟩ := h.persist_error sound (Services.persist_recording unstored).1
    exact ⟨hsound, hrow⟩
  send := by
    intro m stamps p answer p' sound sent
    obtain ⟨hsound, hrow⟩ := h.send sound (Services.send_recording sent).1
    exact ⟨hsound, hrow⟩

theorem Steady.recorded (h : l.Steady services) : l.recorded.Steady services.recording where
  find := by
    intro p p' entityType id row p₁ sound sound' found
    obtain ⟨row', w', found'⟩ := h.find sound sound' (Services.find_recording found).1
    exact ⟨row', Services.exists_find_recording found'⟩
  persist := by
    intro p p' s s' p₁ sound sound' same stored
    obtain ⟨w', stored'⟩ := h.persist sound sound' same (Services.persist_recording stored).1
    exact Services.exists_persist_recording stored'

end Ledger

namespace Dispatcher

variable {x : Dispatcher} {services : Services σ} {d : Definition} {m : TransitionMessage}

theorem handleFound_recording (s : Subject) (w : σ) (effects : List Effect) :
    (x.handleFound services.recording m s (w, effects)).map id Prod.fst =
      x.handleFound services m s w := by
  have hcall : (x.applyIfEnabled services.recording m.workflow m.transition s (w, effects)).map id
      (Prod.map id Prod.fst) = x.applyIfEnabled services m.workflow m.transition s w :=
    x.call_recording (.applyIfEnabled m.workflow m.transition) s w effects
  rw [handleFound, handleFound, ← hcall]
  rcases x.applyIfEnabled services.recording m.workflow m.transition s (w, effects) with
    ⟨_ | _ | report, s', p⟩
  · rfl
  · rfl
  · rcases stored : services.recording.persist s' p with ⟨_ | _, p'⟩ <;>
      simp only [Prod.map, id, stored, (Services.persist_recording stored).1]

/-- **A handling is answered alike whether its effects are written down or not.** -/
theorem handleMessage_recording (m : TransitionMessage) (w : σ) (effects : List Effect) :
    (x.handleMessage services.recording m (w, effects)).map id Prod.fst =
      x.handleMessage services m w := by
  unfold handleMessage
  cases workflowName m.workflow with
  | error => rfl
  | ok =>
    cases transitionName m.transition with
    | error => rfl
    | ok =>
      rcases found : services.recording.find m.entityType m.entityId (w, effects) with
        ⟨e | _ | s, p⟩ <;> obtain ⟨hfound, hnone⟩ := Services.find_recording found
      · simp only [hfound]
        rfl
      · simp only [hfound]
        rfl
      · simp only [hfound]
        exact handleFound_recording s p.1 p.2

theorem exists_handleMessage_recording {w w' : σ} {answer : Except HandlingError Unit}
    (h : x.handleMessage services m w = (answer, w')) (effects : List Effect) :
    ∃ effects', x.handleMessage services.recording m (w, effects) = (answer, w', effects') := by
  obtain ⟨hanswer, hworld⟩ := Prod.mk.inj ((handleMessage_recording m w effects).trans h)
  exact ⟨_, Prod.ext hanswer (Prod.ext hworld rfl)⟩

/-! ## What was done stays written down -/

theorem messagesOf_sent {s : Subject} {stamps : List Stamp} {p p₁ p₂ : σ × List Effect} {e : Envelope}
    (stored : services.recording.persist s p = (.ok (), p₁))
    (sent : services.recording.send m stamps p₁ = (.ok e, p₂)) :
    messagesOf p₂.2 = messagesOf p.2 ++ [m] := by
  rw [(Services.send_recording sent).2, (Services.persist_recording stored).2, List.append_assoc,
    messagesOf_append]
  rfl

theorem messagesOf_unsent {s : Subject} {stamps : List Stamp} {p p₁ p₂ : σ × List Effect}
    {cause : BusError} (stored : services.recording.persist s p = (.ok (), p₁))
    (unsent : services.recording.send m stamps p₁ = (.error cause, p₂)) :
    messagesOf p₂.2 = messagesOf p.2 := by
  rw [(Services.send_recording unsent).2, (Services.persist_recording stored).2, List.append_assoc,
    messagesOf_append]
  exact List.append_nil _

theorem Enqueued.isPrefix_effects {t : Transition} {s : Subject} {p p' : σ × List Effect}
    {answer : Except DispatchError (Option Envelope)}
    (h : x.Enqueued services.recording d t s p answer p') : p.2 <+: p'.2 := by
  cases h with
  | nobody => exact List.prefix_rfl
  | unstored _ unstored =>
    rw [(Services.persist_recording unstored).2]
    exact List.prefix_append _ _
  | unsent _ stored sent | sent _ stored sent =>
    rw [(Services.send_recording sent).2, (Services.persist_recording stored).2, List.append_assoc]
    exact List.prefix_append _ _

theorem Step.isPrefix_effects {c c' : ChainState (σ × List Effect)}
    (h : x.Step services.recording d c c') : c.world.2 <+: c'.world.2 := by
  cases h with
  | settled | fired => exact List.prefix_rfl
  | abandoned _ _ outcome | sent _ _ outcome => exact (enqueued_of_enqueue outcome).isPrefix_effects

theorem Stop.isPrefix_effects {c : ChainState (σ × List Effect)}
    {r : Except DispatchError Report × Subject × σ × List Effect}
    (h : x.Stop services.recording d c r) : c.world.2 <+: r.2.2.2 := by
  cases h with
  | finished | tooDeep => exact List.prefix_rfl
  | refused _ _ outcome => exact (enqueued_of_enqueue outcome).isPrefix_effects

/-- **What a chain was seen to do stays written down.** -/
theorem isPrefix_effects_runFrom (c : ChainState (σ × List Effect)) :
    c.world.2 <+: (x.runFrom services.recording d c).2.2.2 := by
  have keep : ∀ c₁ c₂ : ChainState (σ × List Effect), x.Step services.recording d c₁ c₂ →
      c.world.2 <+: c₁.world.2 → c.world.2 <+: c₂.world.2 :=
    fun _ _ step h => h.trans step.isPrefix_effects
  obtain ⟨last, hlast, hstop⟩ := exists_stop_of_invariant keep (c := c) List.prefix_rfl
  exact hlast.trans hstop.isPrefix_effects

/-- **What a chain had sent stays sent.** -/
theorem isPrefix_messagesOf_runFrom (c : ChainState (σ × List Effect)) :
    messagesOf c.world.2 <+: messagesOf (x.runFrom services.recording d c).2.2.2 :=
  (isPrefix_effects_runFrom c).filterMap Effect.message?

theorem messagesOf_finish (r : Except DispatchError Report × Subject × σ × List Effect) :
    messagesOf (finish services.recording m r).2.2 = messagesOf r.2.2.2 := by
  rcases r with ⟨e | report, s, p⟩
  · rfl
  · rw [finish]
    rcases stored : services.recording.persist s p with ⟨e | _, p'⟩ <;>
      simp only [(Services.persist_recording stored).2, messagesOf_append] <;>
      exact List.append_nil _

end Dispatcher

end WorkflowEngine
