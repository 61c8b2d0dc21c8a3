import WorkflowEngine.Proofs.Dispatch.Call

/-!
# Reports are accounts of what happened

The report of a call tells how its subject came to stand where it stands: the transitions it names
lead there from where the subject was found, each of them enabled when its turn came, and the events
it lists are those that the call began with and those of its transitions, each of them once.

* `Definition.replay`, `Definition.fireAll`: transitions taken by name, from a marking and by a subject;
* `Dispatcher.Admits`: whether a transition may be taken;
* `Definition.eventsBy`: the events of a transition, by its name;
* `Call.placed`, `Call.origin`, `Call.roots`: where a call begins, and the events it begins with;
* `Dispatcher.Account`: a report and the pending events tell all that happened;
* `Account.saw`, `Account.fire`, `account_of_step`: taking an event keeps the account;
* **`account_of_call`**: the report of every call is such an account, with nothing pending.
-/

namespace WorkflowEngine

/-! ## Transitions by name -/

namespace Definition

/-- The marking after the transition of a name fired. -/
def advanceBy (d : Definition) (m : Marking) (name : TransitionName) : Marking :=
  match d.transition? name with
  | some t => m.advance d.kind t
  | none => m

/-- **The marking after some transitions fired**, one after the other. -/
def replay (d : Definition) (m : Marking) (names : List TransitionName) : Marking :=
  names.foldl d.advanceBy m

/-- The subject after it fired the transition of a name. -/
def fireBy (d : Definition) (s : Subject) (name : TransitionName) : Subject :=
  match d.transition? name with
  | some t => fire s d t
  | none => s

/-- **The subject after it fired some transitions**, one after the other. -/
def fireAll (d : Definition) (s : Subject) (names : List TransitionName) : Subject :=
  names.foldl d.fireBy s

/-- The targets of the transition of a name. -/
def targetsBy (d : Definition) (name : TransitionName) : List PlaceName :=
  ((d.transition? name).map (·.targets)).getD []

/-- The events of the transition of a name: its targets were entered, and it was completed. -/
def eventsBy (d : Definition) (name : TransitionName) : List Event :=
  (d.targetsBy name).map (.entered d.name) ++ [.completed d.name name]

variable {d : Definition} {t : Transition}

theorem eventsBy_name (known : d.transition? t.name = some t) : d.eventsBy t.name = followUps d t := by
  simp only [eventsBy, targetsBy, known, Option.map_some, Option.getD_some, followUps]

theorem fireAll_concat (known : d.transition? t.name = some t) (s : Subject)
    (names : List TransitionName) :
    d.fireAll s (names ++ [t.name]) = fire (d.fireAll s names) d t := by
  simp only [fireAll, List.foldl_append, List.foldl_cons, List.foldl_nil, fireBy, known]

theorem marking_fireAll (d : Definition) (s : Subject) (names : List TransitionName) :
    (d.fireAll s names).marking d.name = d.replay (s.marking d.name) names := by
  induction names generalizing s with
  | nil => rfl
  | cons name names ih =>
    have hone : (d.fireBy s name).marking d.name = d.advanceBy (s.marking d.name) name := by
      unfold fireBy advanceBy
      cases d.transition? name with
      | none => rfl
      | some t => exact s.marking_mark_self _ _
    change (d.fireAll (d.fireBy s name) names).marking d.name = _
    rw [ih, hone]
    rfl

end Definition

/-- **A marking admits the transition of a name**: it lets the transition fire, and the guard holds
there for a subject with some attributes. -/
def Dispatcher.Admits (x : Dispatcher) (d : Definition) (attributes : Json) (m : Marking)
    (name : TransitionName) : Prop :=
  ∃ t, d.transition? name = some t ∧ m.permits d.kind t = true ∧
    ∀ guard, t.guard = some guard → x.guards guard attributes m = .ok true

theorem Dispatcher.admits_of_isEnabled {x : Dispatcher} {d : Definition} {t : Transition} {s : Subject}
    (known : d.transition? t.name = some t) (enabled : x.isEnabled s d t = true) :
    x.Admits d (x.reading.attributes s) (s.marking d.name) t.name := by
  obtain ⟨permitted, passed⟩ := Bool.and_eq_true_iff.1 enabled
  refine ⟨t, known, permitted, fun guard hguard => ?_⟩
  simp only [hguard] at passed
  cases holds : x.guards guard (x.reading.attributes s) (s.marking d.name) with
  | ok answer =>
    rw [holds] at passed
    exact congrArg _ passed
  | error cause =>
    rw [holds] at passed
    cases passed

/-! ## Kinds of events -/

namespace Event

/-- True of a place that was entered. -/
def isEntered : Event → Bool
  | .entered .. => true
  | .completed .. => false

/-- True of a transition that was completed. -/
def isCompleted : Event → Bool
  | .entered .. => false
  | .completed .. => true

end Event

namespace Definition

variable (d : Definition)

theorem filter_isCompleted_eventsBy (name : TransitionName) :
    (d.eventsBy name).filter Event.isCompleted = [.completed d.name name] := by
  simp [eventsBy, Event.isCompleted, List.filter_map, Function.comp_def]

theorem filter_isEntered_eventsBy (name : TransitionName) :
    (d.eventsBy name).filter Event.isEntered = (d.targetsBy name).map (.entered d.name) := by
  simp [eventsBy, Event.isEntered, List.filter_map, Function.comp_def]

end Definition

/-! ## Where a call begins -/

namespace Call

/-- **The subject that a call begins with**: a fresh one is put at the start. -/
def placed (d : Definition) (s : Subject) : Call → Subject
  | .start _ => s.mark d.name d.initial
  | _ => s

/-- **The marking that a call begins at.** -/
def origin (d : Definition) (s : Subject) : Call → Marking
  | .start _ => d.initial
  | _ => s.marking d.name

theorem marking_placed (c : Call) (d : Definition) (s : Subject) :
    (c.placed d s).marking d.name = c.origin d s := by
  cases c with
  | start => exact s.marking_mark_self _ _
  | entered | completed | apply | applyIfEnabled => rfl

/-- **The events that a call begins with**; one that takes a transition begins with none. -/
def roots (d : Definition) : Call → List Event
  | .start workflow => d.initial.places.map (.entered workflow)
  | .entered workflow place => [.entered workflow place]
  | .completed workflow transition => [.completed workflow transition]
  | .apply .. | .applyIfEnabled .. => []

end Call

namespace Dispatcher

/-! ## The account -/

/-- **A report and the pending events tell all that happened** since a subject was as it was. -/
structure Account (x : Dispatcher) (d : Definition) (origin : Subject) (roots : List Event)
    (report : Report) (pending : List Event) (s : Subject) : Prop where
  subject : s = d.fireAll origin report.applied
  admitted : ∀ before name, before ++ [name] <+: report.applied →
    x.Admits d (x.reading.attributes (d.fireAll origin before))
      (d.replay (origin.marking d.name) before) name
  events : (report.events ++ pending).Perm (roots ++ report.applied.flatMap d.eventsBy)

namespace Account

variable {x : Dispatcher} {d : Definition} {origin : Subject} {roots : List Event} {report : Report}
  {pending : List Event} {s : Subject}

theorem begun : Account x d origin roots {} roots origin where
  subject := rfl
  admitted _ _ h := absurd (List.prefix_nil.1 h) (by simp)
  events := by simp

theorem saw {event : Event} (h : Account x d origin roots report (event :: pending) s) :
    Account x d origin roots (report.saw event) pending s where
  subject := h.subject
  admitted := h.admitted
  events := by
    have hevents := h.events
    rwa [List.append_cons] at hevents

/-- **A transition that fires is accounted for**, and its events are pending. -/
theorem fire {t : Transition} (h : Account x d origin roots report pending s)
    (known : d.transition? t.name = some t) (enabled : x.isEnabled s d t = true) :
    Account x d origin roots (report.fired t.name) (followUps d t ++ pending) (fire s d t) where
  subject := by rw [h.subject, Report.fired, d.fireAll_concat known]
  admitted := by
    intro before name hprefix
    rcases List.prefix_concat_iff.1 hprefix with hlast | hearlier
    · obtain ⟨rfl, hname⟩ := List.append_inj' hlast rfl
      obtain rfl : name = t.name := by simpa using hname
      rw [← d.marking_fireAll, ← h.subject]
      exact admits_of_isEnabled known enabled
    · exact h.admitted before name hearlier
  events := by
    have hnew : (report.fired t.name).applied.flatMap d.eventsBy =
        report.applied.flatMap d.eventsBy ++ followUps d t := by
      simp only [Report.fired, List.flatMap_append, List.flatMap_singleton, d.eventsBy_name known]
    calc report.events ++ (followUps d t ++ pending)
        |>.Perm (report.events ++ (pending ++ followUps d t)) :=
          List.perm_append_comm.append_left _
      _ = report.events ++ pending ++ followUps d t := (List.append_assoc ..).symm
      _ |>.Perm (roots ++ report.applied.flatMap d.eventsBy ++ followUps d t) :=
          h.events.append_right _
      _ = roots ++ (report.fired t.name).applied.flatMap d.eventsBy := by
          rw [hnew, List.append_assoc]

end Account

theorem Account.marking {x : Dispatcher} {d : Definition} {c : Call} {roots : List Event}
    {report : Report} {pending : List Event} {s s' : Subject}
    (h : x.Account d (c.placed d s) roots report pending s') :
    s'.marking d.name = d.replay (c.origin d s) report.applied := by
  rw [h.subject, d.marking_fireAll, c.marking_placed]

variable {σ : Type} {x : Dispatcher} {services : Services σ} {d : Definition}

theorem account_of_opens {c : Call} {s s' : Subject} {events : List Event} {report : Report}
    (opens : x.Opens c s d events report s') :
    x.Account d (c.placed d s) (c.roots d) report events s' := by
  have hname := opens.registered.2
  cases opens with
  | start =>
    change d.name = _ at hname
    subst hname
    exact .begun
  | entered | completed => exact .begun
  | apply _ known enabled | applyIfEnabled _ known enabled =>
    obtain rfl := d.name_of_transition? known
    have begun : x.Account d s [] {} [] s := .begun
    have hfired := begun.fire known enabled
    rwa [List.append_nil] at hfired

theorem account_of_step {origin : Subject} {roots : List Event} {c c' : ChainState σ}
    (step : x.Step services d c c')
    (h : x.Account d origin roots c.report (c.stack.map Prod.fst) c.subject) :
    x.Account d origin roots c'.report (c'.stack.map Prod.fst) c'.subject := by
  cases step with
  | settled => exact h.saw
  | abandoned | sent => exact ⟨h.saw.subject, h.saw.admitted, h.saw.events⟩
  | fired chosen =>
    obtain ⟨_, known, enabled⟩ := firstEnabled?_eq_some chosen
    have hfired := h.saw.fire known enabled
    simpa only [List.map_append, List.map_map, Function.comp_def, List.map_id'] using hfired

/-- **Reports are faithful.** Where a call gives a report, the transitions it names lead from where the
call began to where the subject stands, one after the other, and each of them was let fire, with its
guard holding for what is read of the subject there, where the ones before it had led. The report lists
the events that the call began with, for each of its transitions one event that it was completed and one
for each target that was entered, and no others. -/
theorem account_of_call {c : Call} {s s' : Subject} {w w' : σ} {report : Report}
    (registered : x.registry.get? c.workflow = some d)
    (answer : x.call services c s w = (.ok (some report), s', w')) :
    s' = d.fireAll (c.placed d s) report.applied ∧
      s'.marking d.name = d.replay (c.origin d s) report.applied ∧
      (∀ before name, before ++ [name] <+: report.applied →
        x.Admits d (x.reading.attributes (d.fireAll (c.placed d s) before))
          (d.replay (c.origin d s) before) name) ∧
      (report.events.filter Event.isCompleted).Perm
        ((c.roots d).filter Event.isCompleted ++ report.applied.map (.completed d.name)) ∧
      (report.events.filter Event.isEntered).Perm
        ((c.roots d).filter Event.isEntered ++
          report.applied.flatMap fun name => (d.targetsBy name).map (.entered d.name)) := by
  obtain ⟨e, events, report₀, s₀, opens, run⟩ := exists_opens_of_report answer
  obtain rfl : d = e :=
    Option.some.inj (registered.symm.trans (definitionFor_eq_ok_iff.1 opens.definitionFor).1)
  have begun : x.Account d (c.placed d s) (c.roots d) report₀
      ((events.map (·, x.maxChainDepth)).map Prod.fst) s₀ := by
    simpa only [List.map_map, Function.comp_def, List.map_id'] using account_of_opens opens
  have account : x.Account d (c.placed d s) (c.roots d) report [] s' :=
    finished_of_invariant
      (P := fun c' : ChainState σ => x.Account d (c.placed d s) (c.roots d) c'.report
        (c'.stack.map Prod.fst) c'.subject)
      (fun _ _ step h => account_of_step step h)
      (c := ⟨events.map (·, x.maxChainDepth), report₀, s₀, w⟩) begun run
  have hevents := account.events
  rw [List.append_nil] at hevents
  refine ⟨account.subject, account.marking, c.marking_placed d s ▸ account.admitted, ?_, ?_⟩
  · have hfilter := hevents.filter Event.isCompleted
    simpa only [List.filter_append, List.filter_flatMap, d.filter_isCompleted_eventsBy,
      ← List.map_eq_flatMap] using hfilter
  · have hfilter := hevents.filter Event.isEntered
    simpa only [List.filter_append, List.filter_flatMap, d.filter_isEntered_eventsBy] using hfilter

/-! ## An example -/

theorem call_loadAsset (services : Services σ) (n : Nat) (w : σ) :
    ({ assetDispatcher with maxChainDepth := n + 1 } : Dispatcher).call services
        (.apply "AssetFlow" "load") (asset.mark "AssetFlow" assetFlow.initial) w =
      (.ok (some {
          applied := ["load", "publish"]
          events := [.entered "AssetFlow" "loaded", .entered "AssetFlow" "published",
            .completed "AssetFlow" "publish", .completed "AssetFlow" "load"] }),
        asset.mark "AssetFlow" (.ofPlaces ["published"]), w) := by
  let x : Dispatcher := { assetDispatcher with maxChainDepth := n + 1 }
  let s := fire (asset.mark "AssetFlow" assetFlow.initial) assetFlow loadAsset
  have opens : x.Opens (.apply "AssetFlow" "load") (asset.mark "AssetFlow" assetFlow.initial)
      assetFlow (followUps assetFlow loadAsset) { applied := ["load"] } s :=
    .apply (t := loadAsset) rfl rfl rfl
  let pending : List (Event × Nat) :=
    [(.entered "AssetFlow" "loaded", n + 1), (.completed "AssetFlow" "load", n + 1)]
  have fires : x.Step services assetFlow ⟨pending, { applied := ["load"] }, s, w⟩ _ :=
    .fired (t := publishAsset) rfl isAsync_assetDispatcher.2
  have run : x.follow services assetFlow (followUps assetFlow loadAsset) { applied := ["load"] } s w =
      _ :=
    calc x.runFrom services assetFlow _
      _ = x.runFrom services assetFlow _ := runFrom_step fires
      _ = x.runFrom services assetFlow _ := runFrom_step (.settled rfl)
      _ = x.runFrom services assetFlow _ := runFrom_step (.settled rfl)
      _ = x.runFrom services assetFlow _ := runFrom_step (.settled rfl)
      _ = _ := runFrom_stop .finished
  rw [call_of_opens opens, run]
  rfl

/-- The loading of an asset leads from the start over `loaded` to where it is published, which each
transition was admitted for. -/
theorem account_of_call_loadAsset :
    ((asset.mark "AssetFlow" (.ofPlaces ["published"])).marking "AssetFlow") =
        assetFlow.replay (.ofPlaces ["new"]) ["load", "publish"] ∧
      assetDispatcher.Admits assetFlow asset.attributes
        (assetFlow.replay (.ofPlaces ["new"]) ["load"]) "publish" := by
  obtain ⟨_, marking, admitted, _⟩ := account_of_call (d := assetFlow) (by decide)
    (call_loadAsset assetServices 31 assetWorld)
  exact ⟨marking, admitted ["load"] "publish" List.prefix_rfl⟩

end Dispatcher

end WorkflowEngine
