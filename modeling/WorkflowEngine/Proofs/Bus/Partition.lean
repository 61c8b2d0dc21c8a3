import Mathlib.Data.List.Perm.Basic
import WorkflowEngine.Proofs.Bus.Turns

/-!
# Consumers that share a queue

Workers with different filters take turns at one queue. What a worker leaves in flight is put back for
the next one, so every envelope comes to the first worker that takes it, and to no other.

* `Worker.recording`: a worker whose handler writes down what it is given;
* `Worker.takeTurns?`: workers one after the other, with redelivery in between;
* `runOnce_accepted`, `runOnce_declined`, **`runFrom?_recording_ready`**: one envelope, and one turn;
* **`takeTurns?_partition`**: all turns together.
-/

namespace WorkflowEngine

variable {σ : Type}

/-- The place of a queue in a state gives back what was put there. -/
def QueueAt.Lawful (place : QueueAt σ) : Prop := ∀ q s, place.get (place.put q s) = q

/-- **A handler that always succeeds**, and leaves a queue alone. -/
def Handler.Quiet (h : Handler σ) (place : QueueAt σ) : Prop :=
  ∀ e s, (h.handle e s).1 = .ok () ∧ place.get (h.handle e s).2 = place.get s

theorem ContextFilter.accepts_stamp_received (f : ContextFilter) (e : Envelope) (transport : String)
    (now : Instant) : f.accepts (e.stamp (.received transport now)) = f.accepts e := by
  have hlast : (e.stamp (.received transport now)).lastContext? = e.lastContext? := by
    simp [Envelope.lastContext?, Envelope.contexts, Envelope.stamp, Stamp.context?]
  rw [accepts, accepts, hlast]

theorem Queue.without_of_notMem {id : EnvelopeId} {es : List Envelope} (h : id ∉ es.map (·.id)) :
    without id es = es := by
  rw [without, List.filter_eq_self]
  intro e he
  have hne : e.id ≠ id := fun heq => h (heq ▸ List.mem_map_of_mem he)
  simpa using hne

namespace Worker

/-! ## Writing down what is handled -/

/-- **The worker that writes down** what its handler is given, under a number of its own. -/
def recording (w : Worker σ) (who : Nat) : Worker (σ × List (Nat × Envelope)) where
  queue := w.queue.within Prod.fst fun s p => (s, p.2)
  handler :=
    { name := w.handler.name
      handle := fun e p =>
        let (outcome, s) := w.handler.handle e p.1
        (outcome, s, p.2 ++ [(who, e)]) }
  filter := w.filter
  now := w.now

theorem settle_recording (w : Worker σ) (who : Nat) (settled : Except BusError Queue)
    (outcome : Except BusError WorkerOutcome) (p : σ × List (Nat × Envelope)) :
    ((w.recording who).settle settled outcome p).map id Prod.fst = w.settle settled outcome p.1 := by
  cases settled <;> rfl

theorem process_recording (w : Worker σ) (who : Nat) (e : Envelope)
    (p : σ × List (Nat × Envelope)) :
    ((w.recording who).process e p).map id Prod.fst = w.process e p.1 := by
  have hhandle : (w.recording who).handler.handle e p =
      ((w.handler.handle e p.1).1, (w.handler.handle e p.1).2, p.2 ++ [(who, e)]) := rfl
  rw [process, process, hhandle]
  rcases w.handler.handle e p.1 with ⟨_ | _, s⟩
  · exact settle_recording w who _ _ (s, p.2 ++ [(who, e)])
  · exact settle_recording w who _ _ (s, p.2 ++ [(who, e)])

theorem runOnce_recording (w : Worker σ) (who : Nat) (p : σ × List (Nat × Envelope)) :
    ((w.recording who).runOnce p).map id Prod.fst = w.runOnce p.1 := by
  have hget : (w.recording who).queue.get p = w.queue.get p.1 := rfl
  rw [runOnce, runOnce, hget]
  rcases (w.queue.get p.1).receive with ⟨_ | e, q⟩
  · rfl
  · have hfilter : (w.recording who).filter = w.filter := rfl
    have hnow : (w.recording who).now = w.now := rfl
    simp only [hfilter, hnow]
    cases w.filter.accepts (e.stamp (.received q.name w.now)) with
    | false => rfl
    | true => exact process_recording w who _ _

theorem runFrom?_recording (w : Worker σ) (who rounds : Nat) (stats : WorkerStats)
    (p : σ × List (Nat × Envelope)) :
    ((w.recording who).runFrom? rounds stats p).map (Prod.map id Prod.fst) =
      w.runFrom? rounds stats p.1 := by
  induction rounds generalizing stats p with
  | zero => rfl
  | succ rounds ih =>
    rw [runFrom?, runFrom?, ← runOnce_recording w who p]
    rcases (w.recording who).runOnce p with ⟨_ | _ | _ | _, p'⟩
    · rfl
    · rfl
    · exact ih _ p'
    · exact ih _ p'

/-! ## One turn -/

section Turn

variable {w : Worker σ} (lawful : w.queue.Lawful) (quiet : w.handler.Quiet w.queue)

include lawful quiet in
/-- **An envelope that the filter takes** is handled, and acknowledged. -/
theorem runOnce_accepted (who : Nat) {s : σ} {log : List (Nat × Envelope)} {e : Envelope}
    {rest : List Envelope} (ready : (w.queue.get s).ready = e :: rest)
    (fresh : e.id ∉ (w.queue.get s).inFlight.map (·.id)) (accepts : w.filter.accepts e = true) :
    ∃ e' s', (w.recording who).runOnce (s, log) = (.ok (.handled e'), s',
        log ++ [(who, e.stamp (.received (w.queue.get s).name w.now))]) ∧
      w.queue.get s' = { w.queue.get s with
        ready := rest
        acked := (w.queue.get s).acked ++ [e] } := by
  obtain ⟨q, hq⟩ : ∃ q, w.queue.get s = q := ⟨_, rfl⟩
  rw [hq] at ready fresh ⊢
  let copy := e.stamp (.received q.name w.now)
  obtain ⟨s₁, hs₁⟩ : ∃ s₁, (w.handler.handle copy (w.queue.put (q.taken e rest) s)).2 = s₁ :=
    ⟨_, rfl⟩
  obtain ⟨hok, hget⟩ := quiet copy (w.queue.put (q.taken e rest) s)
  rw [lawful, hs₁] at hget
  have hhandle : (w.recording who).handler.handle copy
      ((w.recording who).queue.put (q.taken e rest) (s, log)) = (.ok (), s₁, log ++ [(who, copy)]) :=
    Prod.ext hok (Prod.ext hs₁ rfl)
  have htakes : (w.recording who).filter.accepts copy = true :=
    (w.filter.accepts_stamp_received e q.name w.now).trans accepts
  subst hq
  obtain ⟨e', hrun, _⟩ := @runOnce_handled _ (w.recording who) (s, log) _ _ _ _ htakes ready hhandle
    (congrArg Queue.inFlight hget)
  refine ⟨e', _, hrun, (lawful _ _).trans ?_⟩
  change (w.queue.get s₁).settled e = _
  rw [hget, Queue.settled, Queue.taken, Queue.without_append_self, Queue.without_of_notMem fresh]

include lawful in
theorem runOnce_declined (who : Nat) {s : σ} {log : List (Nat × Envelope)} {e : Envelope}
    {rest : List Envelope} (ready : (w.queue.get s).ready = e :: rest)
    (fresh : e.id ∉ (w.queue.get s).inFlight.map (·.id)) (declines : w.filter.accepts e = false) :
    ∃ e' s', (w.recording who).runOnce (s, log) = (.ok (.skipped e'), s', log) ∧
      w.queue.get s' = { w.queue.get s with
        ready := rest
        inFlight := (w.queue.get s).inFlight ++ [e] } := by
  have hready : ((w.recording who).queue.get (s, log)).ready = e :: rest := ready
  have hleaves : (w.recording who).filter.accepts
      (e.stamp (.received (w.queue.get s).name w.now)) = false :=
    (w.filter.accepts_stamp_received e _ _).trans declines
  refine ⟨e.stamp (.received (w.queue.get s).name w.now),
    w.queue.put ((w.queue.get s).taken e rest) s, ?_, (lawful _ s).trans ?_⟩
  · rw [runOnce, Queue.receive_cons hready]
    exact if_neg (by rw [Bool.not_eq_true]; exact hleaves)
  · rw [Queue.taken, Queue.without_of_notMem fresh]

include lawful quiet in
/-- **A turn**: what is ready is handled if the filter takes it, and left in flight if not. -/
theorem runFrom?_recording_ready (who : Nat) (es : List Envelope) :
    ∀ {rounds : Nat} {stats : WorkerStats} {s : σ} {log : List (Nat × Envelope)}, es.length < rounds →
      (w.queue.get s).ready = es → (((w.queue.get s).inFlight ++ es).map (·.id)).Nodup →
      ∃ s', (w.recording who).runFrom? rounds stats (s, log) =
          some (.ok ⟨stats.handled + es.countP w.filter.accepts,
              stats.skipped + es.countP (!w.filter.accepts ·)⟩, s',
            log ++ (es.filter w.filter.accepts).map
              fun e => (who, e.stamp (.received (w.queue.get s).name w.now))) ∧
        w.queue.get s' = { w.queue.get s with
          ready := []
          inFlight := (w.queue.get s).inFlight ++ es.filter (!w.filter.accepts ·)
          acked := (w.queue.get s).acked ++ es.filter w.filter.accepts } := by
  induction es with
  | nil =>
    intro rounds stats s log enough ready _
    obtain ⟨rounds, rfl⟩ := Nat.exists_eq_succ_of_ne_zero (Nat.ne_of_gt enough)
    have hidle : (w.recording who).runOnce (s, log) = (.ok .idle, s, log) := runOnce_idle ready
    refine ⟨s, ?_, ?_⟩
    · rw [runFrom?, hidle]
      simp
    · simp only [List.filter_nil, List.append_nil]
      rw [← ready]
  | cons e es ih =>
    intro rounds stats s log enough ready distinct
    obtain ⟨rounds, rfl⟩ := Nat.exists_eq_succ_of_ne_zero (Nat.ne_of_gt (Nat.zero_lt_of_lt enough))
    have enough' : es.length < rounds := Nat.lt_of_succ_lt_succ enough
    have fresh : e.id ∉ (w.queue.get s).inFlight.map (·.id) := by
      intro hmem
      rw [List.map_append, List.map_cons] at distinct
      exact (List.nodup_append.1 distinct).2.2 _ hmem _ List.mem_cons_self rfl
    cases accepts : w.filter.accepts e with
    | true =>
      obtain ⟨e', s₁, hrun, hget⟩ := runOnce_accepted lawful quiet who ready fresh accepts
      have distinct' : (((w.queue.get s₁).inFlight ++ es).map (·.id)).Nodup := by
        rw [hget]
        refine distinct.sublist (List.Sublist.map _ ?_)
        exact (List.sublist_cons_self e es).append_left _
      obtain ⟨s', hrest, hlast⟩ := @ih rounds { stats with handled := stats.handled + 1 } s₁
        (log ++ [(who, e.stamp (.received (w.queue.get s).name w.now))]) enough' (by rw [hget])
        distinct'
      have htaken : (e :: es).countP w.filter.accepts = es.countP w.filter.accepts + 1 :=
        List.countP_cons_of_pos accepts
      have hleft : (e :: es).countP (!w.filter.accepts ·) = es.countP (!w.filter.accepts ·) :=
        List.countP_cons_of_neg (by simp [accepts])
      refine ⟨s', ?_, ?_⟩
      · rw [htaken, hleft, ← Nat.add_assoc, Nat.add_right_comm, runFrom?, hrun]
        simp only [hrest, hget, List.filter_cons, accepts, if_true, List.map_cons,
          List.append_assoc, List.singleton_append]
      · simp only [hlast, hget, List.filter_cons, accepts, if_true, Bool.not_true,
          Bool.false_eq_true, if_false, List.append_assoc, List.singleton_append]
    | false =>
      obtain ⟨e', s₁, hrun, hget⟩ := runOnce_declined lawful who ready fresh accepts
      have distinct' : (((w.queue.get s₁).inFlight ++ es).map (·.id)).Nodup := by
        rw [hget, List.append_assoc]
        exact distinct
      obtain ⟨s', hrest, hlast⟩ := @ih rounds { stats with skipped := stats.skipped + 1 } s₁ log
        enough' (by rw [hget]) distinct'
      have htaken : (e :: es).countP w.filter.accepts = es.countP w.filter.accepts :=
        List.countP_cons_of_neg (by simp [accepts])
      have hleft : (e :: es).countP (!w.filter.accepts ·) = es.countP (!w.filter.accepts ·) + 1 :=
        List.countP_cons_of_pos (by simp [accepts])
      refine ⟨s', ?_, ?_⟩
      · rw [htaken, hleft, ← Nat.add_assoc, Nat.add_right_comm, runFrom?, hrun]
        simp only [hrest, hget, List.filter_cons, accepts, Bool.false_eq_true, if_false]
      · simp only [hlast, hget, List.filter_cons, accepts, if_true, Bool.not_false,
          Bool.false_eq_true, if_false, List.append_assoc, List.singleton_append]

end Turn

/-! ## All turns -/

/-- **Workers take turns**: each takes envelopes until nothing is ready, and what is in flight is put
back before the next one begins. -/
def takeTurns? (rounds : Nat) :
    List (Worker σ) → σ → Option (Except BusError (List WorkerStats) × σ)
  | [], s => some (.ok [], s)
  | w :: ws, s =>
    match w.runUntilIdle? rounds s with
    | none => none
    | some (.error e, s) => some (.error e, s)
    | some (.ok stats, s) =>
      let s := if ws.isEmpty then s else w.queue.put (w.queue.get s).redeliver s
      (takeTurns? rounds ws s).map (Prod.map (·.map (stats :: ·)) id)

/-- The workers that write down what they handle, numbered from a first number on. -/
def recordAll : List (Worker σ) → Nat → List (Worker (σ × List (Nat × Envelope)))
  | [], _ => []
  | w :: ws, k => w.recording k :: recordAll ws (k + 1)

/-- What a worker has to do with some envelopes: handle those it takes, and skip the others. -/
def share (w : Worker σ) (es : List Envelope) : WorkerStats :=
  ⟨es.countP w.filter.accepts, es.countP (!w.filter.accepts ·)⟩

/-- True of an envelope that no worker takes. -/
def nobodyTakes (ws : List (Worker σ)) (e : Envelope) : Bool := ws.all (!·.filter.accepts e)

/-- **The first worker that takes an envelope**, by its place in the row. -/
def firstTaker? (ws : List (Worker σ)) (e : Envelope) : Option Nat :=
  ws.findIdx? (·.filter.accepts e)

/-- **Envelopes were shared out** among workers numbered from `k` on. Each was handled once, by the
first worker that takes it, and acknowledged; those that nobody takes are in flight; and every worker
met what the workers before it left. -/
structure SharedOut (ws : List (Worker σ)) (k : Nat) (es : List Envelope) (q q' : Queue)
    (stats : List WorkerStats) (handled : List (Nat × Envelope)) : Prop where
  counted : ∀ i, stats[i]? = ws[i]?.map (share · (es.filter (nobodyTakes (ws.take i))))
  once : (handled.map fun entry => (entry.1, entry.2.id, entry.2.message)).Perm
    (es.filterMap fun e => (firstTaker? ws e).map fun i => (k + i, e.id, e.message))
  acked : ∃ settled, q'.acked = q.acked ++ settled ∧
    settled.Perm (es.filter fun e => ws.any (·.filter.accepts e))
  inFlight : q'.inFlight.Perm (es.filter (nobodyTakes ws))
  ready : q'.ready = []
  rejected : q'.rejected = q.rejected

theorem takeTurns?_recordAll (ws : List (Worker σ)) (rounds : Nat) : ∀ (k : Nat)
    (p : σ × List (Nat × Envelope)),
    (takeTurns? rounds (recordAll ws k) p).map (Prod.map id Prod.fst) = takeTurns? rounds ws p.1 := by
  induction ws with
  | nil => exact fun _ _ => rfl
  | cons w ws ih =>
    intro k p
    have hisEmpty : (recordAll ws (k + 1)).isEmpty = ws.isEmpty := by cases ws <;> rfl
    rw [recordAll, takeTurns?, takeTurns?, runUntilIdle?, runUntilIdle?,
      ← runFrom?_recording w k rounds {} p, hisEmpty]
    rcases (w.recording k).runFrom? rounds {} p with _ | ⟨_ | stats, p'⟩
    · rfl
    · rfl
    · simp only [Option.map_some, Prod.map, id]
      cases ws.isEmpty with
      | true =>
        simp only [if_true, ← ih (k + 1) p', Option.map_map]
        rfl
      | false =>
        have hput := ih (k + 1)
          ((w.recording k).queue.put ((w.recording k).queue.get p').redeliver p')
        have hfst : ((w.recording k).queue.put ((w.recording k).queue.get p').redeliver p').1 =
            w.queue.put (w.queue.get p'.1).redeliver p'.1 := rfl
        simp only [Bool.false_eq_true, if_false, ← hfst, ← hput, Option.map_map]
        rfl

theorem filterMap_firstTaker?_cons (w : Worker σ) (ws : List (Worker σ)) (k : Nat)
    (es : List Envelope) :
    ((es.filter w.filter.accepts).map (fun e => (k, e.id, e.message)) ++
        (es.filter (!w.filter.accepts ·)).filterMap
          fun e => (firstTaker? ws e).map fun i => (k + 1 + i, e.id, e.message)).Perm
      (es.filterMap fun e => (firstTaker? (w :: ws) e).map fun i => (k + i, e.id, e.message)) := by
  refine List.Perm.trans ?_ ((List.filter_append_perm w.filter.accepts es).filterMap _)
  rw [List.filterMap_append]
  refine .of_eq (congrArg₂ _ ?_ ?_)
  · rw [← List.filterMap_eq_map]
    refine List.filterMap_congr fun e he => ?_
    have haccepts : w.filter.accepts e = true := (List.mem_filter.1 he).2
    simp [firstTaker?, List.findIdx?_cons, haccepts]
  · refine List.filterMap_congr fun e he => ?_
    have hdeclines : w.filter.accepts e = false := by simpa using (List.mem_filter.1 he).2
    simp only [firstTaker?, List.findIdx?_cons, hdeclines, Bool.false_eq_true, if_false,
      Option.map_map]
    refine congrArg (Option.map · _) (funext fun i => ?_)
    simp only [Function.comp_apply, Nat.add_assoc, Nat.add_comm 1]

theorem filter_nobodyTakes_cons (w : Worker σ) (ws : List (Worker σ)) (es : List Envelope) :
    es.filter (nobodyTakes (w :: ws)) =
      (es.filter (!w.filter.accepts ·)).filter (nobodyTakes ws) := by
  rw [List.filter_filter]
  refine List.filter_congr fun e _ => ?_
  rw [nobodyTakes, List.all_cons, Bool.and_comm]
  rfl

theorem filter_any_cons (w : Worker σ) (ws : List (Worker σ)) (es : List Envelope) :
    (es.filter w.filter.accepts ++
        (es.filter (!w.filter.accepts ·)).filter fun e => ws.any (·.filter.accepts e)).Perm
      (es.filter fun e => (w :: ws).any (·.filter.accepts e)) := by
  refine List.Perm.trans ?_ ((List.filter_append_perm w.filter.accepts es).filter _)
  rw [List.filter_append]
  refine .of_eq (congrArg₂ _ ?_ ?_)
  · refine (List.filter_eq_self.2 fun e he => ?_).symm
    rw [List.any_cons, (List.mem_filter.1 he).2, Bool.true_or]
  · refine List.filter_congr fun e he => ?_
    have hdeclines : w.filter.accepts e = false := by simpa using (List.mem_filter.1 he).2
    rw [List.any_cons, hdeclines, Bool.false_or]

theorem share_perm (w : Worker σ) {es es' : List Envelope} (h : es.Perm es') :
    w.share es = w.share es' := by
  rw [share, share, h.countP_eq, h.countP_eq]

section Share

variable {w : Worker σ} {ws : List (Worker σ)} {k : Nat} {es again : List Envelope}
  {q q₁ q' : Queue} {stats : List WorkerStats} {taken handled : List (Nat × Envelope)}
  (hrecorded : taken.map (fun entry => (entry.1, entry.2.id, entry.2.message)) =
    (es.filter w.filter.accepts).map fun e => (k, e.id, e.message))
  (hacked : q₁.acked = q.acked ++ es.filter w.filter.accepts)
  (hrejected : q₁.rejected = q.rejected)

theorem counted_zero : some (w.share es) =
    (w :: ws)[0]?.map (share · (es.filter (nobodyTakes ((w :: ws).take 0)))) :=
  congrArg (fun es => some (w.share es)) (List.filter_eq_self.2 fun _ _ => rfl).symm

include hrecorded hacked hrejected in
theorem SharedOut.single (ready : q₁.ready = [])
    (inFlight : q₁.inFlight = es.filter (!w.filter.accepts ·)) :
    SharedOut [w] k es q q₁ [w.share es] taken where
  counted := by
    rintro (_ | i)
    · exact counted_zero
    · rfl
  once := by
    rw [hrecorded]
    simpa [firstTaker?] using filterMap_firstTaker?_cons w [] k es
  acked := ⟨es.filter w.filter.accepts, hacked, by simp⟩
  inFlight := by
    rw [inFlight, filter_nobodyTakes_cons]
    simp [nobodyTakes]
  ready := ready
  rejected := hrejected

include hrecorded hacked hrejected in
theorem SharedOut.cons (left : again.Perm (es.filter (!w.filter.accepts ·)))
    (rest : SharedOut ws (k + 1) again q₁ q' stats handled) :
    SharedOut (w :: ws) k es q q' (w.share es :: stats) (taken ++ handled) where
  counted := by
    rintro (_ | i)
    · exact counted_zero
    · rw [List.getElem?_cons_succ, List.getElem?_cons_succ, rest.counted i]
      refine congrArg (Option.map · _) (funext fun v => v.share_perm ?_)
      rw [List.take_succ_cons, filter_nobodyTakes_cons]
      exact left.filter _
  once := by
    rw [List.map_append, hrecorded]
    exact ((rest.once.trans (left.filterMap _)).append_left _).trans
      (filterMap_firstTaker?_cons w ws k es)
  acked := by
    obtain ⟨settled, hsettled, hperm⟩ := rest.acked
    refine ⟨es.filter w.filter.accepts ++ settled, ?_, ?_⟩
    · rw [hsettled, hacked, List.append_assoc]
    · exact ((hperm.trans (left.filter _)).append_left _).trans (filter_any_cons w ws es)
  inFlight := by
    rw [filter_nobodyTakes_cons]
    exact rest.inFlight.trans (left.filter _)
  ready := rest.ready
  rejected := rest.rejected.trans hrejected

end Share

/-- **Workers that take turns share out what is ready.** The induction is on the row of workers; what
one of them leaves is ready for the next. -/
theorem sharedOut_recordAll {place : QueueAt σ} (lawful : place.Lawful) {rounds : Nat}
    (ws : List (Worker σ)) : ws ≠ [] → (∀ w ∈ ws, w.queue = place ∧ w.handler.Quiet place) →
    ∀ (k : Nat) {es : List Envelope} {s : σ} (log : List (Nat × Envelope)),
      (place.get s).ready = es → (place.get s).inFlight = [] → (es.map (·.id)).Nodup →
      es.length < rounds →
      ∃ stats s' handled,
        takeTurns? rounds (recordAll ws k) (s, log) = some (.ok stats, s', log ++ handled) ∧
        SharedOut ws k es (place.get s) (place.get s') stats handled := by
  induction ws with
  | nil => exact fun h => absurd rfl h
  | cons w ws ih =>
    intro _ each k es s log ready landed distinct enough
    obtain ⟨rfl, quiet⟩ := each w List.mem_cons_self
    obtain ⟨s₁, hrun, hget⟩ := @runFrom?_recording_ready _ w lawful quiet k es rounds {} s log enough
      ready (by rw [landed]; exact distinct)
    rw [landed, List.nil_append] at hget
    let taken := (es.filter w.filter.accepts).map
      fun e => (k, e.stamp (.received (w.queue.get s).name w.now))
    have hturn : (w.recording k).runUntilIdle? rounds (s, log) =
        some (.ok (w.share es), s₁, log ++ taken) := by
      rw [runUntilIdle?, hrun, share, Nat.zero_add, Nat.zero_add]
    have hrecorded : taken.map (fun entry => (entry.1, entry.2.id, entry.2.message)) =
        (es.filter w.filter.accepts).map fun e => (k, e.id, e.message) := by
      simp [taken, Function.comp_def]
    by_cases hlast : ws = []
    · subst hlast
      refine ⟨[w.share es], s₁, taken, ?_, .single hrecorded ?_ ?_ ?_ ?_⟩
      · rw [recordAll, takeTurns?, hturn]
        rfl
      all_goals rw [hget]
    · -- what was left is put back, in the order of the identifiers
      let s₂ := w.queue.put (w.queue.get s₁).redeliver s₁
      have hs₂ : w.queue.get s₂ = (w.queue.get s₁).redeliver := lawful _ _
      let left := es.filter (!w.filter.accepts ·)
      let again := left.mergeSort fun a b => a.id.value ≤ b.id.value
      have hperm : again.Perm left := List.mergeSort_perm left _
      have hready : (w.queue.get s₂).ready = again := by rw [hs₂, hget]; rfl
      have hlanded : (w.queue.get s₂).inFlight = [] := by rw [hs₂]; rfl
      have hdistinct : (again.map (·.id)).Nodup := by
        rw [(hperm.map _).nodup_iff]
        exact distinct.sublist (List.filter_sublist.map _)
      have henough : again.length < rounds := by
        rw [hperm.length_eq]
        exact Nat.lt_of_le_of_lt (List.length_filter_le _ _) enough
      obtain ⟨stats, s', handled, hrest, hshared⟩ := ih hlast
        (fun v hv => each v (List.mem_cons_of_mem _ hv)) (k + 1) (log ++ taken) hready hlanded
        hdistinct henough
      refine ⟨w.share es :: stats, s', taken ++ handled, ?_, .cons hrecorded ?_ ?_ hperm hshared⟩
      · have hisEmpty : (recordAll ws (k + 1)).isEmpty = false := by
          cases ws with
          | nil => exact absurd rfl hlast
          | cons => rfl
        rw [recordAll, takeTurns?, hturn]
        simp only [hisEmpty, Bool.false_eq_true, if_false]
        change (takeTurns? rounds (recordAll ws (k + 1)) (s₂, log ++ taken)).map _ = _
        rw [hrest, List.append_assoc]
        rfl
      all_goals
        rw [hs₂, hget]
        rfl

/-- **Consumers with different filters share a queue.** Workers take turns at a queue whose envelopes
have different identifiers, with nothing in flight at first. Every turn comes to its end; each envelope
is handled once, by the first worker that takes it, and acknowledged; those that nobody takes are in
flight at the end and nothing else was done to them; and each worker counts the envelopes it takes and
those it leaves, among those that are not acknowledged yet. -/
theorem takeTurns?_partition {place : QueueAt σ} (lawful : place.Lawful) {ws : List (Worker σ)}
    (someone : ws ≠ []) (each : ∀ w ∈ ws, w.queue = place ∧ w.handler.Quiet place) {s : σ}
    (landed : (place.get s).inFlight = []) (distinct : ((place.get s).ready.map (·.id)).Nodup)
    {rounds : Nat} (enough : (place.get s).ready.length < rounds) :
    ∃ stats s' handled,
      takeTurns? rounds ws s = some (.ok stats, s') ∧
      takeTurns? rounds (recordAll ws 0) (s, []) = some (.ok stats, s', handled) ∧
      SharedOut ws 0 (place.get s).ready (place.get s) (place.get s') stats handled := by
  obtain ⟨stats, s', handled, hrun, hshared⟩ :=
    sharedOut_recordAll lawful ws someone each 0 [] rfl landed distinct enough
  refine ⟨stats, s', handled, ?_, hrun, hshared⟩
  rw [← takeTurns?_recordAll ws rounds 0 (s, []), hrun]
  rfl

/-- A consumer of some regions, on a state that is a queue. -/
def ofRegions (allowed : List String) : Worker Queue where
  queue := { get := id, put := fun q _ => q }
  handler := { name := "TransitionMessageHandler", handle := fun _ q => (.ok (), q) }
  filter := ⟨allowed⟩
  now := ⟨0, 0⟩

/-- An asset of a region is to be loaded. -/
def loadIn (region : String) (n : Nat) : Envelope where
  id := ⟨n⟩
  message := ⟨toString n, "Asset", "load", "AssetFlow"⟩
  stamps := [.context ⟨"region", .text region⟩]

/-- Three assets, one of them in a region that nobody consumes. -/
theorem takeTurns?_partition_regions :
    let ws := [ofRegions ["euro", "ddb"], ofRegions ["aac", "ddb"]]
    let q : Queue := { name := "load", ready := [loadIn "aac" 3, loadIn "asia" 2, loadIn "ddb" 1] }
    ∃ stats q' handled,
      takeTurns? 4 ws q = some (.ok stats, q') ∧
      takeTurns? 4 (recordAll ws 0) (q, []) = some (.ok stats, q', handled) ∧
      SharedOut ws 0 q.ready q q' stats handled := by
  intro ws q
  have each : ∀ w ∈ ws, w.queue = (ofRegions []).queue ∧ w.handler.Quiet (ofRegions []).queue := by
    intro w hw
    rcases List.mem_cons.1 hw with rfl | hw
    · exact ⟨rfl, fun _ _ => ⟨rfl, rfl⟩⟩
    · rw [List.mem_singleton.1 hw]
      exact ⟨rfl, fun _ _ => ⟨rfl, rfl⟩⟩
  have lawful : (ofRegions []).queue.Lawful := fun _ _ => rfl
  exact takeTurns?_partition lawful (List.cons_ne_nil _ _) each (s := q) rfl (by decide) (by decide)

end Worker

end WorkflowEngine
