import WorkflowEngine.Proofs.Dispatch.Consumer
import WorkflowEngine.Proofs.Dispatch.Retry

/-!
# Consumers that share a store

Consumers take their turns in any order. Each one stores what it worked out from the last it saw of an
entity, so nobody's work is undone as long as no other consumer stores the entity in between; and
nothing prevents that.

* `Scene`, `turn`, `run`: what the consumers of a crew are at, and how that goes on;
* `lastSeen?`, `since`, `LeftAlone`: what a consumer saw last, and what was done after that;
* `Traced`, **`Consistent.turn`**, `consistent_run`: a subject in hand comes from what was seen last;
* **`moves_of_stored`**: what is stored comes from what was seen last, and from where the row stands
  that it replaces if the entity was left alone;
* **`stored_undone`**: a consumer that undoes what another one stored.
-/

namespace WorkflowEngine.Crew

open Consumer Dispatcher

variable {ι σ : Type} [DecidableEq ι]

/-! ## Turns in any order -/

/-- **What the consumers of a crew are at**, and what they did, the last turn first. -/
structure Scene (ι σ : Type) where
  phase : ι → Phase
  world : σ
  history : List (ι × Act) := []

/-- Nobody has begun. -/
def Scene.start (w : σ) : Scene ι σ := { phase := fun _ => .idle, world := w }

/-- **One consumer takes its next turn.** -/
def turn (crew : ι → Consumer σ) (c : Scene ι σ) (i : ι) : Scene ι σ :=
  let (a, p, w) := (crew i).next (c.phase i) c.world
  { phase := Function.update c.phase i p, world := w, history := (i, a) :: c.history }

/-- **Turns are taken in the order of a schedule.** -/
def run (crew : ι → Consumer σ) (c : Scene ι σ) (schedule : List ι) : Scene ι σ :=
  schedule.foldl (turn crew) c

/-- In this turn, a consumer found or stored an entity. -/
def sawIn (i : ι) (entry : ι × Act) : Bool := entry.1 = i && entry.2.subject?.isSome

/-- **What a consumer saw last**: the subject that it found or stored. -/
def lastSeen? (i : ι) (history : List (ι × Act)) : Option Subject :=
  (history.find? (sawIn i)).bind (·.2.subject?)

/-- What was done after that. -/
def since (i : ι) (history : List (ι × Act)) : List (ι × Act) := history.takeWhile (!sawIn i ·)

/-- **The entity of a subject was left alone**: nobody stored it. -/
def LeftAlone (l : Ledger σ) (s : Subject) (turns : List (ι × Act)) : Prop :=
  ∀ j s', (j, .stored s') ∈ turns →
    ¬(s'.entityType = s.entityType ∧ l.identity? s' = l.identity? s)

section Seen

variable {i : ι} {entry : ι × Act} {history : List (ι × Act)}

theorem lastSeen?_cons_of_not (h : sawIn i entry = false) :
    lastSeen? i (entry :: history) = lastSeen? i history := by
  rw [lastSeen?, List.find?_cons_of_neg (by simp [h]), lastSeen?]

theorem since_cons_of_not (h : sawIn i entry = false) :
    since i (entry :: history) = entry :: since i history := by
  simp [since, h]

theorem lastSeen?_cons_self {a : Act} {s : Subject} (h : a.subject? = some s) :
    lastSeen? i ((i, a) :: history) = some s := by
  have hsaw : sawIn i (i, a) = true := by simp [sawIn, h]
  rw [lastSeen?, List.find?_cons_of_pos hsaw]
  exact h

end Seen

/-! ## Subjects in hand -/

/-- **Where a subject in hand comes from**: its workflow leads to it from what its consumer saw last,
and that is still stored if the entity was left alone. -/
structure Traced (x : Dispatcher) (l : Ledger σ) (r : Registry) (i : ι) (d : Definition)
    (s : Subject) (w : σ) (history : List (ι × Act)) (seen : Subject) : Prop where
  last : lastSeen? i history = some seen
  registered : d ∈ r.definitions
  moves : x.Moves d seen s
  row : LeftAlone l seen (since i history) → ∃ id row, l.identity? seen = some id ∧
    l.row? w seen.entityType id = some row ∧ seen.KeptAs r row

/-- **A scene in which every subject in hand is traced.** -/
structure Consistent (crew : ι → Consumer σ) (l : Ledger σ) (r : Registry) (c : Scene ι σ) :
    Prop where
  sound : l.sound c.world
  traced : ∀ {i d s}, (c.phase i).subject? = some (d, s) →
    ∃ seen, Traced (crew i).dispatcher l r i d s c.world c.history seen

variable {x : Dispatcher} {k : Consumer σ} {l : Ledger σ} {r : Registry} {crew : ι → Consumer σ} {c : Scene ι σ}
  {i j : ι} {a : Act} {p p' : Phase} {d : Definition} {s s' seen : Subject} {w w' : σ} {history : List (ι × Act)}

theorem row?_of_does (does : k.Does l r p w a p' w') {id : String} (identity : l.identity? seen = some id)
    (alone : ∀ s', a = .stored s' →
      ¬(s'.entityType = seen.entityType ∧ l.identity? s' = l.identity? seen)) :
    l.row? w' seen.entityType id = l.row? w seen.entityType id := by
  cases does with
  | plain _ same | found same => exact same.row? _ _
  | @stored d s _ _ _ stores =>
    obtain ⟨id', _, identity', _, _, others⟩ := stores.row?
    refine others _ _ ?_
    rintro ⟨type, rfl⟩
    exact alone s rfl ⟨type.symm, identity'.trans identity.symm⟩

theorem Traced.later (h : Traced x l r i d s w history seen) (does : k.Does l r p w a p' w')
    (blind : sawIn i (j, a) = false) (moves : x.Moves d s s') :
    Traced x l r i d s' w' ((j, a) :: history) seen where
  last := (lastSeen?_cons_of_not blind).trans h.last
  registered := h.registered
  moves := h.moves.trans moves
  row := by
    intro alone
    rw [since_cons_of_not blind] at alone
    obtain ⟨id, row, identity, hrow, kept⟩ :=
      h.row fun j s' hmem => alone j s' (List.mem_cons_of_mem _ hmem)
    refine ⟨id, row, identity, ?_, kept⟩
    rw [row?_of_does does identity, hrow]
    rintro s' rfl
    exact alone j s' List.mem_cons_self

theorem traced_of_seen (view : a.subject? = some seen) (registered : d ∈ r.definitions)
    (moves : x.Moves d seen s) (stored : ∃ id row, l.identity? seen = some id ∧
      l.row? w seen.entityType id = some row ∧ seen.KeptAs r row) :
    Traced x l r i d s w ((i, a) :: history) seen :=
  ⟨lastSeen?_cons_self view, registered, moves, fun _ => stored⟩

theorem traced_of_does (fits : k.Fits l r) (sound : l.sound w)
    (does : k.Does l r p w a p' w')
    (before : ∀ {d s}, p.subject? = some (d, s) → ∃ seen, Traced k.dispatcher l r i d s w history seen)
    (hand : p'.subject? = some (d, s)) :
    ∃ seen, Traced k.dispatcher l r i d s w' ((i, a) :: history) seen := by
  cases does with
  | plain plain same carried =>
    obtain ⟨s₁, held, moves⟩ := carried hand
    obtain ⟨seen, traced⟩ := before held
    exact ⟨seen, traced.later (.plain plain same carried) (by simp [sawIn, plain]) moves⟩
  | @found entityType id seen _ _ same row carried =>
    -- what was found is the row itself
    obtain ⟨registered, moves⟩ := carried hand
    obtain ⟨rfl, identity⟩ := fits.lawful.keyed sound row
    exact ⟨seen, traced_of_seen rfl registered moves
      ⟨id, seen, identity, (same.row? _ _).trans row, .refl r seen⟩⟩
  | stored held stores carried =>
    -- what was stored is what its row gives back; that its workflow is registered was known before
    obtain ⟨rfl, rfl⟩ := carried hand
    obtain ⟨_, traced⟩ := before held
    obtain ⟨id, row, identity, kept, hrow, _⟩ := stores.row?
    exact ⟨_, traced_of_seen rfl traced.registered .refl ⟨id, row, identity, hrow, kept⟩⟩

/-- **Every turn keeps a scene consistent.** -/
theorem Consistent.turn (h : Consistent crew l r c) (fits : ∀ i, (crew i).Fits l r) (i : ι) :
    Consistent crew l r (turn crew c i) := by
  rcases hnext : (crew i).next (c.phase i) c.world with ⟨a, p', w'⟩
  have does := does_next (fits i) h.sound hnext
  have hturn : Crew.turn crew c i =
      { phase := Function.update c.phase i p', world := w', history := (i, a) :: c.history } := by
    simp only [Crew.turn, hnext]
  rw [hturn]
  refine ⟨does.sound, fun {j d s} hand => ?_⟩
  dsimp only at hand ⊢
  by_cases hj : j = i
  · subst hj
    rw [Function.update_self] at hand
    exact traced_of_does (fits j) h.sound does h.traced hand
  · rw [Function.update_of_ne hj] at hand
    obtain ⟨seen, traced⟩ := h.traced hand
    exact ⟨seen, traced.later does (by simp [sawIn, Ne.symm hj]) .refl⟩

/-- **Whatever the order of the turns**, every subject in hand is traced. -/
theorem consistent_run (fits : ∀ i, (crew i).Fits l r) (h : Consistent crew l r c) (schedule : List ι) :
    Consistent crew l r (run crew c schedule) := by
  induction schedule generalizing c with
  | nil => exact h
  | cons i rest ih => exact ih (h.turn fits i)

theorem consistent_start (sound : l.sound w) : Consistent crew l r (.start w : Scene ι σ) :=
  ⟨sound, fun hand => by cases hand⟩

/-- **What is stored comes from what its consumer saw last.** Whatever the order of the turns, enabled
transitions lead to it from the subject that the same consumer found or stored last. If the entity was
left alone since, the row that it replaces stands where that subject did, and transitions that are
enabled there lead on from the row as well, unless the dispatcher reads more of a subject than is kept. -/
theorem moves_of_stored (fits : ∀ i, (crew i).Fits l r) (sound : l.sound w) {schedule : List ι}
    (reached : run crew (.start w) schedule = c)
    (stored : (crew i).next (c.phase i) c.world = (.stored s, p, w')) :
    ∃ d ∈ r.definitions, ∃ seen, lastSeen? i c.history = some seen ∧ seen.SameEntity s ∧
      (crew i).dispatcher.Moves d seen s ∧ l.Stores r s c.world w' ∧
      (LeftAlone l s (since i c.history) → ∃ id row, l.identity? s = some id ∧
        l.row? c.world s.entityType id = some row ∧ seen.KeptAs r row ∧
        ((crew i).dispatcher.ReadsKept →
          ∃ row', (crew i).dispatcher.Moves d row row' ∧ row'.KeptAs r s)) := by
  have consistent : Consistent crew l r c :=
    reached ▸ consistent_run fits (consistent_start sound) schedule
  cases does_next (fits i) consistent.sound stored with
  | plain plain => cases plain
  | @stored d _ _ _ held stores =>
    obtain ⟨seen, traced⟩ := consistent.traced held
    have same := traced.moves.sameEntity
    have hidentity := (fits i).lawful.identity? same
    refine ⟨d, traced.registered, seen, traced.last, same, traced.moves, stores, fun alone => ?_⟩
    have alone' : LeftAlone l seen (since i c.history) := by
      intro j s' hmem
      rw [← same.entityType, ← hidentity]
      exact alone j s' hmem
    obtain ⟨id, row, identity, hrow, kept⟩ := traced.row alone'
    rw [← same.entityType] at hrow
    refine ⟨id, row, hidentity.trans identity, hrow, kept, fun reads => ?_⟩
    -- the row is not what was seen, only what the store gives back of it, so it moves along with it
    obtain rfl := (fits i).registry
    obtain ⟨row', moves, kept'⟩ := traced.moves.keptAs reads traced.registered kept
    exact ⟨row', moves, kept'.symm⟩

/-! ## Examples -/

/-- Two consumers, one for each queue of the flow of assets. -/
inductive Role where
  | loader
  | publisher
  deriving DecidableEq

/-- The queue of each of them. -/
def Role.queue : Role → String
  | .loader => "assetflow.load"
  | .publisher => "assetflow.publish"

/-- **A loader and a publisher** of one store in memory. -/
def press (role : Role) : Consumer World where
  dispatcher := queuedDispatcher
  services := queuedServices
  queue := (Bus.queueAt role.queue).within World.bus fun bus w => { w with bus }
  now := ⟨0, 0⟩

/-- A store with a new asset, and the message to load it. -/
def pressWorld : World :=
  let stamps := queuedDispatcher.locator.stamps loadMessage none
  (queuedServices.send loadMessage stamps
    { newAssetWorld with
      bus := .ofNames ["assetflow.load", "assetflow.publish"] .none }).2

/-- The rows of that store. -/
def pressLedger : Ledger World := World.ledger fun name => (pressWorld.bus.queue? name).isSome

theorem fits_press (role : Role) : (press role).Fits pressLedger queuedDispatcher.registry where
  registry := rfl
  lawful := World.lawful_ledger _ _ _ _
  put q w sound := by
    refine ⟨⟨sound.1, fun name => ?_⟩, fun _ _ => rfl⟩
    exact (Bus.isSome_queue?_update w.bus q name).trans (sound.2 name)

/-- The loader stores the loaded asset and sends the message to publish it, which the publisher takes. -/
def handed : Scene Role World :=
  run press (.start pressWorld) (List.replicate 4 .loader ++ List.replicate 4 .publisher)

/-- The asset as the publisher stores it. -/
def publishedAsset : Subject :=
  fire loadedAsset queuedFlow queuedPublish

/-- The publisher goes on from what the loader stored. -/
theorem moves_of_stored_publishedAsset : ∃ p w' row row',
    (press .publisher).next (handed.phase .publisher) handed.world = (.stored publishedAsset, p, w') ∧
    pressLedger.row? handed.world "Asset" "7" = some row ∧
    queuedDispatcher.Moves queuedFlow row row' ∧
    row'.KeptAs queuedDispatcher.registry publishedAsset := by
  let next := (press .publisher).next (handed.phase .publisher) handed.world
  have hact : next.1 = .stored publishedAsset := by decide +kernel
  have stored : next = (.stored publishedAsset, next.2.1, next.2.2) := by rw [← hact]
  have hsince : since .publisher handed.history = [(.publisher, .quiet), (.publisher, .quiet)] := by
    decide +kernel
  have alone : LeftAlone pressLedger publishedAsset (since .publisher handed.history) := by
    rw [hsince]
    simp [LeftAlone]
  have sound : pressLedger.sound pressWorld := ⟨by decide +kernel, fun _ => rfl⟩
  obtain ⟨d, hd, _, _, _, _, _, stayed⟩ := moves_of_stored fits_press sound (c := handed) rfl stored
  obtain ⟨id, row, identity, hrow, _, goesOn⟩ := stayed alone
  obtain ⟨row', moves, kept⟩ := goesOn (readsKept_of_recorded rfl IdentityStrategy.ofRecord_default)
  obtain rfl : d = queuedFlow := List.mem_singleton.1 hd
  have hid : pressLedger.identity? publishedAsset = some "7" := by decide +kernel
  obtain rfl : id = "7" := Option.some.inj (identity.symm.trans hid)
  exact ⟨_, _, row, row', stored, hrow, moves, kept⟩

/-- The publisher has stored the asset, and the loader comes back to its own. -/
def raced : Scene Role World := run press handed [.publisher, .loader]

/-- **A consumer that undoes what another one stored.** The publisher stored the asset when the loader
still had it in hand; the loader stores it as it was before, and nothing leads there from where the
publisher had come to. -/
theorem stored_undone : queuedFlow.isValid = true ∧ ∃ row s p w' row',
    raced.world.table.find? "Asset" "7" = some row ∧
    row.marking "AssetFlow" = .ofPlaces ["published"] ∧
    (press .loader).next (raced.phase .loader) raced.world = (.stored s, p, w') ∧
    w'.table.find? "Asset" "7" = some row' ∧ row'.marking "AssetFlow" = .ofPlaces ["loaded"] ∧
    ∀ d ∈ queuedDispatcher.registry.definitions, ∀ {after},
      queuedDispatcher.Moves d row after →
      after.marking "AssetFlow" ≠ s.marking "AssetFlow" := by
  let row : Subject := { publishedAsset with
    markings := queuedDispatcher.registry.standing publishedAsset }
  let s := fire (asset.mark "AssetFlow" assetFlow.initial) queuedFlow loadAsset
  let next := (press .loader).next (raced.phase .loader) raced.world
  have hact : next.1 = .stored s := by decide +kernel
  have stored : next = (.stored s, next.2.1, next.2.2) := by rw [← hact]
  have idle : ∀ d ∈ queuedDispatcher.registry.definitions, ∀ t ∈ d.transitions,
      queuedDispatcher.isEnabled row d t = false := by decide +kernel
  refine ⟨by decide, row, s, _, _, loadedAsset, by decide +kernel, by decide +kernel, stored,
    by decide +kernel, by decide +kernel, fun d hd after moves => ?_⟩
  rw [moves.eq_of_idle (idle d hd)]
  decide +kernel

end WorkflowEngine.Crew
