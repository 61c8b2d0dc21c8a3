import WorkflowEngine.Proofs.Routing.RouteMap
import WorkflowEngine.Routing.Plan

/-!
# Planning request by request

A plan is made by adding one request after the other. Each one is compared with the owner of its
address and with the route of its slugs only, and yet that compares it with every request before it:
those that share an address made of slugs, or a pair of slugs, agree with each other already.

* `QueueRequest.route`: what a request asks for;
* `QueueRequest.Compatible`, `Plannable`: requests that can stand in one plan;
* `Routes.Describes`: routes and owners are those of a list of requests;
* `describes_of_add`, `exists_add`: adding one request;
* **`describes_of_planRoutes`**, **`exists_planRoutes_iff`**: what a plan holds, and when there is one;
* **`planRoutes_eq_of_mem_iff`**: the order of the requests does not matter.
-/

namespace WorkflowEngine

namespace QueueRequest

/-- The address made of the slugs of a request. -/
def computed (queuePrefix : String) (q : QueueRequest) : String :=
  Routing.queueAddress queuePrefix (Routing.slug q.workflow) (Routing.slug q.transition)

/-- **The route that a request asks for**: from its slugs to its transport, or to the address made of
them. -/
def route (queuePrefix : String) (q : QueueRequest) : Route where
  workflow := Routing.slug q.workflow
  transition := Routing.slug q.transition
  address := q.transport.getD (q.computed queuePrefix)

/-- Both names of a request leave something in their slugs. -/
def Named (q : QueueRequest) : Prop := Routing.slug q.workflow ≠ "" ∧ Routing.slug q.transition ≠ ""

/-- Two requests for one address made of slugs are for transitions of one name. -/
def SharesOwner (queuePrefix : String) (q q' : QueueRequest) : Prop :=
  q.transport = none → q'.transport = none →
    q.computed queuePrefix = q'.computed queuePrefix → q.transition = q'.transition

/-- Two requests of one pair of slugs ask for one address. -/
def SharesRoute (queuePrefix : String) (q q' : QueueRequest) : Prop :=
  Routing.slug q.workflow = Routing.slug q'.workflow →
    Routing.slug q.transition = Routing.slug q'.transition →
      (q.route queuePrefix).address = (q'.route queuePrefix).address

/-- **Two requests can stand in one plan.** -/
structure Compatible (queuePrefix : String) (q q' : QueueRequest) : Prop where
  owner : SharesOwner queuePrefix q q'
  route : SharesRoute queuePrefix q q'

variable {queuePrefix : String} {q q' : QueueRequest}

theorem Compatible.refl (queuePrefix : String) (q : QueueRequest) : Compatible queuePrefix q q :=
  ⟨fun _ _ _ => rfl, fun _ _ => rfl⟩

theorem Compatible.symm (h : Compatible queuePrefix q q') : Compatible queuePrefix q' q :=
  ⟨fun hq' hq he => (h.owner hq hq' he.symm).symm, fun hw ht => (h.route hw.symm ht.symm).symm⟩

end QueueRequest

open QueueRequest

/-- **A list of requests can be planned**: they are named, and no two of them are in conflict. -/
structure Plannable (queuePrefix : String) (qs : List QueueRequest) : Prop where
  named : ∀ q ∈ qs, q.Named
  compatible : ∀ q ∈ qs, ∀ q' ∈ qs, Compatible queuePrefix q q'

variable {queuePrefix : String} {qs : List QueueRequest} {q : QueueRequest}

theorem Plannable.subset {qs' : List QueueRequest} (h : Plannable queuePrefix qs) (hs : qs' ⊆ qs) :
    Plannable queuePrefix qs' where
  named q hq := h.named q (hs hq)
  compatible q hq q' hq' := h.compatible q (hs hq) q' (hs hq')

theorem plannable_concat_iff : Plannable queuePrefix (qs ++ [q]) ↔
    Plannable queuePrefix qs ∧ q.Named ∧ ∀ q' ∈ qs, Compatible queuePrefix q' q := by
  constructor
  · intro h
    have hq : q ∈ qs ++ [q] := by simp
    have hqs : ∀ {q'}, q' ∈ qs → q' ∈ qs ++ [q] := fun h => List.mem_append_left _ h
    exact ⟨⟨fun q' h' => h.named q' (hqs h'),
      fun q₁ h₁ q₂ h₂ => h.compatible q₁ (hqs h₁) q₂ (hqs h₂)⟩, h.named q hq,
      fun q' h' => h.compatible q' (hqs h') q hq⟩
  · rintro ⟨h, hnamed, hq⟩
    refine ⟨fun q' h' => ?_, fun q₁ h₁ q₂ h₂ => ?_⟩
    · rcases List.mem_append.1 h' with h' | h'
      · exact h.named q' h'
      · exact List.mem_singleton.1 h' ▸ hnamed
    · rcases List.mem_append.1 h₁ with h₁ | h₁ <;> rcases List.mem_append.1 h₂ with h₂ | h₂
      · exact h.compatible q₁ h₁ q₂ h₂
      · exact List.mem_singleton.1 h₂ ▸ hq q₁ h₁
      · exact List.mem_singleton.1 h₁ ▸ (hq q₂ h₂).symm
      · rw [List.mem_singleton.1 h₁, List.mem_singleton.1 h₂]
        exact .refl queuePrefix q

/-- A request for an address made of slugs. -/
def QueueRequest.claims (queuePrefix address : String) (q : QueueRequest) : Bool :=
  q.transport = none ∧ address = q.computed queuePrefix

/-- A request of a pair of slugs. -/
def QueueRequest.leads (workflow transition : String) (q : QueueRequest) : Bool :=
  workflow = Routing.slug q.workflow ∧ transition = Routing.slug q.transition

theorem of_find?_claims {address : String} (h : qs.find? (claims queuePrefix address) = some q) :
    q ∈ qs ∧ q.transport = none ∧ address = q.computed queuePrefix :=
  ⟨List.mem_of_find?_eq_some h, by simpa [claims] using List.find?_some h⟩

theorem of_find?_leads {workflow transition : String}
    (h : qs.find? (leads workflow transition) = some q) :
    q ∈ qs ∧ workflow = Routing.slug q.workflow ∧ transition = Routing.slug q.transition :=
  ⟨List.mem_of_find?_eq_some h, by simpa [leads] using List.find?_some h⟩

theorem exists_first {p : QueueRequest → Bool} (hq : q ∈ qs) (hp : p q = true) :
    ∃ q₀, qs.find? p = some q₀ :=
  Option.isSome_iff_exists.1 (List.find?_isSome.2 ⟨q, hq, hp⟩)

namespace Routes

/-- **A plan in the making describes the requests that were added to it**: the first of them for an
address owns it, and the first of them of a pair of slugs says where it leads. -/
structure Describes (queuePrefix : String) (qs : List QueueRequest) (r : Routes) : Prop where
  owner : ∀ address, r.owners.get? address =
    (qs.find? (claims queuePrefix address)).map fun q => (q.workflow, q.transition)
  route : ∀ workflow transition, r.map.get? workflow transition =
    (qs.find? (leads workflow transition)).map fun q => (q.route queuePrefix).address
  filled : r.map.Filled

theorem describes_nil (queuePrefix : String) : Describes queuePrefix [] {} where
  owner _ := rfl
  route _ _ := rfl
  filled := RouteMap.filled_empty

/-! ## Adding one request -/

variable {r r' : Routes}

theorem claim_ok {address : String} (h : r.claim address q = .ok r') :
    r'.map = r.map ∧
      (∀ a, r'.owners.get? a = (r.owners.get? a).or
        (if a = address then some (q.workflow, q.transition) else none)) ∧
      ∀ w t, r.owners.get? address = some (w, t) → t = q.transition := by
  unfold claim at h
  rcases howner : r.owners.get? address with _ | ⟨w, t⟩ <;> rw [howner] at h
  · cases h
    refine ⟨rfl, fun a => ?_, by simp⟩
    by_cases ha : a = address
    · subst ha
      simp [SortedMap.get?_insert_self, howner]
    · simp [SortedMap.get?_insert_of_ne _ ha, ha]
  · simp only at h
    split at h
    · next ht =>
      cases h
      refine ⟨rfl, fun a => ?_, ?_⟩
      · by_cases ha : a = address
        · simp [ha, howner]
        · simp [ha]
      · rintro _ _ ⟨⟩
        exact ht
    · cases h

theorem exists_claim {address : String}
    (h : ∀ w t, r.owners.get? address = some (w, t) → t = q.transition) :
    ∃ r', r.claim address q = .ok r' := by
  unfold claim
  rcases howner : r.owners.get? address with _ | ⟨w, t⟩
  · exact ⟨_, rfl⟩
  · exact ⟨r, by simp [h w t howner]⟩

theorem put_ok {w t a : String} (h : r.put w t a = .ok r') :
    r'.owners = r.owners ∧ (r.map.Filled → r'.map.Filled) ∧
      (∀ w' t', r'.map.get? w' t' = (r.map.get? w' t').or
        (if w' = w ∧ t' = t then some a else none)) ∧
      ∀ previous, r.map.get? w t = some previous → previous = a := by
  unfold put at h
  cases hroute : r.map.get? w t with
  | none =>
    rw [hroute] at h
    cases h
    refine ⟨rfl, fun filled => filled.insert w t a, fun w' t' => ?_, by simp⟩
    rw [RouteMap.get?_insert]
    split
    · next hpair => simp [hpair.1, hpair.2, hroute]
    · simp
  | some previous =>
    simp only [hroute] at h
    split at h
    · next hsame =>
      cases h
      refine ⟨rfl, id, fun w' t' => ?_, ?_⟩
      · by_cases hpair : w' = w ∧ t' = t
        · simp [hpair.1, hpair.2, hroute]
        · simp [hpair]
      · rintro _ ⟨⟩
        exact hsame
    · cases h

theorem exists_put {w t a : String} (h : ∀ previous, r.map.get? w t = some previous → previous = a) :
    ∃ r', r.put w t a = .ok r' := by
  unfold put
  cases hroute : r.map.get? w t with
  | none => exact ⟨_, rfl⟩
  | some previous => exact ⟨r, by simp [h previous hroute]⟩

/-- The routes with the address of a request claimed, if that is made of slugs. -/
def own (queuePrefix : String) (r : Routes) (q : QueueRequest) : Except PlanError Routes :=
  match q.transport with
  | some _ => .ok r
  | none => r.claim (q.computed queuePrefix) q

theorem add_eq_ok_iff : r.add queuePrefix q = .ok r' ↔
    q.Named ∧ ∃ r₁, r.own queuePrefix q = .ok r₁ ∧
      r₁.put (q.route queuePrefix).workflow (q.route queuePrefix).transition
        (q.route queuePrefix).address = .ok r' := by
  unfold add own QueueRequest.route
  by_cases hnamed : Routing.slug q.workflow = "" ∨ Routing.slug q.transition = ""
  · have : ¬ q.Named := fun h => hnamed.elim h.1 h.2
    simp [hnamed, this]
  · have : q.Named := not_or.1 hnamed
    rw [if_neg hnamed]
    simp only [this, true_and]
    cases q.transport with
    | some transport => simp
    | none =>
      change (r.claim (q.computed queuePrefix) q).bind _ = _ ↔ _
      cases r.claim (q.computed queuePrefix) q with
      | error e => simp [Except.bind]
      | ok r₁ => simp [Except.bind, computed]

theorem map_find?_concat {α : Type} (p : QueueRequest → Bool) (f : QueueRequest → α) :
    ((qs ++ [q]).find? p).map f =
      ((qs.find? p).map f).or (if p q = true then some (f q) else none) := by
  rw [List.find?_append]
  cases qs.find? p with
  | some q₀ => rfl
  | none => cases hq : p q <;> simp [hq]

/-- **A request that gets its address** owns it if it is the first one, and has the transition name
of the first one. -/
theorem own_ok (h : Describes queuePrefix qs r) (hown : r.own queuePrefix q = .ok r') :
    r'.map = r.map ∧
      (∀ address, r'.owners.get? address =
        ((qs ++ [q]).find? (claims queuePrefix address)).map fun q => (q.workflow, q.transition)) ∧
      (q.transport = none → ∀ q₀, qs.find? (claims queuePrefix (q.computed queuePrefix)) = some q₀ →
        q₀.transition = q.transition) := by
  unfold own at hown
  cases htransport : q.transport with
  | some transport =>
    rw [htransport] at hown
    cases hown
    refine ⟨rfl, fun address => ?_, by simp⟩
    rw [map_find?_concat, ← h.owner]
    simp [claims, htransport]
  | none =>
    rw [htransport] at hown
    obtain ⟨hmap, howners, hagrees⟩ := claim_ok hown
    refine ⟨hmap, fun address => ?_, fun _ q₀ hq₀ => hagrees q₀.workflow _ ?_⟩
    · rw [map_find?_concat, ← h.owner, howners]
      simp [claims, htransport]
    · rw [h.owner, hq₀]
      rfl

/-- **Adding a request** keeps the description. It compares the request with the first one of its kind
only, but those before it agree with each other. -/
theorem describes_of_add (h : Describes queuePrefix qs r) (hp : Plannable queuePrefix qs)
    (hadd : r.add queuePrefix q = .ok r') :
    Describes queuePrefix (qs ++ [q]) r' ∧ Plannable queuePrefix (qs ++ [q]) := by
  obtain ⟨hnamed, r₁, hown, hput⟩ := add_eq_ok_iff.1 hadd
  obtain ⟨hmap, howner, howned⟩ := own_ok h hown
  obtain ⟨howners, hfilled, hroute, hrouted⟩ := put_ok hput
  refine ⟨⟨?_, fun w t => ?_, hfilled (hmap ▸ h.filled)⟩,
    plannable_concat_iff.2 ⟨hp, hnamed, fun q' hq' => ⟨?_, ?_⟩⟩⟩
  · rw [howners]
    exact howner
  · rw [map_find?_concat, ← h.route, hroute, hmap]
    simp only [leads, decide_eq_true_eq]
    rfl
  -- The new request is compared with the first one of its kind. A request before it agrees with
  -- that first one, and so with the new one.
  · intro hnone' hnone he
    obtain ⟨q₀, hfirst⟩ := exists_first (p := claims queuePrefix (q.computed queuePrefix)) hq'
      (by simp [claims, hnone', he])
    obtain ⟨hq₀, hnone₀, he₀⟩ := of_find?_claims hfirst
    calc q'.transition = q₀.transition :=
          (hp.compatible q' hq' q₀ hq₀).owner hnone' hnone₀ (he.trans he₀)
      _ = q.transition := howned hnone q₀ hfirst
  · intro hw ht
    obtain ⟨q₀, hfirst⟩ := exists_first
      (p := leads (Routing.slug q.workflow) (Routing.slug q.transition)) hq' (by simp [leads, hw, ht])
    obtain ⟨hq₀, hw₀, ht₀⟩ := of_find?_leads hfirst
    have hget : r₁.map.get? (q.route queuePrefix).workflow (q.route queuePrefix).transition =
        some (q₀.route queuePrefix).address := by
      rw [hmap, h.route]
      exact congrArg _ hfirst
    calc (q'.route queuePrefix).address = (q₀.route queuePrefix).address :=
          (hp.compatible q' hq' q₀ hq₀).route (hw.trans hw₀) (ht.trans ht₀)
      _ = (q.route queuePrefix).address := hrouted _ hget

theorem exists_add (h : Describes queuePrefix qs r) (hp : Plannable queuePrefix (qs ++ [q])) :
    ∃ r', r.add queuePrefix q = .ok r' := by
  obtain ⟨_, hnamed, hcompatible⟩ := plannable_concat_iff.1 hp
  have hown : ∃ r₁, r.own queuePrefix q = .ok r₁ := by
    unfold own
    cases htransport : q.transport with
    | some transport => exact ⟨r, rfl⟩
    | none =>
      refine exists_claim fun w t ht => ?_
      rw [h.owner] at ht
      obtain ⟨q₀, hfirst, he⟩ := Option.map_eq_some_iff.1 ht
      obtain ⟨hq₀, hnone₀, he₀⟩ := of_find?_claims hfirst
      rw [← (hcompatible q₀ hq₀).owner hnone₀ htransport he₀.symm]
      exact (Prod.mk.inj he).2.symm
  obtain ⟨r₁, hown⟩ := hown
  have hput : ∃ r', r₁.put (q.route queuePrefix).workflow (q.route queuePrefix).transition
      (q.route queuePrefix).address = .ok r' := by
    refine exists_put fun previous hprevious => ?_
    rw [(own_ok h hown).1, h.route] at hprevious
    obtain ⟨q₀, hfirst, rfl⟩ := Option.map_eq_some_iff.1 hprevious
    obtain ⟨hq₀, hw₀, ht₀⟩ := of_find?_leads hfirst
    exact (hcompatible q₀ hq₀).route hw₀.symm ht₀.symm
  obtain ⟨r', hput⟩ := hput
  exact ⟨r', add_eq_ok_iff.2 ⟨hnamed, r₁, hown, hput⟩⟩

/-! ## Adding all requests -/

theorem describes_of_foldlM (done : List QueueRequest) (h : Describes queuePrefix done r)
    (hp : Plannable queuePrefix done) (hrun : qs.foldlM (add queuePrefix) r = .ok r') :
    Describes queuePrefix (done ++ qs) r' ∧ Plannable queuePrefix (done ++ qs) := by
  induction qs generalizing done r with
  | nil =>
    cases hrun
    rw [List.append_nil]
    exact ⟨h, hp⟩
  | cons q qs ih =>
    rw [List.foldlM_cons] at hrun
    cases hadd : r.add queuePrefix q with
    | error e =>
      rw [hadd] at hrun
      cases hrun
    | ok r₁ =>
      rw [hadd] at hrun
      obtain ⟨h₁, hp₁⟩ := describes_of_add h hp hadd
      rw [List.append_cons]
      exact ih (done ++ [q]) h₁ hp₁ hrun

theorem exists_foldlM (done : List QueueRequest) (h : Describes queuePrefix done r)
    (hp : Plannable queuePrefix (done ++ qs)) : ∃ r', qs.foldlM (add queuePrefix) r = .ok r' := by
  induction qs generalizing done r with
  | nil => exact ⟨r, rfl⟩
  | cons q qs ih =>
    rw [List.append_cons] at hp
    have hq : Plannable queuePrefix (done ++ [q]) := hp.subset (List.subset_append_left ..)
    obtain ⟨r₁, hadd⟩ := exists_add h hq
    have hdone : Plannable queuePrefix done := hq.subset (List.subset_append_left ..)
    obtain ⟨h₁, _⟩ := describes_of_add h hdone hadd
    obtain ⟨r', hrun⟩ := ih (done ++ [q]) h₁ hp
    refine ⟨r', ?_⟩
    rw [List.foldlM_cons, hadd]
    exact hrun

end Routes

/-- **A plan describes its requests.** -/
theorem describes_of_planRoutes {r : Routes} (h : planRoutes queuePrefix qs = .ok r) :
    r.Describes queuePrefix qs ∧ Plannable queuePrefix qs :=
  Routes.describes_of_foldlM [] (Routes.describes_nil queuePrefix) ⟨by simp, by simp⟩ h

/-- **There is a plan exactly when no two requests are in conflict.** -/
theorem exists_planRoutes_iff :
    (∃ r, planRoutes queuePrefix qs = .ok r) ↔ Plannable queuePrefix qs :=
  ⟨fun ⟨_, h⟩ => (describes_of_planRoutes h).2,
    fun h => Routes.exists_foldlM [] (Routes.describes_nil queuePrefix) h⟩

theorem Routes.Describes.get?_eq_some_iff {r : Routes} (h : r.Describes queuePrefix qs)
    (hp : Plannable queuePrefix qs) {w t a : String} :
    r.map.get? w t = some a ↔ ∃ q ∈ qs, q.route queuePrefix = ⟨w, t, a⟩ := by
  rw [h.route]
  constructor
  · intro hget
    obtain ⟨q, hfirst, rfl⟩ := Option.map_eq_some_iff.1 hget
    obtain ⟨hq, rfl, rfl⟩ := of_find?_leads hfirst
    exact ⟨q, hq, rfl⟩
  · rintro ⟨q, hq, he⟩
    cases he
    obtain ⟨q₀, hfirst⟩ := exists_first
      (p := leads (Routing.slug q.workflow) (Routing.slug q.transition)) hq (by simp [leads])
    obtain ⟨hq₀, hw, ht⟩ := of_find?_leads hfirst
    rw [hfirst]
    exact congrArg some ((hp.compatible q₀ hq₀ q hq).route hw.symm ht.symm)

/-- **The order of the requests does not matter**: the same requests give the same routes, or none. -/
theorem planRoutes_eq_of_mem_iff {qs' : List QueueRequest} (same : ∀ q, q ∈ qs ↔ q ∈ qs') :
    ((planRoutes queuePrefix qs).map Routes.map).toOption =
      ((planRoutes queuePrefix qs').map Routes.map).toOption := by
  have hplannable : Plannable queuePrefix qs ↔ Plannable queuePrefix qs' :=
    ⟨fun h => h.subset fun q hq => (same q).2 hq, fun h => h.subset fun q hq => (same q).1 hq⟩
  cases h : planRoutes queuePrefix qs with
  | error e =>
    cases h' : planRoutes queuePrefix qs' with
    | error e' => rfl
    | ok r' =>
      obtain ⟨r, hr⟩ := exists_planRoutes_iff.2 (hplannable.2 (describes_of_planRoutes h').2)
      cases h.symm.trans hr
  | ok r =>
    obtain ⟨hr, hp⟩ := describes_of_planRoutes h
    obtain ⟨r', h'⟩ := exists_planRoutes_iff.2 (hplannable.1 hp)
    obtain ⟨hr', hp'⟩ := describes_of_planRoutes h'
    have hmap : r.map = r'.map := by
      refine RouteMap.ext_get? hr.filled hr'.filled fun w t => Option.ext fun a => ?_
      simp only [hr.get?_eq_some_iff hp, hr'.get?_eq_some_iff hp', same]
    rw [h']
    exact congrArg some hmap

end WorkflowEngine
