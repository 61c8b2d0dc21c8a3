import WorkflowEngine.Proofs.Dispatch.Step

/-!
# What is kept of a subject

A subject belongs to one entity wherever it stands. A store gives it back with its entity, and with
where it stands in the workflows that are registered. A dispatcher that reads nothing else of a subject
cannot tell what is given back from what was stored.

* `Subject.SameEntity`: what chains leave alone of a subject;
* `Subject.Alike`, `Subject.KeptAs`: what the workflows of a registry go by, and what a store gives back;
* `IdentityStrategy.OfRecord`, `Reading.identity?_congr`: ways to an identity that go by the key and the
  attributes;
* **`Dispatcher.ReadsKept`**: dispatchers that read no more than is kept;
  `readsKept_of_recorded`: those that read the record of a subject;
* `ReadsKept.firstEnabled?`: what they can tell apart;
* `Dispatcher.Overlooks`, `ReadsKept.overlooks`: relations between subjects that make no difference;
* `Dispatcher.Identifies`: an identity for an entity, wherever it stands.
-/

namespace WorkflowEngine

/-- **Subjects of one entity**, wherever they stand. -/
structure Subject.SameEntity (s s' : Subject) : Prop where
  entityType : s'.entityType = s.entityType
  primaryKey : s'.primaryKey = s.primaryKey
  attributes : s'.attributes = s.attributes
  context : s'.context = s.context

/-- **Subjects that the workflows of a registry cannot tell apart.** -/
structure Subject.Alike (r : Registry) (s s' : Subject) : Prop where
  entityType : s'.entityType = s.entityType
  primaryKey : s'.primaryKey = s.primaryKey
  attributes : s'.attributes = s.attributes
  marking : ∀ name ∈ r.names, s'.marking name = s.marking name

/-- **What a store gives back of a subject**: its entity, and where it stands in the workflows that are
registered. -/
structure Subject.KeptAs (r : Registry) (s s' : Subject) : Prop extends s.SameEntity s' where
  marking : ∀ name ∈ r.names, s'.marking name = s.marking name

namespace Subject

variable {r : Registry} {d : Definition} {s s' s'' : Subject}

theorem SameEntity.refl (s : Subject) : s.SameEntity s := ⟨rfl, rfl, rfl, rfl⟩

theorem SameEntity.symm (h : s.SameEntity s') : s'.SameEntity s :=
  ⟨h.entityType.symm, h.primaryKey.symm, h.attributes.symm, h.context.symm⟩

theorem SameEntity.trans (h : s.SameEntity s') (h' : s'.SameEntity s'') : s.SameEntity s'' :=
  ⟨h'.entityType.trans h.entityType, h'.primaryKey.trans h.primaryKey,
    h'.attributes.trans h.attributes, h'.context.trans h.context⟩

theorem sameEntity_mark (s : Subject) (name : WorkflowName) (m : Marking) :
    s.SameEntity (s.mark name m) := ⟨rfl, rfl, rfl, rfl⟩

theorem sameEntity_fire (s : Subject) (d : Definition) (t : Transition) :
    s.SameEntity (fire s d t) := ⟨rfl, rfl, rfl, rfl⟩

theorem KeptAs.refl (r : Registry) (s : Subject) : s.KeptAs r s := ⟨.refl s, fun _ _ => rfl⟩

theorem KeptAs.symm (h : s.KeptAs r s') : s'.KeptAs r s :=
  ⟨h.toSameEntity.symm, fun name hname => (h.marking name hname).symm⟩

theorem KeptAs.trans (h : s.KeptAs r s') (h' : s'.KeptAs r s'') : s.KeptAs r s'' :=
  ⟨h.toSameEntity.trans h'.toSameEntity,
    fun name hname => (h'.marking name hname).trans (h.marking name hname)⟩

theorem KeptAs.alike (h : s.KeptAs r s') : s.Alike r s' :=
  ⟨h.entityType, h.primaryKey, h.attributes, h.marking⟩

theorem Alike.marking_eq (h : s.Alike r s') (hd : d ∈ r.definitions) :
    s'.marking d.name = s.marking d.name := h.marking d.name (List.mem_map_of_mem hd)

theorem Alike.fire (h : s.Alike r s') (hd : d ∈ r.definitions) (t : Transition) :
    (fire s d t).Alike r (fire s' d t) where
  entityType := h.entityType
  primaryKey := h.primaryKey
  attributes := h.attributes
  marking := by
    intro name hname
    by_cases hn : name = d.name
    · subst hn
      simp only [WorkflowEngine.fire, marking_mark_self, h.marking_eq hd]
    · rw [Dispatcher.marking_fire_of_ne hn, Dispatcher.marking_fire_of_ne hn, h.marking name hname]

theorem KeptAs.fire (h : s.KeptAs r s') (hd : d ∈ r.definitions) (t : Transition) :
    (fire s d t).KeptAs r (fire s' d t) where
  toSameEntity := ⟨h.entityType, h.primaryKey, h.attributes, h.context⟩
  marking := (h.alike.fire hd t).marking

end Subject

/-! ## Ways to an identity -/

/-- **A way to an identity that goes by the primary key and the attributes.** -/
def IdentityStrategy.OfRecord (i : IdentityStrategy) : Prop :=
  ∀ (r : Reading) {s s' : Subject}, r.primaryKey s' = r.primaryKey s →
    r.attributes s' = r.attributes s → i.resolve? r s' = i.resolve? r s

namespace IdentityStrategy

theorem ofRecord_primaryKey : primaryKey.OfRecord := fun _ _ _ hkey _ =>
  congrArg (Option.bind · PrimaryKey.identifier?) hkey

theorem ofRecord_field (name : String) : (field name).OfRecord := fun _ _ _ _ hattributes =>
  congrArg (fun attributes => (attributes.field? name).bind scalarIdentifier?) hattributes

theorem ofRecord_default : ∀ i ∈ defaultStrategies, i.OfRecord := by
  intro i hi
  rcases List.mem_cons.1 hi with rfl | hi
  · exact ofRecord_primaryKey
  · rw [List.mem_singleton.1 hi]
    exact ofRecord_field "id"

end IdentityStrategy

theorem Reading.identity?_congr {strategies : List IdentityStrategy}
    (ways : ∀ i ∈ strategies, i.OfRecord) (r : Reading) {s s' : Subject}
    (hkey : r.primaryKey s' = r.primaryKey s) (hattributes : r.attributes s' = r.attributes s) :
    r.identity? strategies s' = r.identity? strategies s := by
  induction strategies with
  | nil => rfl
  | cons i strategies ih =>
    obtain ⟨hi, hrest⟩ := List.forall_mem_cons.1 ways
    have hlater := ih hrest
    unfold identity? at hlater ⊢
    rw [List.findSome?_cons, List.findSome?_cons, hi r hkey hattributes, hlater]

theorem Subject.SameEntity.identity? {s s' : Subject} (h : s.SameEntity s') :
    s'.identity? defaultStrategies = s.identity? defaultStrategies :=
  Reading.identity?_congr IdentityStrategy.ofRecord_default {} h.primaryKey h.attributes

/-! ## Dispatchers that read what is kept -/

namespace Dispatcher

/-- **A dispatcher that reads no more than is kept** of a subject. -/
structure ReadsKept (x : Dispatcher) : Prop where
  attributes : ∀ {s s'}, s.Alike x.registry s' → x.reading.attributes s' = x.reading.attributes s
  context : ∀ {s s'}, s.KeptAs x.registry s' → x.reading.context s' = x.reading.context s
  identity? : ∀ {s s'}, s.Alike x.registry s' → x.identity? s' = x.identity? s

variable {x : Dispatcher} {d : Definition} {s s' : Subject}

/-- **A dispatcher that reads the record of a subject** reads what is kept. -/
theorem readsKept_of_recorded (recorded : x.reading = {}) (ways : ∀ i ∈ x.identity, i.OfRecord) :
    x.ReadsKept where
  attributes h := by
    rw [recorded]
    exact h.attributes
  context h := by
    rw [recorded]
    exact h.context
  identity? h := by
    rw [Dispatcher.identity?, Dispatcher.identity?, recorded]
    exact Reading.identity?_congr ways {} h.primaryKey h.attributes

namespace ReadsKept

variable (reads : x.ReadsKept) (h : s.Alike x.registry s') (registered : d ∈ x.registry.definitions)

include reads h registered

theorem isEnabled (t : Transition) : x.isEnabled s' d t = x.isEnabled s d t := by
  simp only [Dispatcher.isEnabled, reads.attributes h, h.marking_eq registered]

theorem firstEnabled? (names : List TransitionName) :
    x.firstEnabled? s' d names = x.firstEnabled? s d names := by
  have hfun : x.isEnabled s' d = x.isEnabled s d := funext (reads.isEnabled h registered)
  simp only [Dispatcher.firstEnabled?, hfun]

end ReadsKept

/-- **A dispatcher overlooks a relation between subjects**: it does not tell from each other what is
related, and what fires leaves it related. -/
structure Overlooks (x : Dispatcher) (d : Definition) (S : Subject → Subject → Prop) : Prop where
  keptAs : ∀ {s s'}, S s s' → s.KeptAs x.registry s'
  firstEnabled? : ∀ {s s'}, S s s' → ∀ names, x.firstEnabled? s' d names = x.firstEnabled? s d names
  context : ∀ {s s'}, S s s' → x.reading.context s' = x.reading.context s
  identity? : ∀ {s s'}, S s s' → x.identity? s' = x.identity? s
  fire : ∀ {s s'}, S s s' → ∀ t, S (fire s d t) (fire s' d t)

theorem overlooks_eq (x : Dispatcher) (d : Definition) : x.Overlooks d Eq where
  keptAs := by
    rintro s _ rfl
    exact .refl _ s
  firstEnabled? := by
    rintro s _ rfl _
    rfl
  context := congrArg _ ∘ Eq.symm
  identity? := congrArg _ ∘ Eq.symm
  fire := by
    rintro s _ rfl _
    rfl

/-- **A dispatcher that reads no more than is kept overlooks what else a store changes.** -/
theorem ReadsKept.overlooks (reads : x.ReadsKept) (registered : d ∈ x.registry.definitions) :
    x.Overlooks d (Subject.KeptAs x.registry) where
  keptAs := id
  firstEnabled? h := reads.firstEnabled? h.alike registered
  context h := reads.context h
  identity? h := reads.identity? h.alike
  fire h t := h.fire registered t

/-- **A dispatcher finds an identity for an entity**, wherever that stands. -/
def Identifies (x : Dispatcher) (s : Subject) (id : String) : Prop :=
  ∀ s', s.SameEntity s' → x.identity? s' = some id

theorem identifies_of_recorded (recorded : x.reading = {}) (ways : ∀ i ∈ x.identity, i.OfRecord)
    {id : String} (h : x.identity? s = some id) : x.Identifies s id := by
  intro s' same
  rw [← h, identity?, identity?, recorded]
  exact Reading.identity?_congr ways {} same.primaryKey same.attributes

namespace Identifies

variable {id : String} (h : x.Identifies s id)

include h

theorem identity? : x.identity? s = some id := h s (.refl s)

theorem of_sameEntity (same : s.SameEntity s') : x.Identifies s' id := fun _ same' =>
  h _ (same.trans same')

theorem of_alike (reads : x.ReadsKept) (alike : s.Alike x.registry s') : x.Identifies s' id := by
  intro s'' same
  let moved : Subject := { s with markings := s''.markings }
  have hmoved : moved.Alike x.registry s'' :=
    ⟨same.entityType.trans alike.entityType, same.primaryKey.trans alike.primaryKey,
      same.attributes.trans alike.attributes, fun _ _ => rfl⟩
  rw [reads.identity? hmoved]
  exact h moved ⟨rfl, rfl, rfl, rfl⟩

end Identifies

end Dispatcher

end WorkflowEngine
