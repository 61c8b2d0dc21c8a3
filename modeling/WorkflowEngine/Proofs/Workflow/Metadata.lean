import WorkflowEngine.Proofs.Collection.Outcome
import WorkflowEngine.Proofs.Collection.SortedMap
import WorkflowEngine.Workflow.Metadata

/-!
# Metadata from loose maps

What reading a loose map gives: under `next` there are names that are not blank, and what is kept as
an extension is what stood under a key that is not known.

* `named_of_nextNames`, `nextNames_ofStrings`: the names under `next`;
* `get?_withoutKeys`: a map without some keys;
* `PlaceMetadata.ofMap_eq_ok`, `TransitionMetadata.ofMap_eq_ok`: where metadata come from;
* `PlaceMetadata.WellFormed`, `TransitionMetadata.WellFormed`: extensions apart from known keys, and
  names under `next` that are not blank;
* **`PlaceMetadata.wellFormed_of_ofMap`**, **`TransitionMetadata.wellFormed_of_ofMap`**.
-/

namespace WorkflowEngine

/-! ## Names -/

theorem checkName_eq_ok_iff {kind : BlankName} {name checked : String} :
    checkName kind name = .ok checked ↔ checked = name ∧ Text.isBlankText name = false := by
  unfold checkName
  cases Text.isBlankText name <;> simp [eq_comm]

theorem mapM_nextItem (names : List String) :
    (names.map Json.string).mapM nextItem = .ok names := by
  induction names with
  | nil => rfl
  | cons name names ih =>
    rw [List.map_cons, List.mapM_cons, ih]
    rfl

theorem exists_of_nextNames {value : Json} {names : List TransitionName}
    (h : nextNames value = .ok names) :
    ∃ written : List String, written.mapM
      (fun name => (transitionName name).mapError fun _ => MetadataError.blankName) = .ok names := by
  unfold nextNames at h
  cases value <;> exact (bind_eq_ok_iff.1 h).imp fun _ h => h.2

theorem named_of_nextNames {value : Json} {names : List TransitionName}
    (h : nextNames value = .ok names) : ∀ name ∈ names, Text.isBlankText name = false := by
  intro name hname
  obtain ⟨written, hwritten⟩ := exists_of_nextNames h
  obtain ⟨name', _, hname'⟩ := exists_of_mapM_ok hwritten name hname
  obtain ⟨rfl, notBlank⟩ := checkName_eq_ok_iff.1 (mapError_eq_ok_iff.1 hname')
  exact notBlank

theorem nextNames_ofStrings {names : List TransitionName}
    (named : ∀ name ∈ names, Text.isBlankText name = false) :
    nextNames (.ofStrings names) = .ok names := by
  refine bind_eq_ok_iff.2 ⟨names, mapM_nextItem names, ?_⟩
  dsimp only
  induction names with
  | nil => rfl
  | cons name names ih =>
    obtain ⟨hname, hnames⟩ := List.forall_mem_cons.1 named
    have hchecked : transitionName name = .ok name := checkName_eq_ok_iff.2 ⟨rfl, hname⟩
    rw [List.mapM_cons, hchecked, ih hnames]
    rfl

/-! ## Keys -/

theorem get?_withoutKeys (m : SortedMap Json) (keys : List String) (k : String) :
    (withoutKeys m keys).get? k = if k ∈ keys then none else m.get? k := by
  unfold withoutKeys
  induction keys generalizing m with
  | nil => rfl
  | cons key keys ih =>
    rw [List.foldl_cons, ih, SortedMap.get?_erase]
    by_cases hk : k = key <;> simp [hk]

theorem notMem_keys_withoutKeys {m : SortedMap Json} {keys : List String} :
    ∀ k ∈ (withoutKeys m keys).keys, k ∉ keys := by
  intro k hk hmem
  rw [SortedMap.mem_keys_iff, get?_withoutKeys, if_pos hmem] at hk
  cases hk

/-! ## Places -/

namespace PlaceMetadata

/-- **Metadata of a place with everything where it belongs**: no known key is an extension, and no
name under `next` is blank. -/
structure WellFormed (p : PlaceMetadata) : Prop where
  next_named : ∀ name ∈ p.next, Text.isBlankText name = false
  extensions_unknown : ∀ key ∈ p.extensions.keys, key ∉ knownKeys

variable {m : SortedMap Json} {p : PlaceMetadata}

theorem ofMap_eq_ok (h : ofMap m = .ok p) :
    textAt m "info" = .ok p.info ∧ textAt m "description" = .ok p.description ∧
      textAt m "backgroundColor" = .ok p.backgroundColor ∧
      nextNames ((m.get? "next").getD .null) = .ok p.next ∧
      p.extensions = withoutKeys m knownKeys := by
  unfold ofMap at h
  obtain ⟨info, hinfo, h⟩ := bind_eq_ok_iff.1 h
  obtain ⟨description, hdescription, h⟩ := bind_eq_ok_iff.1 h
  obtain ⟨color, hcolor, h⟩ := bind_eq_ok_iff.1 h
  obtain ⟨next, hnext, h⟩ := bind_eq_ok_iff.1 h
  cases h
  exact ⟨hinfo, hdescription, hcolor, hnext, rfl⟩

theorem wellFormed_of_ofMap (h : ofMap m = .ok p) : p.WellFormed := by
  obtain ⟨_, _, _, next, extensions⟩ := ofMap_eq_ok h
  exact ⟨named_of_nextNames next, extensions ▸ notMem_keys_withoutKeys⟩

end PlaceMetadata

/-! ## Transitions -/

namespace TransitionMetadata

/-- **Metadata of a transition with everything where it belongs.** -/
structure WellFormed (t : TransitionMetadata) : Prop where
  next_named : ∀ name ∈ t.next, Text.isBlankText name = false
  extensions_unknown : ∀ key ∈ t.extensions.keys, key ∉ knownKeys

variable {m : SortedMap Json} {t : TransitionMetadata}

theorem ofMap_eq_ok (h : ofMap m = .ok t) :
    textAt m "info" = .ok t.info ∧ textAt m "description" = .ok t.description ∧
      flagAt m "async" = .ok t.async ∧
      (∃ transport, textAt m "transport" = .ok transport ∧
        t.transport = transport.bind Text.nonBlank?) ∧
      nextNames ((m.get? "next").getD .null) = .ok t.next ∧
      t.extensions = withoutKeys m knownKeys := by
  unfold ofMap at h
  obtain ⟨info, hinfo, h⟩ := bind_eq_ok_iff.1 h
  obtain ⟨description, hdescription, h⟩ := bind_eq_ok_iff.1 h
  obtain ⟨async, hasync, h⟩ := bind_eq_ok_iff.1 h
  obtain ⟨transport, htransport, h⟩ := bind_eq_ok_iff.1 h
  obtain ⟨next, hnext, h⟩ := bind_eq_ok_iff.1 h
  cases h
  exact ⟨hinfo, hdescription, hasync, ⟨transport, htransport, rfl⟩, hnext, rfl⟩

theorem wellFormed_of_ofMap (h : ofMap m = .ok t) : t.WellFormed := by
  obtain ⟨_, _, _, _, next, extensions⟩ := ofMap_eq_ok h
  exact ⟨named_of_nextNames next, extensions ▸ notMem_keys_withoutKeys⟩

end TransitionMetadata

end WorkflowEngine
