import WorkflowEngine.Proofs.Declaration.Codec
import WorkflowEngine.Proofs.Declaration.NormalForm

/-!
# What counts where a key is declared twice

The keys of a place or a transition may stand beside its name, under `metadata`, or loose. The one beside
the name counts before the one under the metadata, and that before a loose one. What the known keys say
goes to their own fields, and all other keys become extensions with the values they have.

* `SaysText`, `SaysNames`: what the value of a key says, `textAt_eq_ok_iff`, `nextNames_eq_ok_iff`;
* `DetailedPlace.Merges`, `DeclaredTransition.Merges`: a place or a transition says what its declaration
  does;
* `get?_merged`, `get?_extensions`: the loose map of a declared place or transition, by keys;
* `DetailedPlace.merges_of_compile`, `DeclaredTransition.merges_of_compile`;
* **`Declaration.merged_of_compile`**: so do all places and transitions of a compiled declaration, each
  by its own keys only.
-/

namespace WorkflowEngine

open SortedMap (ofList)

/-! ## What a value says -/

/-- **What the value of a text key says**: null is none, and a number is its written form. -/
inductive SaysText : Option Json → Option String → Prop
  | absent : SaysText none none
  | null : SaysText (some .null) none
  | text (s : String) : SaysText (some (.string s)) (some s)
  | number (n : Number) : SaysText (some (.number n)) (some n.text)

/-- **What the value of `next` says**: no name, one, or a list of them, and none of them blank. -/
inductive SaysNames : Option Json → List TransitionName → Prop
  | absent : SaysNames none []
  | null : SaysNames (some .null) []
  | one {name : TransitionName} (named : Text.isBlankText name = false) :
      SaysNames (some (.string name)) [name]
  | many {names : List TransitionName} (named : ∀ name ∈ names, Text.isBlankText name = false) :
      SaysNames (some (.ofStrings names)) names

variable {m : SortedMap Json} {key : String}

theorem textAt_eq_ok_iff {text : Option String} :
    textAt m key = .ok text ↔ SaysText (m.get? key) text := by
  unfold textAt
  generalize m.get? key = value
  constructor
  · intro h
    cases value with
    | none =>
      cases h
      exact .absent
    | some value =>
      cases value with
      | null =>
        cases h
        exact .null
      | string s =>
        cases h
        exact .text s
      | number n =>
        cases h
        exact .number n
      | _ => cases h
  · intro h
    cases h <;> rfl

theorem saysText_of_textAt {value : Option Json} {text : Option String} (hget : m.get? key = value)
    (h : textAt m key = .ok text) : SaysText value text := hget ▸ textAt_eq_ok_iff.1 h

theorem flagAt_eq_ok {flag : Bool} (h : flagAt m key = .ok flag) :
    flag = true ↔ m.get? key = some (.bool true) := by
  unfold flagAt at h
  generalize m.get? key = value at h ⊢
  cases value with
  | none =>
    cases h
    simp
  | some value =>
    cases value with
    | null | bool =>
      cases h
      simp
    | _ => cases h

theorem eq_map_of_mapM_nextItem {items : List Json} {written : List String}
    (h : items.mapM nextItem = .ok written) : items = written.map .string := by
  have hall := forall₂_of_mapM_ok h
  clear h
  induction hall with
  | nil => rfl
  | @cons item _ _ _ hitem _ ih =>
    cases item with
    | string =>
      cases hitem
      rw [List.map_cons, ← ih]
    | _ => cases hitem

theorem eq_of_mapM_transitionName {written names : List String}
    (h : written.mapM (fun name => (transitionName name).mapError fun _ => MetadataError.blankName) =
      .ok names) : names = written := by
  have hall := forall₂_of_mapM_ok h
  clear h
  induction hall with
  | nil => rfl
  | cons hname _ ih => rw [ih, (checkName_eq_ok_iff.1 (mapError_eq_ok_iff.1 hname)).1]

theorem nextNames_eq_ok_iff {names : List TransitionName} :
    nextNames ((m.get? key).getD .null) = .ok names ↔ SaysNames (m.get? key) names := by
  generalize m.get? key = value
  constructor
  · intro h
    have named := named_of_nextNames h
    unfold nextNames at h
    cases value with
    | none =>
      cases h
      exact .absent
    | some value =>
      cases value with
      | null =>
        cases h
        exact .null
      | string name =>
        obtain ⟨written, hwritten, hchecked⟩ := bind_eq_ok_iff.1 h
        cases hwritten
        obtain rfl := eq_of_mapM_transitionName hchecked
        exact .one (named name List.mem_cons_self)
      | array items =>
        obtain ⟨written, hwritten, hchecked⟩ := bind_eq_ok_iff.1 h
        obtain rfl := eq_of_mapM_transitionName hchecked
        rw [eq_map_of_mapM_nextItem hwritten]
        exact .many named
      | _ => cases h
  · intro h
    cases h with
    | absent | null => rfl
    | one named =>
      have hone : transitionName _ = .ok _ := checkName_eq_ok_iff.2 ⟨rfl, named⟩
      simp only [Option.getD_some, nextNames, bind, Except.bind, List.mapM_cons, List.mapM_nil, hone]
      rfl
    | many named => exact nextNames_ofStrings named

theorem saysNames_of_nextNames {value : Option Json} {names : List TransitionName}
    (hget : m.get? key = value) (h : nextNames ((m.get? key).getD .null) = .ok names) :
    SaysNames value names := hget ▸ nextNames_eq_ok_iff.1 h

theorem get?_mergedMetadata (metadata loose : SortedMap Json) (known : List (String × Json))
    (k : String) :
    (mergedMetadata metadata loose known).get? k =
      ((ofList known).get? k).or ((metadata.get? k).or (loose.get? k)) := by
  rw [mergedMetadata, SortedMap.get?_overlay, SortedMap.get?_overlay]

/-! ## Places -/

namespace DetailedPlace

/-- **A place says what its declaration does**: under a known key what stands beside its name, else what
stands under `metadata`; and every other key is an extension. -/
structure Merges (p : DetailedPlace) (place : Place) : Prop where
  name : place.name = p.name
  info : SaysText ((p.info.map .string).or (p.metadata.get? "info")) place.metadata.info
  description : SaysText ((p.description.map .string).or (p.metadata.get? "description"))
    place.metadata.description
  backgroundColor : SaysText ((p.backgroundColor.map .string).or (p.metadata.get? "backgroundColor"))
    place.metadata.backgroundColor
  next : SaysNames ((p.next.map NameList.toJson).or (p.metadata.get? "next")) place.metadata.next
  extensions : ∀ k, place.metadata.extensions.get? k =
    if k ∈ ["info", "description", "backgroundColor", "next"] then none
    else (p.metadata.get? k).or (p.loose.get? k)

/-- What stands under the known keys of a place's metadata. -/
def ownFields (p : DetailedPlace) : List (String × Json) :=
  textField "info" p.info ++ textField "description" p.description ++
    textField "backgroundColor" p.backgroundColor ++ nextField p.next

theorem get?_ownFields (p : DetailedPlace) :
    (ofList p.ownFields).get? "info" = p.info.map .string ∧
    (ofList p.ownFields).get? "description" = p.description.map .string ∧
    (ofList p.ownFields).get? "backgroundColor" = p.backgroundColor.map .string ∧
    (ofList p.ownFields).get? "next" = p.next.map NameList.toJson := by
  simp [ownFields, textField, nextField, SortedMap.get?_ofList_append,
    SortedMap.get?_ofList_toList_map]

theorem get?_ownFields_of_notMem (p : DetailedPlace) {k : String}
    (hk : k ∉ PlaceMetadata.knownKeys) : (ofList p.ownFields).get? k = none := by
  simp only [PlaceMetadata.knownKeys, List.mem_cons, List.not_mem_nil, not_or] at hk
  simp [ownFields, textField, nextField, SortedMap.get?_ofList_append,
    SortedMap.get?_ofList_toList_map, hk]

theorem get?_extensions (p : DetailedPlace) (k : String) :
    (withoutKeys p.merged PlaceMetadata.knownKeys).get? k =
      if k ∈ PlaceMetadata.knownKeys then none else (p.metadata.get? k).or (p.loose.get? k) := by
  rw [get?_withoutKeys]
  by_cases hk : k ∈ PlaceMetadata.knownKeys
  · rw [if_pos hk, if_pos hk]
  · have hmerged := get?_mergedMetadata p.metadata p.loose p.ownFields k
    rw [get?_ownFields_of_notMem p hk, Option.none_or] at hmerged
    rw [if_neg hk, if_neg hk]
    exact hmerged

variable {p : DetailedPlace} {place : Place} (apart : ∀ k ∈ p.loose.keys, k ∉ knownKeys)

include apart

theorem get?_merged {k : String} {own : Option Json} (hk : k ∈ PlaceMetadata.knownKeys)
    (hown : (ofList p.ownFields).get? k = own) : p.merged.get? k = own.or (p.metadata.get? k) := by
  have hloose : p.loose.get? k = none :=
    Record.get?_loose apart ((by decide : PlaceMetadata.knownKeys ⊆ knownKeys) hk)
  have hmerged := get?_mergedMetadata p.metadata p.loose p.ownFields k
  rwa [hloose, Option.or_none, hown] at hmerged

theorem merges_of_compile (h : p.compile = .ok place) : p.Merges place := by
  obtain ⟨hname, _, hmetadata⟩ := compile_eq_ok h
  obtain ⟨hinfo, hdescription, hcolor, hnext, hextensions⟩ := PlaceMetadata.ofMap_eq_ok hmetadata
  obtain ⟨info, description, color, next⟩ := p.get?_ownFields
  refine ⟨hname, saysText_of_textAt (get?_merged apart (by decide) info) hinfo,
    saysText_of_textAt (get?_merged apart (by decide) description) hdescription,
    saysText_of_textAt (get?_merged apart (by decide) color) hcolor,
    saysNames_of_nextNames (get?_merged apart (by decide) next) hnext, fun k => ?_⟩
  rw [hextensions]
  exact p.get?_extensions k

end DetailedPlace

/-! ## Transitions -/

namespace DeclaredTransition

/-- **A transition says what its declaration does**: the known keys as those of a place, a transport
unless it is blank, a flag that is set in either way, and the guard of its own before the one under
`metadata`, unless it is blank. -/
structure Merges (t : DeclaredTransition) (u : Transition) : Prop where
  name : u.name = t.name
  info : SaysText ((t.info.map .string).or (t.metadata.get? "info")) u.metadata.info
  description : SaysText ((t.description.map .string).or (t.metadata.get? "description"))
    u.metadata.description
  transport : ∃ written,
    SaysText ((t.transport.map .string).or (t.metadata.get? "transport")) written ∧
      u.metadata.transport = written.bind Text.nonBlank?
  next : SaysNames ((t.next.map NameList.toJson).or (t.metadata.get? "next")) u.metadata.next
  async : u.metadata.async = true ↔ t.async = true ∨ t.metadata.get? "async" = some (.bool true)
  guard : u.guard = (t.guard.bind Text.nonBlank?).or
    (((t.metadata.get? "guard").bind Json.string?).bind Text.nonBlank?)
  extensions : ∀ k, u.metadata.extensions.get? k =
    if k ∈ ["guard", "info", "description", "async", "transport", "next"] then none
    else (t.metadata.get? k).or (t.loose.get? k)

theorem get?_ownFields (t : DeclaredTransition) :
    (ofList t.ownFields).get? "info" = t.info.map .string ∧
    (ofList t.ownFields).get? "description" = t.description.map .string ∧
    (ofList t.ownFields).get? "async" = none ∧
    (ofList t.ownFields).get? "transport" = t.transport.map .string ∧
    (ofList t.ownFields).get? "next" = t.next.map NameList.toJson := by
  simp [ownFields, textField, nextField, SortedMap.get?_ofList_append,
    SortedMap.get?_ofList_toList_map]

theorem get?_ownFields_of_notMem (t : DeclaredTransition) {k : String}
    (hk : k ∉ TransitionMetadata.knownKeys) : (ofList t.ownFields).get? k = none := by
  simp only [TransitionMetadata.knownKeys, List.mem_cons, List.not_mem_nil, not_or] at hk
  simp [ownFields, textField, nextField, SortedMap.get?_ofList_append,
    SortedMap.get?_ofList_toList_map, hk]

theorem get?_merged_eq (t : DeclaredTransition) {k : String} (hk : k ≠ "guard") :
    t.merged.get? k =
      ((ofList t.ownFields).get? k).or ((t.metadata.get? k).or (t.loose.get? k)) := by
  rw [merged, SortedMap.get?_overlay, SortedMap.get?_erase, if_neg hk, get?_mergedMetadata,
    SortedMap.get?_ofList_nil, Option.none_or]

/-- **What becomes an extension** of a transition; the guard does not. -/
theorem get?_extensions (t : DeclaredTransition) (k : String) :
    (withoutKeys t.merged TransitionMetadata.knownKeys).get? k =
      if k ∈ "guard" :: TransitionMetadata.knownKeys then none
      else (t.metadata.get? k).or (t.loose.get? k) := by
  rw [get?_withoutKeys]
  by_cases hguard : k = "guard"
  · rw [hguard, get?_guard_merged, ite_self, if_pos List.mem_cons_self]
  · by_cases hk : k ∈ TransitionMetadata.knownKeys
    · rw [if_pos hk, if_pos (List.mem_cons_of_mem _ hk)]
    · have hnone : k ∉ "guard" :: TransitionMetadata.knownKeys := by
        rw [List.mem_cons, not_or]
        exact ⟨hguard, hk⟩
      rw [if_neg hk, if_neg hnone, get?_merged_eq t hguard, get?_ownFields_of_notMem t hk,
        Option.none_or]

variable {t : DeclaredTransition} {u : Transition} (apart : ∀ k ∈ t.loose.keys, k ∉ knownKeys)

include apart

theorem get?_merged {k : String} {own : Option Json} (hk : k ∈ TransitionMetadata.knownKeys)
    (hown : (ofList t.ownFields).get? k = own) : t.merged.get? k = own.or (t.metadata.get? k) := by
  have hloose : t.loose.get? k = none :=
    Record.get?_loose apart ((by decide : TransitionMetadata.knownKeys ⊆ knownKeys) hk)
  have hguard : k ≠ "guard" := by
    rintro rfl
    revert hk
    decide
  rw [get?_merged_eq t hguard, hloose, Option.or_none, hown]

theorem eq_of_liftedGuard {lifted : Option String}
    (h : liftedGuard (mergedMetadata t.metadata t.loose []) = .ok lifted) :
    lifted = (t.metadata.get? "guard").bind Json.string? := by
  have hloose : t.loose.get? "guard" = none := Record.get?_loose apart (by decide)
  unfold liftedGuard at h
  rw [get?_mergedMetadata, SortedMap.get?_ofList_nil, Option.none_or, hloose, Option.or_none] at h
  cases hvalue : t.metadata.get? "guard" with
  | none =>
    rw [hvalue] at h
    cases h
    rfl
  | some value =>
    rw [hvalue] at h
    cases value with
    | null | string =>
      cases h
      rfl
    | _ => cases h

theorem merges_of_compile (h : t.compile = .ok u) : t.Merges u := by
  obtain ⟨lifted, metadata, sources, targets, _, hlifted, hmetadata, rfl⟩ := compile_eq_ok h
  obtain ⟨hinfo, hdescription, hasync, ⟨written, hwritten, htransport⟩, hnext, hextensions⟩ :=
    TransitionMetadata.ofMap_eq_ok hmetadata
  obtain ⟨info, description, async, transport, next⟩ := t.get?_ownFields
  refine ⟨rfl, saysText_of_textAt (get?_merged apart (by decide) info) hinfo,
    saysText_of_textAt (get?_merged apart (by decide) description) hdescription,
    ⟨written, saysText_of_textAt (get?_merged apart (by decide) transport) hwritten, htransport⟩,
    saysNames_of_nextNames (get?_merged apart (by decide) next) hnext, ?_, ?_, fun k => ?_⟩
  · have hflag := flagAt_eq_ok hasync
    rw [get?_merged apart (by decide) async, Option.none_or] at hflag
    rw [← hflag, Bool.or_eq_true, or_comm]
  · rw [eq_of_liftedGuard apart hlifted]
  · change metadata.extensions.get? k = _
    rw [hextensions]
    exact t.get?_extensions k

end DeclaredTransition

/-! ## Declarations -/

namespace Declaration

/-- **Everything that is declared is merged**, and nothing else: each place and each transition of a
compiled declaration says what its own declaration does, and what it is compiled to does not depend on
the rest of the declaration. -/
theorem merged_of_compile {d : Declaration} {definition : Definition}
    (compiled : d.compile = .ok definition) :
    List.Forall₂ (fun p place =>
        (∀ k ∈ p.details.loose.keys, k ∉ DetailedPlace.knownKeys) → p.details.Merges place)
      d.places definition.places ∧
    List.Forall₂ (fun t u =>
        (∀ k ∈ t.loose.keys, k ∉ DeclaredTransition.knownKeys) → t.Merges u)
      d.transitions definition.transitions ∧
    ∀ {d' : Declaration} {definition' : Definition}, d'.compile = .ok definition' → ∀ i j : Nat,
      (d.places[i]? = d'.places[j]? → definition.places[i]? = definition'.places[j]?) ∧
      (d.transitions[i]? = d'.transitions[j]? →
        definition.transitions[i]? = definition'.transitions[j]?) := by
  obtain ⟨_, _, _, hplaces, htransitions, _⟩ := compile_eq_ok compiled
  refine ⟨?_, ?_, ?_⟩
  · have heach := List.forall₂_map_left_iff.1 (forall₂_of_mapM_ok hplaces)
    exact heach.imp fun _ _ h apart => DetailedPlace.merges_of_compile apart h
  · exact (forall₂_of_mapM_ok htransitions).imp fun _ _ h apart =>
      DeclaredTransition.merges_of_compile apart h
  · intro d' definition' compiled' i j
    obtain ⟨_, _, _, hplaces', htransitions', _⟩ := compile_eq_ok compiled'
    constructor
    · intro same
      rw [getElem?_of_mapM_ok hplaces, getElem?_of_mapM_ok hplaces', List.getElem?_map,
        List.getElem?_map, same]
    · intro same
      rw [getElem?_of_mapM_ok htransitions, getElem?_of_mapM_ok htransitions', same]

/-- A workflow with keys in all three ways: a loose priority under a declared one, a number as text, a
blank guard above another one, and a blank transport above one that is not. -/
def palette : Declaration where
  header := { name := some "Palette" }
  places := [.detailed
    { name := "red"
      info := some "warm"
      metadata := .ofList [("info", .ofInt 1), ("description", .ofInt 7), ("owner", .string "ops")]
      loose := .ofList [("color", .string "#f00")] }, .bare "blue"]
  transitions := [
    { name := "cool"
      sources := .one "red"
      targets := .one "blue"
      guard := some "  "
      transport := some " "
      next := some (.one "warm")
      metadata := .ofList [("async", .bool true), ("guard", .string "ready"), ("next", .null),
        ("priority", .ofInt 9), ("transport", .string "slow")]
      loose := .ofList [("priority", .ofInt 5), ("weight", .ofInt 2)] },
    { name := "warm"
      sources := .one "blue"
      targets := .one "red"
      loose := .ofList [("priority", .ofInt 5)] }]

theorem merged_of_compile_palette :
    let definition : Definition :=
      { name := "Palette"
        places := [
          { name := "red"
            metadata :=
              { info := some "warm"
                description := some "7"
                extensions := .ofList [("color", .string "#f00"), ("owner", .string "ops")] } },
          { name := "blue" }]
        transitions := [
          { name := "cool"
            sources := ["red"]
            targets := ["blue"]
            guard := some "ready"
            metadata :=
              { async := true
                next := ["warm"]
                extensions := .ofList [("priority", .ofInt 9), ("weight", .ofInt 2)] } },
          { name := "warm"
            sources := ["blue"]
            targets := ["red"]
            metadata := { extensions := .ofList [("priority", .ofInt 5)] } }]
        initialPlaces := ["red"]
        supports := ["Palette"] }
    palette.compile = .ok definition ∧
      List.Forall₂ (fun p place => p.details.Merges place) palette.places definition.places ∧
      List.Forall₂ DeclaredTransition.Merges palette.transitions definition.transitions := by
  intro definition
  have compiled : palette.compile = .ok definition := by decide +kernel
  have places_apart : ∀ p ∈ palette.places, ∀ k ∈ p.details.loose.keys,
      k ∉ DetailedPlace.knownKeys := by decide +kernel
  have transitions_apart : ∀ t ∈ palette.transitions, ∀ k ∈ t.loose.keys,
      k ∉ DeclaredTransition.knownKeys := by decide +kernel
  obtain ⟨places, transitions, _⟩ := merged_of_compile compiled
  refine ⟨compiled, ?_, ?_⟩
  · exact ((List.forall₂_and_left _ _).2 ⟨places_apart, places⟩).imp fun _ _ h => h.2 h.1
  · exact ((List.forall₂_and_left _ _).2 ⟨transitions_apart, transitions⟩).imp
      fun _ _ h => h.2 h.1

end Declaration

end WorkflowEngine
