import WorkflowEngine.Proofs.Document.Plain
import WorkflowEngine.Proofs.Document.Records
import WorkflowEngine.Proofs.Workflow.Metadata
import WorkflowEngine.Workflow.Codec

/-!
# Definitions read back

What is left out of a written definition has its default when it is read, and extensions stand beside
the known keys of metadata without taking one of them. So a definition is read as it was, as long as its
metadata are well-formed and their values are kept; whatever is read from a plain document is like that.

* `PlaceMetadata.Readable`, `TransitionMetadata.Readable`, `Definition.Readable`: what can be read back;
* `PlaceMetadata.knownFields`, `TransitionMetadata.knownFields`: what is written under the known keys;
* `ofDocument?_toJson`: metadata, places, transitions and kinds are read as they were;
* **`Definition.ofDocument?_toJson`**: so are definitions;
* **`Definition.readable_of_ofDocument?`**: what is read can be read back.
-/

namespace WorkflowEngine

open Document (ofJson)
open SortedMap (ofList)

/-! ## Fields that may be left out -/

theorem forall_mem_textField {known : List String} {key : String} (hkey : key ∈ known)
    (value : Option String) : ∀ e ∈ textField key value, e.1 ∈ known ∧ e.2.Kept := by
  intro e he
  obtain ⟨s, _, rfl⟩ := List.mem_map.1 he
  exact ⟨hkey, Json.kept_string s⟩

theorem forall_mem_namesField {known : List String} {key : String} (hkey : key ∈ known)
    (names : List String) : ∀ e ∈ namesField key names, e.1 ∈ known ∧ e.2.Kept := by
  intro e he
  unfold namesField at he
  split at he
  · cases he
  · obtain rfl := List.mem_singleton.1 he
    exact ⟨hkey, Json.kept_ofStrings names⟩

theorem kept_withoutKeys {m : SortedMap Json} (h : (Json.ofMap m).Kept) (keys : List String) :
    (Json.ofMap (withoutKeys m keys)).Kept := by
  refine Json.kept_ofMap_iff.2 fun k v hv => ?_
  rw [get?_withoutKeys] at hv
  split at hv
  · cases hv
  · exact Json.kept_of_get? h hv

theorem nextOfDocument?_ofStrings {names : List TransitionName}
    (named : ∀ name ∈ names, Text.isBlankText name = false) :
    nextOfDocument? (ofJson (.ofStrings names)) = some names := by
  have hvalue : (ofJson (.ofStrings names)).value? = some (.ofStrings names) :=
    Json.kept_ofStrings names
  rw [nextOfDocument?, hvalue, Option.bind_eq_bind, Option.bind_some, nextNames_ofStrings named]
  rfl

theorem named_of_nextOfDocument? {d : Document} {names : List TransitionName}
    (h : nextOfDocument? d = some names) : ∀ name ∈ names, Text.isBlankText name = false := by
  obtain ⟨value, _, h⟩ := Option.bind_eq_some_iff.1 h
  exact named_of_nextNames (toOption_eq_some_iff.1 h)

theorem Record.named_of_next {r : Record} {key : String} {names : List TransitionName}
    (h : r.withDefault? key [] nextOfDocument? = some names) :
    ∀ name ∈ names, Text.isBlankText name = false := by
  unfold withDefault? at h
  split at h
  · cases h
    simp
  · exact named_of_nextOfDocument? h

/-! ## Metadata of places -/

namespace PlaceMetadata

/-- **Metadata that can be read back**: well-formed, with extensions that are kept as they are. -/
structure Readable (p : PlaceMetadata) : Prop extends WellFormed p where
  extensions_kept : (Json.ofMap p.extensions).Kept

theorem readable_empty : Readable {} where
  next_named := by simp
  extensions_unknown := by simp [SortedMap.empty, SortedMap.keys]
  extensions_kept := rfl

/-- What is written under the known keys. -/
def knownFields (p : PlaceMetadata) : List (String × Json) :=
  textField "info" p.info ++ (textField "description" p.description ++
    (textField "backgroundColor" p.backgroundColor ++ namesField "next" p.next))

theorem forall_mem_knownFields (p : PlaceMetadata) :
    ∀ e ∈ p.knownFields, e.1 ∈ knownKeys ∧ e.2.Kept := by
  simp only [knownFields, List.forall_mem_append]
  exact ⟨forall_mem_textField (by decide) _, forall_mem_textField (by decide) _,
    forall_mem_textField (by decide) _, forall_mem_namesField (by decide) _⟩

theorem get?_knownFields (p : PlaceMetadata) :
    (ofList p.knownFields).get? "info" = p.info.map .string ∧
    (ofList p.knownFields).get? "description" = p.description.map .string ∧
    (ofList p.knownFields).get? "backgroundColor" = p.backgroundColor.map .string ∧
    (ofList p.knownFields).get? "next" =
      if p.next.isEmpty = true then none else some (.ofStrings p.next) := by
  simp [knownFields, textField, namesField, SortedMap.get?_ofList_append, SortedMap.get?_ofList_cons,
    SortedMap.get?_ofList_nil, SortedMap.get?_ofList_toList_map, SortedMap.get?_ofList_ite]

variable {p : PlaceMetadata}

theorem fields_eq (p : PlaceMetadata) : p.fields = p.knownFields ++ p.extensions.entries := by
  simp only [fields, knownFields, List.append_assoc]

theorem toJson_eq (h : p.WellFormed) :
    p.toJson = .ofPairs (p.extensions.entries ++ p.knownFields) := by
  rw [toJson, fields_eq, Json.ofPairs, Json.ofPairs, Record.ofList_loose_comm h.extensions_unknown
    fun e he => (p.forall_mem_knownFields e he).1]

/-- **The metadata of a place** are read as they were, every extension beside the known keys. -/
theorem ofDocument?_toJson (h : p.Readable) : ofDocument? (ofJson p.toJson) = some p := by
  rw [toJson_eq h.toWellFormed]
  let m := ofList (p.extensions.entries ++ p.knownFields)
  let r := Record.ofMap knownKeys m
  -- no extension stands under a known key, so what is found there is what was written for it
  have hget : ∀ {k v}, k ∈ knownKeys → (ofList p.knownFields).get? k = v → m.get? k = v :=
    fun hk h' => (Record.get?_known h.extensions_unknown hk).trans h'
  obtain ⟨info, description, backgroundColor, next⟩ := p.get?_knownFields
  have hinfo : r.optional? "info" Document.text? = some p.info :=
    Record.optional?_text (by decide) (hget (by decide) info)
  have hdescription : r.optional? "description" Document.text? = some p.description :=
    Record.optional?_text (by decide) (hget (by decide) description)
  have hcolor : r.optional? "backgroundColor" Document.text? = some p.backgroundColor :=
    Record.optional?_text (by decide) (hget (by decide) backgroundColor)
  have hnext : r.withDefault? "next" [] nextOfDocument? = some p.next :=
    Record.withDefault?_omitted (by decide) (hget (by decide) next) List.isEmpty_iff.1
      (nextOfDocument?_ofStrings h.next_named)
  have hothers : r.others? = some p.extensions :=
    Record.others?_loose_of_kept h.extensions_unknown h.extensions_kept p.forall_mem_knownFields
  have hrecord : Record.ofMapping? knownKeys
      (ofJson (.ofPairs (p.extensions.entries ++ p.knownFields))) = some r :=
    Record.ofMapping?_ofMap knownKeys m
  rw [ofDocument?, hrecord]
  simp only [Option.bind_eq_bind, Option.bind_some, hinfo, hdescription, hcolor, hnext, hothers,
    Option.pure_def]

/-- **What is read from a plain document** can be read back. -/
theorem readable_of_ofDocument? {d : Document} (plain : d.Plain) (h : ofDocument? d = some p) :
    p.Readable := by
  obtain ⟨r, hr, h⟩ := Option.bind_eq_some_iff.1 h
  obtain ⟨_, _, h⟩ := Option.bind_eq_some_iff.1 h
  obtain ⟨_, _, h⟩ := Option.bind_eq_some_iff.1 h
  obtain ⟨_, _, h⟩ := Option.bind_eq_some_iff.1 h
  obtain ⟨next, hnext, h⟩ := Option.bind_eq_some_iff.1 h
  obtain ⟨extensions, hextensions, h⟩ := Option.bind_eq_some_iff.1 h
  cases h
  obtain ⟨unknown, kept⟩ := (Record.plain_ofMapping? plain hr).others? hextensions
  exact ⟨⟨Record.named_of_next hnext, unknown⟩, kept⟩

theorem readable_of_ofMap {m : SortedMap Json} (kept : (Json.ofMap m).Kept) (h : ofMap m = .ok p) :
    p.Readable := by
  obtain ⟨_, _, _, _, extensions⟩ := ofMap_eq_ok h
  exact ⟨wellFormed_of_ofMap h, extensions ▸ kept_withoutKeys kept knownKeys⟩

theorem eq_empty_of_isEmpty (h : p.isEmpty = true) : p = {} := by
  simp only [isEmpty, Bool.and_eq_true, Option.isNone_iff_eq_none, List.isEmpty_iff] at h
  obtain ⟨⟨⟨⟨info, description⟩, backgroundColor⟩, next⟩, extensions⟩ := h
  cases p
  rw [mk.injEq]
  exact ⟨info, description, backgroundColor, next, SortedMap.eq_empty_of_isEmpty extensions⟩

end PlaceMetadata

/-! ## Metadata of transitions -/

namespace TransitionMetadata

/-- **Metadata that can be read back.** -/
structure Readable (t : TransitionMetadata) : Prop extends WellFormed t where
  extensions_kept : (Json.ofMap t.extensions).Kept

theorem readable_empty : Readable {} where
  next_named := by simp
  extensions_unknown := by simp [SortedMap.empty, SortedMap.keys]
  extensions_kept := rfl

/-- What is written under the known keys. -/
def knownFields (t : TransitionMetadata) : List (String × Json) :=
  textField "info" t.info ++ (textField "description" t.description ++
    ((if t.async then [("async", .bool true)] else []) ++ (textField "transport" t.transport ++
      namesField "next" t.next)))

theorem forall_mem_knownFields (t : TransitionMetadata) :
    ∀ e ∈ t.knownFields, e.1 ∈ knownKeys ∧ e.2.Kept := by
  have hasync : ∀ e ∈ if t.async then [("async", Json.bool true)] else [],
      e.1 ∈ knownKeys ∧ e.2.Kept := by
    cases t.async with
    | true => exact List.forall_mem_singleton.2 ⟨by decide, rfl⟩
    | false => simp
  simp only [knownFields, List.forall_mem_append]
  exact ⟨forall_mem_textField (by decide) _, forall_mem_textField (by decide) _, hasync,
    forall_mem_textField (by decide) _, forall_mem_namesField (by decide) _⟩

theorem get?_knownFields (t : TransitionMetadata) :
    (ofList t.knownFields).get? "info" = t.info.map .string ∧
    (ofList t.knownFields).get? "description" = t.description.map .string ∧
    (ofList t.knownFields).get? "async" = (if t.async = false then none else some (.bool t.async)) ∧
    (ofList t.knownFields).get? "transport" = t.transport.map .string ∧
    (ofList t.knownFields).get? "next" =
      if t.next.isEmpty = true then none else some (.ofStrings t.next) := by
  cases hasync : t.async <;>
    simp [knownFields, textField, namesField, hasync, SortedMap.get?_ofList_append,
      SortedMap.get?_ofList_cons, SortedMap.get?_ofList_nil, SortedMap.get?_ofList_toList_map,
      SortedMap.get?_ofList_ite]

variable {t : TransitionMetadata}

theorem fields_eq (t : TransitionMetadata) : t.fields = t.knownFields ++ t.extensions.entries := by
  simp only [fields, knownFields, List.append_assoc]

theorem toJson_eq (h : t.WellFormed) :
    t.toJson = .ofPairs (t.extensions.entries ++ t.knownFields) := by
  rw [toJson, fields_eq, Json.ofPairs, Json.ofPairs, Record.ofList_loose_comm h.extensions_unknown
    fun e he => (t.forall_mem_knownFields e he).1]

/-- **The metadata of a transition** are read as they were, every extension beside the known keys. -/
theorem ofDocument?_toJson (h : t.Readable) : ofDocument? (ofJson t.toJson) = some t := by
  rw [toJson_eq h.toWellFormed]
  let m := ofList (t.extensions.entries ++ t.knownFields)
  let r := Record.ofMap knownKeys m
  have hget : ∀ {k v}, k ∈ knownKeys → (ofList t.knownFields).get? k = v → m.get? k = v :=
    fun hk h' => (Record.get?_known h.extensions_unknown hk).trans h'
  obtain ⟨info, description, async, transport, next⟩ := t.get?_knownFields
  have hinfo : r.optional? "info" Document.text? = some t.info :=
    Record.optional?_text (by decide) (hget (by decide) info)
  have hdescription : r.optional? "description" Document.text? = some t.description :=
    Record.optional?_text (by decide) (hget (by decide) description)
  have hasync : r.withDefault? "async" false Document.bool? = some t.async :=
    Record.withDefault?_omitted (by decide) (hget (by decide) async) id rfl
  have htransport : r.optional? "transport" Document.text? = some t.transport :=
    Record.optional?_text (by decide) (hget (by decide) transport)
  have hnext : r.withDefault? "next" [] nextOfDocument? = some t.next :=
    Record.withDefault?_omitted (by decide) (hget (by decide) next) List.isEmpty_iff.1
      (nextOfDocument?_ofStrings h.next_named)
  have hothers : r.others? = some t.extensions :=
    Record.others?_loose_of_kept h.extensions_unknown h.extensions_kept t.forall_mem_knownFields
  have hrecord : Record.ofMapping? knownKeys
      (ofJson (.ofPairs (t.extensions.entries ++ t.knownFields))) = some r :=
    Record.ofMapping?_ofMap knownKeys m
  rw [ofDocument?, hrecord]
  simp only [Option.bind_eq_bind, Option.bind_some, hinfo, hdescription, hasync, htransport, hnext,
    hothers, Option.pure_def]

/-- **What is read from a plain document** can be read back. -/
theorem readable_of_ofDocument? {d : Document} (plain : d.Plain) (h : ofDocument? d = some t) :
    t.Readable := by
  obtain ⟨r, hr, h⟩ := Option.bind_eq_some_iff.1 h
  obtain ⟨_, _, h⟩ := Option.bind_eq_some_iff.1 h
  obtain ⟨_, _, h⟩ := Option.bind_eq_some_iff.1 h
  obtain ⟨_, _, h⟩ := Option.bind_eq_some_iff.1 h
  obtain ⟨_, _, h⟩ := Option.bind_eq_some_iff.1 h
  obtain ⟨next, hnext, h⟩ := Option.bind_eq_some_iff.1 h
  obtain ⟨extensions, hextensions, h⟩ := Option.bind_eq_some_iff.1 h
  cases h
  obtain ⟨unknown, kept⟩ := (Record.plain_ofMapping? plain hr).others? hextensions
  exact ⟨⟨Record.named_of_next hnext, unknown⟩, kept⟩

theorem readable_of_ofMap {m : SortedMap Json} (kept : (Json.ofMap m).Kept) (h : ofMap m = .ok t) :
    t.Readable := by
  obtain ⟨_, _, _, _, _, extensions⟩ := ofMap_eq_ok h
  exact ⟨wellFormed_of_ofMap h, extensions ▸ kept_withoutKeys kept knownKeys⟩

theorem eq_empty_of_isEmpty (h : t.isEmpty = true) : t = {} := by
  simp only [isEmpty, Bool.and_eq_true, Bool.not_eq_true', Option.isNone_iff_eq_none,
    List.isEmpty_iff] at h
  obtain ⟨⟨⟨⟨⟨info, description⟩, async⟩, transport⟩, next⟩, extensions⟩ := h
  cases t
  rw [mk.injEq]
  exact ⟨info, description, async, transport, next, SortedMap.eq_empty_of_isEmpty extensions⟩

end TransitionMetadata

/-! ## Places -/

namespace Place

/-- The fields of the written form. -/
def fields (p : Place) : List (String × Json) :=
  ("name", .string p.name) ::
    if p.metadata.isEmpty then [] else [("metadata", p.metadata.toJson)]

theorem get?_fields (p : Place) :
    (ofList p.fields).get? "name" = some (.string p.name) ∧
    (ofList p.fields).get? "metadata" =
      if p.metadata.isEmpty = true then none else some p.metadata.toJson := by
  simp [fields, SortedMap.get?_ofList_cons, SortedMap.get?_ofList_nil, SortedMap.get?_ofList_ite]

variable {p : Place}

/-- **A place** is read as it was, metadata left out if there are none. -/
theorem ofDocument?_toJson (h : p.metadata.Readable) : ofDocument? (ofJson p.toJson) = some p := by
  let r := Record.ofMap ["name", "metadata"] (ofList p.fields)
  obtain ⟨name, metadata⟩ := p.get?_fields
  have hname : r.required? "name" Document.text? = some p.name :=
    Record.required?_ofMap (by decide) name
  have hmeta : r.withDefault? "metadata" {} PlaceMetadata.ofDocument? = some p.metadata :=
    Record.withDefault?_omitted (by decide) metadata PlaceMetadata.eq_empty_of_isEmpty
      (PlaceMetadata.ofDocument?_toJson h)
  have hrecord : Record.read? true ["name", "metadata"] 1 (ofJson p.toJson) = some r :=
    Record.read?_ofMap ..
  rw [ofDocument?, hrecord]
  simp only [Option.bind_eq_bind, Option.bind_some, hname, hmeta, Option.pure_def]

theorem readable_of_ofDocument? {d : Document} (plain : d.Plain) (h : ofDocument? d = some p) :
    p.metadata.Readable := by
  obtain ⟨r, hr, h⟩ := Option.bind_eq_some_iff.1 h
  obtain ⟨_, _, h⟩ := Option.bind_eq_some_iff.1 h
  obtain ⟨metadata, hmeta, h⟩ := Option.bind_eq_some_iff.1 h
  cases h
  rcases (Record.plain_read? plain hr).withDefault? hmeta with rfl | ⟨d, plain, hd⟩
  · exact PlaceMetadata.readable_empty
  · exact PlaceMetadata.readable_of_ofDocument? plain hd

end Place

/-! ## Transitions -/

namespace Transition

/-- The fields of the written form. -/
def fields (t : Transition) : List (String × Json) :=
  [("name", .string t.name), ("from", .ofStrings t.sources), ("to", .ofStrings t.targets)] ++
    textField "guard" t.guard ++
    if t.metadata.isEmpty then [] else [("metadata", t.metadata.toJson)]

theorem get?_fields (t : Transition) :
    (ofList t.fields).get? "name" = some (.string t.name) ∧
    (ofList t.fields).get? "from" = some (.ofStrings t.sources) ∧
    (ofList t.fields).get? "to" = some (.ofStrings t.targets) ∧
    (ofList t.fields).get? "guard" = t.guard.map .string ∧
    (ofList t.fields).get? "metadata" =
      if t.metadata.isEmpty = true then none else some t.metadata.toJson := by
  simp [fields, textField, SortedMap.get?_ofList_append, SortedMap.get?_ofList_cons,
    SortedMap.get?_ofList_nil, SortedMap.get?_ofList_toList_map, SortedMap.get?_ofList_ite]

variable {t : Transition}

/-- **A transition** is read as it was, its places in their order and as often as they were named. -/
theorem ofDocument?_toJson (h : t.metadata.Readable) : ofDocument? (ofJson t.toJson) = some t := by
  let r := Record.ofMap ["name", "from", "to", "guard", "metadata"] (ofList t.fields)
  obtain ⟨name, sources, targets, guard, metadata⟩ := t.get?_fields
  have hname : r.required? "name" Document.text? = some t.name :=
    Record.required?_ofMap (by decide) name
  have hsources : r.required? "from" Document.texts? = some t.sources :=
    (Record.required?_ofMap (by decide) sources).trans (Document.texts?_ofStrings _)
  have htargets : r.required? "to" Document.texts? = some t.targets :=
    (Record.required?_ofMap (by decide) targets).trans (Document.texts?_ofStrings _)
  have hguard : r.optional? "guard" Document.text? = some t.guard :=
    Record.optional?_text (by decide) guard
  have hmeta : r.withDefault? "metadata" {} TransitionMetadata.ofDocument? = some t.metadata :=
    Record.withDefault?_omitted (by decide) metadata TransitionMetadata.eq_empty_of_isEmpty
      (TransitionMetadata.ofDocument?_toJson h)
  have hrecord : Record.read? true ["name", "from", "to", "guard", "metadata"] 3
      (ofJson t.toJson) = some r := Record.read?_ofMap ..
  rw [ofDocument?, hrecord]
  simp only [Option.bind_eq_bind, Option.bind_some, hname, hsources, htargets, hguard, hmeta,
    Option.pure_def]

theorem readable_of_ofDocument? {d : Document} (plain : d.Plain) (h : ofDocument? d = some t) :
    t.metadata.Readable := by
  obtain ⟨r, hr, h⟩ := Option.bind_eq_some_iff.1 h
  obtain ⟨_, _, h⟩ := Option.bind_eq_some_iff.1 h
  obtain ⟨_, _, h⟩ := Option.bind_eq_some_iff.1 h
  obtain ⟨_, _, h⟩ := Option.bind_eq_some_iff.1 h
  obtain ⟨_, _, h⟩ := Option.bind_eq_some_iff.1 h
  obtain ⟨metadata, hmeta, h⟩ := Option.bind_eq_some_iff.1 h
  cases h
  rcases (Record.plain_read? plain hr).withDefault? hmeta with rfl | ⟨d, plain, hd⟩
  · exact TransitionMetadata.readable_empty
  · exact TransitionMetadata.readable_of_ofDocument? plain hd

end Transition

/-! ## Definitions -/

theorem Kind.ofDocument?_text (kind : Kind) : ofDocument? (ofJson (.string kind.text)) = some kind := by
  cases kind <;> rfl

namespace Definition

/-- **A definition that can be read back**: all its metadata can, and its values are kept. -/
structure Readable (d : Definition) : Prop where
  places : ∀ p ∈ d.places, p.metadata.Readable
  transitions : ∀ t ∈ d.transitions, t.metadata.Readable
  metadata_kept : (Json.ofMap d.metadata).Kept

/-- The fields of the written form. -/
def fields (d : Definition) : List (String × Json) :=
  [("name", .string d.name), ("type", .string d.kind.text),
      ("places", .array (d.places.map Place.toJson)),
      ("transitions", .array (d.transitions.map Transition.toJson)),
      ("initial_marking", .ofStrings d.initialPlaces), ("supports", .ofStrings d.supports)] ++
    if d.metadata.isEmpty then [] else [("metadata", .ofMap d.metadata)]

theorem get?_fields (d : Definition) :
    (ofList d.fields).get? "name" = some (.string d.name) ∧
    (ofList d.fields).get? "type" = some (.string d.kind.text) ∧
    (ofList d.fields).get? "places" = some (.array (d.places.map Place.toJson)) ∧
    (ofList d.fields).get? "transitions" = some (.array (d.transitions.map Transition.toJson)) ∧
    (ofList d.fields).get? "initial_marking" = some (.ofStrings d.initialPlaces) ∧
    (ofList d.fields).get? "supports" = some (.ofStrings d.supports) ∧
    (ofList d.fields).get? "metadata" =
      if d.metadata.isEmpty = true then none else some (.ofMap d.metadata) := by
  simp [fields, SortedMap.get?_ofList_cons, SortedMap.get?_ofList_nil, SortedMap.get?_ofList_ite]

variable {d : Definition}

/-- **A definition** is read as it was. -/
theorem ofDocument?_toJson (h : d.Readable) : ofDocument? (ofJson d.toJson) = some d := by
  let r := Record.ofMap fieldNames (ofList d.fields)
  obtain ⟨name, kind, places, transitions, initialPlaces, supports, metadata⟩ := d.get?_fields
  have hname : r.required? "name" Document.text? = some d.name :=
    Record.required?_ofMap (by decide) name
  have hkind : r.withDefault? "type" .stateMachine Kind.ofDocument? = some d.kind :=
    (Record.withDefault?_ofMap (by decide) .stateMachine kind).trans d.kind.ofDocument?_text
  have hplaces : r.required? "places" (fun d => do (← d.items?).mapM Place.ofDocument?) =
      some d.places :=
    (Record.required?_ofMap (by decide) places).trans
      (Record.mapM_ofItems fun p hp => Place.ofDocument?_toJson (h.places p hp))
  have htransitions : r.required? "transitions" (fun d => do
      (← d.items?).mapM Transition.ofDocument?) = some d.transitions :=
    (Record.required?_ofMap (by decide) transitions).trans
      (Record.mapM_ofItems fun t ht => Transition.ofDocument?_toJson (h.transitions t ht))
  have hinitial : r.required? "initial_marking" Document.texts? = some d.initialPlaces :=
    (Record.required?_ofMap (by decide) initialPlaces).trans (Document.texts?_ofStrings _)
  have hsupports : r.required? "supports" Document.texts? = some d.supports :=
    (Record.required?_ofMap (by decide) supports).trans (Document.texts?_ofStrings _)
  have hmeta : r.withDefault? "metadata" .empty Document.valueMap? = some d.metadata :=
    Record.withDefault?_omitted (by decide) metadata SortedMap.eq_empty_of_isEmpty
      (Document.valueMap?_ofMap h.metadata_kept)
  have hrecord : Record.read? true fieldNames 6 (ofJson d.toJson) = some r :=
    Record.read?_ofMap ..
  rw [ofDocument?, hrecord]
  simp only [Option.bind_eq_bind, Option.bind_some] at hplaces htransitions ⊢
  simp only [hname, hkind, hplaces, htransitions, hinitial, hsupports, hmeta, Option.bind_some,
    Option.pure_def]

/-- **What is read from a plain document** can be read back. -/
theorem readable_of_ofDocument? {doc : Document} (plain : doc.Plain)
    (h : ofDocument? doc = some d) : d.Readable := by
  obtain ⟨r, hr, h⟩ := Option.bind_eq_some_iff.1 h
  obtain ⟨_, _, h⟩ := Option.bind_eq_some_iff.1 h
  obtain ⟨_, _, h⟩ := Option.bind_eq_some_iff.1 h
  obtain ⟨places, hplaces, h⟩ := Option.bind_eq_some_iff.1 h
  obtain ⟨transitions, htransitions, h⟩ := Option.bind_eq_some_iff.1 h
  obtain ⟨_, _, h⟩ := Option.bind_eq_some_iff.1 h
  obtain ⟨_, _, h⟩ := Option.bind_eq_some_iff.1 h
  obtain ⟨metadata, hmeta, h⟩ := Option.bind_eq_some_iff.1 h
  cases h
  have plain := Record.plain_read? plain hr
  refine ⟨fun p hp => ?_, fun t ht => ?_, plain.kept_of_valueMap? hmeta⟩
  · obtain ⟨list, plain, hlist⟩ := plain.required? hplaces
    obtain ⟨item, plain, hitem⟩ := plain.exists_item hlist p hp
    exact Place.readable_of_ofDocument? plain hitem
  · obtain ⟨list, plain, hlist⟩ := plain.required? htransitions
    obtain ⟨item, plain, hitem⟩ := plain.exists_item hlist t ht
    exact Transition.readable_of_ofDocument? plain hitem

end Definition

end WorkflowEngine
