import WorkflowEngine.Declaration.Codec
import WorkflowEngine.Proofs.Document.Records

/-!
# Declarations read back

The written form of a declaration has everything in it: names as they were declared, bare places and
places with their keys, and loose keys beside the known ones, as long as no loose key is a known one.

* `NameList.ofDocument?_toJson`: names;
* `DetailedPlace.knownFields`, `DeclaredTransition.knownFields`: what stands under the known keys;
* `ofDocument?_toJson`: places, transitions and headers are read as they were declared;
* `Declaration.Apart`, **`Declaration.partsOfDocument?_toJson`**: so are declarations.
-/

namespace WorkflowEngine

open Document (ofJson)
open SortedMap (ofList)

/-! ## Names -/

namespace NameList

theorem isNull_toJson (names : NameList) : (ofJson names.toJson).isNull = false := by
  cases names <;> rfl

theorem ofDocument?_toJson (names : NameList) : ofDocument? (ofJson names.toJson) = some names := by
  rw [ofDocument?, Document.typed?_ofJson]
  cases names with
  | one name => rfl
  | many names =>
    change (do return NameList.many (← (ofJson (.ofStrings names)).texts?)) = _
    rw [Document.texts?_ofStrings]
    rfl

end NameList

namespace Record

variable {known : List String} {m : SortedMap Json} {k : String} (hk : k ∈ known)

include hk

theorem optional?_names {o : Option NameList} (h : m.get? k = o.map NameList.toJson) :
    (ofMap known m).optional? k NameList.ofDocument? = some o :=
  optional?_ofMap hk h (fun names _ => names.ofDocument?_toJson) NameList.isNull_toJson

theorem withDefault?_names {names : NameList} (h : m.get? k = some names.toJson) :
    (ofMap known m).withDefault? k .empty NameList.ofDocument? = some names :=
  (withDefault?_ofMap hk .empty h).trans names.ofDocument?_toJson

theorem withDefault?_valueMap {values : SortedMap Json} (kept : (Json.ofMap m).Kept)
    (h : m.get? k = some (.ofMap values)) :
    (ofMap known m).withDefault? k .empty Document.valueMap? = some values :=
  (withDefault?_ofMap hk .empty h).trans (Document.valueMap?_ofMap (Json.kept_of_get? kept h))

end Record

/-! ## Places -/

namespace DetailedPlace

variable {p : DetailedPlace}

/-- What is written under the known keys of a place. -/
def knownFields (p : DetailedPlace) : List (String × Json) :=
  [("name", .string p.name), ("initial", .bool p.initial)] ++
    (textField "info" p.info ++ (textField "description" p.description ++
      (textField "backgroundColor" p.backgroundColor ++ (NameList.field "next" p.next ++
        [("metadata", .ofMap p.metadata)]))))

theorem toJson_eq (p : DetailedPlace) : p.toJson = .ofPairs (p.loose.entries ++ p.knownFields) := by
  simp only [toJson, knownFields, List.append_assoc]

theorem mem_knownKeys (p : DetailedPlace) : ∀ e ∈ p.knownFields, e.1 ∈ knownKeys := by
  intro e he
  simp only [knownFields, textField, NameList.field, List.mem_append, List.mem_map, List.mem_cons,
    List.not_mem_nil, or_false] at he
  rcases he with (rfl | rfl) | ⟨_, _, rfl⟩ | ⟨_, _, rfl⟩ | ⟨_, _, rfl⟩ | ⟨_, _, rfl⟩ | rfl <;>
    simp [knownKeys]

theorem get?_knownFields (p : DetailedPlace) :
    (ofList p.knownFields).get? "name" = some (.string p.name) ∧
    (ofList p.knownFields).get? "initial" = some (.bool p.initial) ∧
    (ofList p.knownFields).get? "info" = p.info.map .string ∧
    (ofList p.knownFields).get? "description" = p.description.map .string ∧
    (ofList p.knownFields).get? "backgroundColor" = p.backgroundColor.map .string ∧
    (ofList p.knownFields).get? "next" = p.next.map NameList.toJson ∧
    (ofList p.knownFields).get? "metadata" = some (.ofMap p.metadata) := by
  simp [knownFields, textField, NameList.field, SortedMap.get?_ofList_append,
    SortedMap.get?_ofList_cons, SortedMap.get?_ofList_nil, SortedMap.get?_ofList_toList_map]

theorem ofDocument?_toJson (kept : p.toJson.Kept) (apart : ∀ k ∈ p.loose.keys, k ∉ knownKeys) :
    ofDocument? (ofJson p.toJson) = some p := by
  rw [toJson_eq] at kept ⊢
  let m := ofList (p.loose.entries ++ p.knownFields)
  let r := Record.ofMap knownKeys m
  have hget : ∀ {k v}, k ∈ knownKeys → (ofList p.knownFields).get? k = v → m.get? k = v :=
    fun hk h => (Record.get?_known apart hk).trans h
  obtain ⟨name, initial, info, description, backgroundColor, next, metadata⟩ :=
    p.get?_knownFields
  have hname : r.required? "name" Document.text? = some p.name :=
    Record.required?_ofMap (by decide) (hget (by decide) name)
  have hinitial : r.withDefault? "initial" false Document.bool? = some p.initial :=
    Record.withDefault?_ofMap (by decide) false (hget (by decide) initial)
  have hinfo : r.optional? "info" Document.text? = some p.info :=
    Record.optional?_text (by decide) (hget (by decide) info)
  have hdescription : r.optional? "description" Document.text? = some p.description :=
    Record.optional?_text (by decide) (hget (by decide) description)
  have hcolor : r.optional? "backgroundColor" Document.text? = some p.backgroundColor :=
    Record.optional?_text (by decide) (hget (by decide) backgroundColor)
  have hnext : r.optional? "next" NameList.ofDocument? = some p.next :=
    Record.optional?_names (by decide) (hget (by decide) next)
  have hmeta : r.withDefault? "metadata" .empty Document.valueMap? = some p.metadata :=
    Record.withDefault?_valueMap (by decide) kept (hget (by decide) metadata)
  have hloose : r.others? = some p.loose := Record.others?_loose apart kept p.mem_knownKeys
  have hrecord : Record.ofMapping? knownKeys (ofJson (.ofPairs (p.loose.entries ++ p.knownFields))) =
      some r := Record.ofMapping?_ofMap knownKeys m
  rw [ofDocument?, hrecord]
  simp only [Option.bind_eq_bind, Option.bind_some, hname, hinitial, hinfo, hdescription, hcolor,
    hnext, hmeta, hloose, Option.pure_def]

end DetailedPlace

/-- **A declared place** is read as it was declared: a bare name, or a place with its keys. -/
theorem DeclaredPlace.ofDocument?_toJson {p : DeclaredPlace} (kept : p.toJson.Kept)
    (apart : ∀ k ∈ p.details.loose.keys, k ∉ DetailedPlace.knownKeys) :
    ofDocument? (ofJson p.toJson) = some p := by
  rw [ofDocument?, Document.typed?_ofJson]
  cases p with
  | bare name => rfl
  | detailed p =>
    change (do return DeclaredPlace.detailed (← DetailedPlace.ofDocument? (ofJson p.toJson))) = _
    rw [DetailedPlace.ofDocument?_toJson kept apart]
    rfl

/-! ## Transitions -/

namespace DeclaredTransition

variable {t : DeclaredTransition}

/-- What is written under the known keys of a transition. -/
def knownFields (t : DeclaredTransition) : List (String × Json) :=
  [("name", .string t.name), ("from", t.sources.toJson), ("to", t.targets.toJson)] ++
    (textField "guard" t.guard ++ ([("async", .bool t.async)] ++ (textField "info" t.info ++
      (textField "description" t.description ++ (textField "transport" t.transport ++
        (NameList.field "next" t.next ++ [("metadata", .ofMap t.metadata)]))))))

theorem toJson_eq (t : DeclaredTransition) :
    t.toJson = .ofPairs (t.loose.entries ++ t.knownFields) := by
  simp only [toJson, knownFields, List.append_assoc]

theorem mem_knownKeys (t : DeclaredTransition) : ∀ e ∈ t.knownFields, e.1 ∈ knownKeys := by
  intro e he
  simp only [knownFields, textField, NameList.field, List.mem_append, List.mem_map, List.mem_cons,
    List.not_mem_nil, or_false] at he
  rcases he with (rfl | rfl | rfl) | ⟨_, _, rfl⟩ | rfl | ⟨_, _, rfl⟩ | ⟨_, _, rfl⟩ | ⟨_, _, rfl⟩ |
    ⟨_, _, rfl⟩ | rfl <;> simp [knownKeys]

theorem get?_knownFields (t : DeclaredTransition) :
    (ofList t.knownFields).get? "name" = some (.string t.name) ∧
    (ofList t.knownFields).get? "from" = some t.sources.toJson ∧
    (ofList t.knownFields).get? "to" = some t.targets.toJson ∧
    (ofList t.knownFields).get? "guard" = t.guard.map .string ∧
    (ofList t.knownFields).get? "async" = some (.bool t.async) ∧
    (ofList t.knownFields).get? "info" = t.info.map .string ∧
    (ofList t.knownFields).get? "description" = t.description.map .string ∧
    (ofList t.knownFields).get? "transport" = t.transport.map .string ∧
    (ofList t.knownFields).get? "next" = t.next.map NameList.toJson ∧
    (ofList t.knownFields).get? "metadata" = some (.ofMap t.metadata) := by
  simp [knownFields, textField, NameList.field, SortedMap.get?_ofList_append,
    SortedMap.get?_ofList_cons, SortedMap.get?_ofList_nil, SortedMap.get?_ofList_toList_map]

theorem ofDocument?_toJson (kept : t.toJson.Kept) (apart : ∀ k ∈ t.loose.keys, k ∉ knownKeys) :
    ofDocument? (ofJson t.toJson) = some t := by
  rw [toJson_eq] at kept ⊢
  let m := ofList (t.loose.entries ++ t.knownFields)
  let r := Record.ofMap knownKeys m
  have hget : ∀ {k v}, k ∈ knownKeys → (ofList t.knownFields).get? k = v → m.get? k = v :=
    fun hk h => (Record.get?_known apart hk).trans h
  obtain ⟨name, sources, targets, guard, async, info, description, transport, next, metadata⟩ :=
    t.get?_knownFields
  have hname : r.required? "name" Document.text? = some t.name :=
    Record.required?_ofMap (by decide) (hget (by decide) name)
  have hsources : r.withDefault? "from" .empty NameList.ofDocument? = some t.sources :=
    Record.withDefault?_names (by decide) (hget (by decide) sources)
  have htargets : r.withDefault? "to" .empty NameList.ofDocument? = some t.targets :=
    Record.withDefault?_names (by decide) (hget (by decide) targets)
  have hguard : r.optional? "guard" Document.text? = some t.guard :=
    Record.optional?_text (by decide) (hget (by decide) guard)
  have hasync : r.withDefault? "async" false Document.bool? = some t.async :=
    Record.withDefault?_ofMap (by decide) false (hget (by decide) async)
  have hinfo : r.optional? "info" Document.text? = some t.info :=
    Record.optional?_text (by decide) (hget (by decide) info)
  have hdescription : r.optional? "description" Document.text? = some t.description :=
    Record.optional?_text (by decide) (hget (by decide) description)
  have htransport : r.optional? "transport" Document.text? = some t.transport :=
    Record.optional?_text (by decide) (hget (by decide) transport)
  have hnext : r.optional? "next" NameList.ofDocument? = some t.next :=
    Record.optional?_names (by decide) (hget (by decide) next)
  have hmeta : r.withDefault? "metadata" .empty Document.valueMap? = some t.metadata :=
    Record.withDefault?_valueMap (by decide) kept (hget (by decide) metadata)
  have hloose : r.others? = some t.loose := Record.others?_loose apart kept t.mem_knownKeys
  have hrecord : Record.ofMapping? knownKeys (ofJson (.ofPairs (t.loose.entries ++ t.knownFields))) =
      some r := Record.ofMapping?_ofMap knownKeys m
  rw [ofDocument?, hrecord]
  simp only [Option.bind_eq_bind, Option.bind_some, hname, hsources, htargets, hguard, hasync,
    hinfo, hdescription, htransport, hnext, hmeta, hloose, Option.pure_def]

end DeclaredTransition

/-! ## Declarations -/

namespace Declaration

/-- **No loose key is a known one.** -/
structure Apart (d : Declaration) : Prop where
  places : ∀ p ∈ d.places, ∀ k ∈ p.details.loose.keys, k ∉ DetailedPlace.knownKeys
  transitions : ∀ t ∈ d.transitions, ∀ k ∈ t.loose.keys, k ∉ DeclaredTransition.knownKeys

theorem Header.get?_toJson (h : Header) :
    let m := ofList [("name", Json.ofOption .string h.name), ("type", Json.ofOption .string h.kind),
      ("supports", Json.ofOption NameList.toJson h.supports),
      ("initial", Json.ofOption NameList.toJson h.initial), ("metadata", .ofMap h.metadata)]
    m.get? "name" = some (.ofOption .string h.name) ∧
    m.get? "type" = some (.ofOption .string h.kind) ∧
    m.get? "supports" = some (.ofOption NameList.toJson h.supports) ∧
    m.get? "initial" = some (.ofOption NameList.toJson h.initial) ∧
    m.get? "metadata" = some (.ofMap h.metadata) := by
  simp [SortedMap.get?_ofList_cons, SortedMap.get?_ofList_nil]

/-- **A header** is read as it was declared, null standing for what is not set. -/
theorem Header.ofDocument?_toJson {h : Header} (kept : h.toJson.Kept) (lists : Bool) :
    Header.ofDocument? lists (ofJson h.toJson) = some h := by
  obtain ⟨name, kind, supports, initial, metadata⟩ := h.get?_toJson
  have hname : Record.optional? (.ofMap knownKeys _) "name" Document.text? = some h.name :=
    Record.optional?_ofOption (by decide) name (fun _ _ => rfl) fun _ => rfl
  have hkind : Record.optional? (.ofMap knownKeys _) "type" Document.text? = some h.kind :=
    Record.optional?_ofOption (by decide) kind (fun _ _ => rfl) fun _ => rfl
  have hsupports :
      Record.optional? (.ofMap knownKeys _) "supports" NameList.ofDocument? = some h.supports :=
    Record.optional?_ofOption (by decide) supports (fun names _ => names.ofDocument?_toJson)
      NameList.isNull_toJson
  have hinitial :
      Record.optional? (.ofMap knownKeys _) "initial" NameList.ofDocument? = some h.initial :=
    Record.optional?_ofOption (by decide) initial (fun names _ => names.ofDocument?_toJson)
      NameList.isNull_toJson
  have hmeta : Record.withDefault? (.ofMap knownKeys _) "metadata" .empty Document.valueMap? =
      some h.metadata := Record.withDefault?_valueMap (by decide) kept metadata
  rw [Header.ofDocument?, Header.toJson, Json.ofPairs, Record.read?_ofMap]
  simp only [Option.bind_eq_bind, Option.bind_some, hname, hkind, hsupports, hinitial, hmeta,
    Option.pure_def]

theorem get?_toJson (d : Declaration) :
    let m := ofList [("workflow", d.header.toJson),
      ("places", .array (d.places.map DeclaredPlace.toJson)),
      ("transitions", .array (d.transitions.map DeclaredTransition.toJson))]
    m.get? "workflow" = some d.header.toJson ∧
    m.get? "places" = some (.array (d.places.map DeclaredPlace.toJson)) ∧
    m.get? "transitions" = some (.array (d.transitions.map DeclaredTransition.toJson)) := by
  simp [SortedMap.get?_ofList_cons, SortedMap.get?_ofList_nil]

/-- **A declaration** is read as it was declared. -/
theorem partsOfDocument?_toJson {d : Declaration} (kept : d.toJson.Kept) (apart : d.Apart)
    (lists : Bool) :
    partsOfDocument? lists (ofJson d.toJson) = some (some d.header, d.places, d.transitions) := by
  obtain ⟨workflow, places, transitions⟩ := d.get?_toJson
  have hheader : Header.ofDocument? lists (ofJson d.header.toJson) = some d.header :=
    Header.ofDocument?_toJson (Json.kept_of_get? kept workflow) lists
  have hplace : ∀ p ∈ d.places, DeclaredPlace.ofDocument? (ofJson p.toJson) = some p := by
    intro p hp
    have hkept := Json.kept_of_mem_items (Json.kept_of_get? kept places) p.toJson
      (List.mem_map_of_mem hp)
    exact DeclaredPlace.ofDocument?_toJson hkept (apart.places p hp)
  have htransition :
      ∀ t ∈ d.transitions, DeclaredTransition.ofDocument? (ofJson t.toJson) = some t := by
    intro t ht
    have hkept := Json.kept_of_mem_items (Json.kept_of_get? kept transitions) t.toJson
      (List.mem_map_of_mem ht)
    exact DeclaredTransition.ofDocument?_toJson hkept (apart.transitions t ht)
  have hworkflow : Record.optional? (.ofMap knownKeys _) "workflow" (Header.ofDocument? lists) =
      some (some d.header) :=
    Record.optional?_ofMap (by decide) (o := some d.header) workflow (by rintro _ ⟨⟩; exact hheader)
      fun _ => rfl
  have hplaces : Record.withDefault? (.ofMap knownKeys _) "places" [] (fun d => do
      (← d.items?).mapM DeclaredPlace.ofDocument?) = some d.places :=
    (Record.withDefault?_ofMap (by decide) [] places).trans (Record.mapM_ofItems hplace)
  have htransitions : Record.withDefault? (.ofMap knownKeys _) "transitions" [] (fun d => do
      (← d.items?).mapM DeclaredTransition.ofDocument?) = some d.transitions :=
    (Record.withDefault?_ofMap (by decide) [] transitions).trans (Record.mapM_ofItems htransition)
  rw [partsOfDocument?, toJson, Json.ofPairs, Record.read?_ofMap]
  simp only [Option.bind_eq_bind, Option.bind_some] at hplaces htransitions ⊢
  simp only [hworkflow, hplaces, htransitions, Option.bind_some, Option.pure_def]

end Declaration

end WorkflowEngine
