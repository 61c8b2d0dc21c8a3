import WorkflowEngine.Message.Codec
import WorkflowEngine.Proofs.Document.Records
import WorkflowEngine.Proofs.Json.Text
import WorkflowEngine.Proofs.Message.EnvelopeId

/-!
# Reading envelopes that were written

An envelope keeps its identifier, its message and every stamp in their order, whether it travels as a
text or as a value. The fields of a stamp are found wherever they stand.

* `ContextValue.WellFormed`, `Stamp.WellFormed`, `Envelope.WellFormed`: numbers within their ranges,
  and instants that their texts stand for;
* `Stamp.kind`, `Stamp.fields`, `Stamp.parts?_mapping`: a stamp as its kind and its own fields;
* `Stamp.ofDocument?_of_perm`: a stamp is read from its fields in any order;
* `Stamp.limitDepth_written`, `Envelope.document?_text`: what the text of an envelope is read as;
* **`Envelope.parse?_text_toJson`**: an envelope is read as it was written;
* `travelled`: an example.
-/

namespace WorkflowEngine

open Document (ofJson ofItems ofFields)

/-! ## What can be written -/

/-- **A partition value of sixty-four bits with sign**, if it is a number. -/
def ContextValue.WellFormed : ContextValue → Prop
  | .int n => -2 ^ 63 ≤ n ∧ n < 2 ^ 63
  | .text _ => True

/-- **A stamp with a partition value in its range, and an instant that its text stands for.** -/
def Stamp.WellFormed : Stamp → Prop
  | .route _ => True
  | .context s => s.value.WellFormed
  | .received _ instant | .handled _ instant => Instant.ofText? instant.text = some instant

instance : ∀ v : ContextValue, Decidable v.WellFormed
  | .int n => inferInstanceAs (Decidable (-2 ^ 63 ≤ n ∧ n < 2 ^ 63))
  | .text _ => .isTrue trivial

instance : ∀ s : Stamp, Decidable s.WellFormed
  | .route _ => .isTrue trivial
  | .context s => inferInstanceAs (Decidable s.value.WellFormed)
  | .received _ instant | .handled _ instant =>
    inferInstanceAs (Decidable (Instant.ofText? instant.text = some instant))

/-- **An envelope with an identifier of 128 bits**, and with such stamps. -/
structure Envelope.WellFormed (e : Envelope) : Prop where
  id : e.id.value < 2 ^ 128
  stamps : ∀ s ∈ e.stamps, s.WellFormed

/-! ## Parts -/

theorem ContextValue.ofDocument?_toJson {v : ContextValue} (h : v.WellFormed) :
    ofDocument? (ofJson v.toJson) = some v := by
  cases v with
  | int n =>
    have hbound : n < Nat.pow 2 63 := h.2
    change (if n < Nat.pow 2 63 then some (ContextValue.int n) else none) = _
    rw [if_pos hbound]
  | text s => rfl

theorem TransitionMessage.ofDocument?_toJson (m : TransitionMessage) :
    ofDocument? (ofJson m.toJson) = some m := rfl

theorem TransitionMessage.kept_toJson (m : TransitionMessage) : m.toJson.Kept := by
  have keys : ["entityId", "entityType", "transitionName", "workflowName"].Pairwise (· < ·) := by
    decide
  exact Json.kept_object (SortedMap.sorted_of_keys rfl keys) (by simp [Json.kept_string])

/-! ## Stamps -/

namespace Stamp

/-- The kind of a stamp. -/
def kind : Stamp → String
  | .route _ => "route"
  | .context _ => "context"
  | .received .. => "received"
  | .handled .. => "handled"

/-- The fields of a stamp beside its kind. -/
def ownFields : Stamp → List (String × Json)
  | .route address => [("address", .string address)]
  | .context s => [("key", .string s.key), ("value", s.value.toJson)]
  | .received transport instant => [("transport", .string transport), ("at", .string instant.text)]
  | .handled handler instant => [("handler", .string handler), ("at", .string instant.text)]

/-- The fields of a stamp, its kind first. -/
def fields (s : Stamp) : List (String × Json) := ("kind", .string s.kind) :: s.ownFields

theorem toJson_eq (s : Stamp) : s.toJson = .object s.fields := by
  cases s <;> rfl

theorem nodup_fields (s : Stamp) : (s.fields.map (·.1)).Nodup := by
  cases s <;> simp [fields, ownFields]

theorem kind_notMem_ownFields (s : Stamp) : "kind" ∉ s.ownFields.map (·.1) :=
  (List.nodup_cons.1 s.nodup_fields).1

variable {s : Stamp} {written : List (String × Json)}

theorem parts?_mapping (es : List (Document × Document)) : parts? (.mapping es) =
    (Record.ofMapping? ["kind"] (.mapping es)).bind fun r =>
      (r.required? "kind" Document.text?).bind fun kind =>
        (Document.mapping (r.others.map fun e =>
          (.scalar (some e.1) (some (.string e.1)), e.2))).typed?.map fun d => (kind, d) := by
  simp only [parts?, Option.bind_eq_bind, Option.pure_def, Option.map_eq_bind]
  rfl

theorem exists_parts? (h : written.Perm s.fields) :
    ∃ own : List (String × Json), own.Perm s.ownFields ∧
      parts? (ofJson (.object written)) = some (s.kind, ofJson (.object own)) := by
  have nodup : (written.map (·.1)).Nodup := (h.map _).nodup_iff.2 s.nodup_fields
  refine ⟨written.filter (fun e => !(["kind"].contains e.1)), ?_, ?_⟩
  · refine (h.filter _).trans ?_
    rw [fields, List.filter_cons_of_neg (by simp), List.filter_eq_self.2]
    intro f hf
    have hne : f.1 ≠ "kind" := fun heq => s.kind_notMem_ownFields (heq ▸ List.mem_map_of_mem hf)
    simpa using hne
  · have hkind : (Record.ofObject ["kind"] written).required? "kind" Document.text? = some s.kind :=
      Record.required?_ofObject (by decide) nodup (h.mem_iff.2 List.mem_cons_self)
    have hothers : (Record.ofObject ["kind"] written).others.map
        (fun e => (Document.scalar (some e.1) (some (.string e.1)), e.2)) =
          ofFields (written.filter (fun e => !(["kind"].contains e.1))) := by
      rw [Document.ofFields_eq_map]
      exact List.map_map
    have hparts := parts?_mapping (ofFields written)
    rw [← ofJson, Record.ofMapping?_ofObject ["kind"] nodup, Option.bind_some, hkind,
      Option.bind_some, hothers, ← ofJson, Document.typed?_ofJson, Option.map_some] at hparts
    exact hparts

theorem instantOfDocument?_ofJson (text : String) :
    instantOfDocument? (ofJson (.string text)) = Instant.ofText? text := rfl

section Kinds

variable {d own : Document}

theorem ofDocument?_route (h : parts? d = some ("route", own)) : ofDocument? d =
    (Record.read? true ["address"] 1 own).bind fun r =>
      (r.required? "address" Document.text?).bind fun address => some (.route address) := by
  rw [ofDocument?, h]
  rfl

theorem ofDocument?_context (h : parts? d = some ("context", own)) : ofDocument? d =
    (Record.read? true ["key", "value"] 2 own).bind fun r =>
      (r.required? "key" Document.text?).bind fun key =>
        (r.required? "value" ContextValue.ofDocument?).bind fun value =>
          some (.context ⟨key, value⟩) := by
  rw [ofDocument?, h]
  rfl

theorem ofDocument?_received (h : parts? d = some ("received", own)) : ofDocument? d =
    (Record.read? true ["transport", "at"] 2 own).bind fun r =>
      (r.required? "transport" Document.text?).bind fun transport =>
        (r.required? "at" instantOfDocument?).bind fun instant =>
          some (.received transport instant) := by
  rw [ofDocument?, h]
  rfl

theorem ofDocument?_handled (h : parts? d = some ("handled", own)) : ofDocument? d =
    (Record.read? true ["handler", "at"] 2 own).bind fun r =>
      (r.required? "handler" Document.text?).bind fun handler =>
        (r.required? "at" instantOfDocument?).bind fun instant =>
          some (.handled handler instant) := by
  rw [ofDocument?, h]
  rfl

end Kinds

theorem ofDocument?_of_perm (h : s.WellFormed) (hwritten : written.Perm s.fields) :
    ofDocument? (ofJson (.object written)) = some s := by
  obtain ⟨own, hown, hparts⟩ := exists_parts? hwritten
  have nodup : (own.map (·.1)).Nodup :=
    (hown.map _).nodup_iff.2 (List.nodup_cons.1 s.nodup_fields).2
  have hfield {α : Type} {names : List String} {k : String} {v : Json} {read : Document → Option α}
      (hv : (k, v) ∈ s.ownFields) (known : k ∈ names) :
      (Record.ofObject names own).required? k read = read (ofJson v) :=
    Record.required?_ofObject known nodup (hown.mem_iff.2 hv)
  have hsecond {a b : String × Json} : b ∈ [a, b] := List.mem_cons_of_mem _ List.mem_cons_self
  cases s with
  | route address =>
    rw [ofDocument?_route hparts, Record.read?_ofObject _ _ _ nodup, Option.bind_some,
      hfield List.mem_cons_self (by decide)]
    rfl
  | context s =>
    rw [ofDocument?_context hparts, Record.read?_ofObject _ _ _ nodup, Option.bind_some,
      hfield List.mem_cons_self (by decide), hfield hsecond (by decide),
      ContextValue.ofDocument?_toJson h]
    rfl
  | received transport instant =>
    have hinstant := (instantOfDocument?_ofJson instant.text).trans h
    rw [ofDocument?_received hparts, Record.read?_ofObject _ _ _ nodup, Option.bind_some,
      hfield List.mem_cons_self (by decide), hfield hsecond (by decide), hinstant]
    rfl
  | handled handler instant =>
    have hinstant := (instantOfDocument?_ofJson instant.text).trans h
    rw [ofDocument?_handled hparts, Record.read?_ofObject _ _ _ nodup, Option.bind_some,
      hfield List.mem_cons_self (by decide), hfield hsecond (by decide), hinstant]
    rfl

/-! ### Texts and values -/

theorem limitDepth_written (h : s.WellFormed) (depth : Nat) :
    s.toJson.written.limitDepth (depth + 1) = ofJson s.toJson := by
  cases s with
  | route | received | handled => rfl
  | context s =>
    obtain ⟨key, value⟩ := s
    cases value with
    | text => rfl
    | int n =>
      have hback := Json.readBack?_integer h.1 (h.2.trans (by decide))
      have hvalue : (ContextValue.int n).toJson.written = ofJson (ContextValue.int n).toJson :=
        congrArg (Document.scalar none) hback
      change Document.mapping [_, _, (_, Document.limitDepth depth _)] = _
      rw [hvalue]
      rfl

/-- The value of a stamp: its fields in key order. -/
def value (s : Stamp) : Json := .ofPairs s.fields

theorem kept_of_mem_fields (s : Stamp) : ∀ f ∈ s.fields, f.2.Kept := by
  cases s with
  | context s =>
    have hvalue : s.value.toJson.Kept := by cases s.value <;> rfl
    simp [fields, ownFields, Json.kept_string, hvalue]
  | _ => simp [fields, ownFields, Json.kept_string]

theorem value?_toJson (s : Stamp) : (ofJson s.toJson).value? = some s.value := by
  have hfields := Document.entryValues?_of_kept s.kept_of_mem_fields
  rw [toJson_eq, ofJson]
  exact Document.value?_mapping_iff.2 ⟨s.fields, hfields, rfl⟩

theorem ofDocument?_value (h : s.WellFormed) : ofDocument? (ofJson s.value) = some s :=
  ofDocument?_of_perm h (SortedMap.perm_entries_ofList s.nodup_fields)

end Stamp

/-! ## Envelopes -/

namespace Envelope

variable {e : Envelope}

/-- The fields of a written envelope, with its stamps in the given written forms. -/
def fields (e : Envelope) (stamps : List Json) : List (String × Json) :=
  [("id", .string e.id.text), ("message", e.message.toJson), ("stamps", .array stamps)]

theorem toJson_eq (e : Envelope) : e.toJson = .object (e.fields (e.stamps.map Stamp.toJson)) := rfl

theorem ofDocument?_fields (h : e.WellFormed) {write : Stamp → Json}
    (reads : ∀ s ∈ e.stamps, Stamp.ofDocument? (ofJson (write s)) = some s) :
    ofDocument? (ofJson (.object (e.fields (e.stamps.map write)))) = some e := by
  let written := e.fields (e.stamps.map write)
  let r := Record.ofObject ["id", "message", "stamps"] written
  have nodup : (written.map (·.1)).Nodup := by simp [written, fields]
  have hrecord : Record.read? true ["id", "message", "stamps"] 2 (ofJson (.object written)) = some r :=
    Record.read?_ofObject _ _ _ nodup
  have hidText (text : String) :
      (do EnvelopeId.ofText? (← (ofJson (.string text)).text?)) = EnvelopeId.ofText? text := rfl
  have hid : r.required? "id" (fun d => do EnvelopeId.ofText? (← d.text?)) = some e.id :=
    (Record.required?_ofObject (by decide) nodup List.mem_cons_self).trans
      ((hidText e.id.text).trans (EnvelopeId.ofText?_text h.id))
  have hmessage : r.required? "message" TransitionMessage.ofDocument? = some e.message :=
    (Record.required?_ofObject (v := e.message.toJson) (by decide) nodup
      (by simp [written, fields])).trans e.message.ofDocument?_toJson
  have hstamps : r.withDefault? "stamps" [] (fun d => do (← d.items?).mapM Stamp.ofDocument?) =
      some e.stamps :=
    (Record.withDefault?_ofObject (v := .array (e.stamps.map write)) (by decide) nodup
      (by simp [written, fields]) []).trans (Record.mapM_ofItems reads)
  rw [ofDocument?, hrecord, Option.bind_eq_bind, Option.bind_some, hid, hmessage, hstamps]
  rfl

theorem document?_text_toJson (h : e.WellFormed) :
    Json.document? e.toJson.text = some (ofJson e.toJson) := by
  have hitems : ∀ (depth : Nat) (stamps : List Stamp), (∀ s ∈ stamps, s.WellFormed) →
      Document.limitItems (depth + 1) (Json.writtenItems (stamps.map Stamp.toJson)) =
        ofItems (stamps.map Stamp.toJson) := by
    intro depth stamps hstamps
    induction stamps with
    | nil => rfl
    | cons s stamps ih =>
      obtain ⟨hs, hrest⟩ := List.forall_mem_cons.1 hstamps
      rw [List.map_cons, Json.writtenItems, Document.limitItems, s.limitDepth_written hs, ih hrest,
        ofItems]
  rw [Json.document?_text]
  change some (Document.mapping [_, _, (_, .list (Document.limitItems 125 _))]) = _
  rw [hitems 124 e.stamps h.stamps]
  rfl

theorem value?_toJson (e : Envelope) :
    (ofJson e.toJson).value? = some (.object (e.fields (e.stamps.map Stamp.value))) := by
  let pairs := e.fields (e.stamps.map Stamp.value)
  have hstamps : (ofJson (.array (e.stamps.map Stamp.toJson))).value? =
      some (.array (e.stamps.map Stamp.value)) := by
    rw [ofJson, Document.ofItems_eq_map, List.map_map]
    exact Document.value?_list_iff.2
      ⟨_, Document.itemValues?_map fun s _ => s.value?_toJson, rfl⟩
  have hpairs : Document.entryValues? (ofFields (e.fields (e.stamps.map Stamp.toJson))) = some pairs :=
    Document.entryValues?_cons_iff.2 ⟨_, _, _, rfl, rfl,
      Document.entryValues?_cons_iff.2 ⟨_, _, _, rfl, e.message.kept_toJson,
        Document.entryValues?_cons_iff.2 ⟨_, _, _, rfl, hstamps, rfl, rfl⟩, rfl⟩, rfl⟩
  have keys : ["id", "message", "stamps"].Pairwise (· < ·) := by decide
  have hsorted : pairs.Pairwise fun a b => a.1 < b.1 := SortedMap.sorted_of_keys rfl keys
  rw [toJson_eq, ofJson]
  refine Document.value?_mapping_iff.2 ⟨pairs, hpairs, ?_⟩
  rw [Json.ofPairs, Json.ofMap, SortedMap.entries_ofList hsorted]

/-- **An envelope is read as it was written**, from its text and from its value: its identifier, its
message and its stamps in their order. -/
theorem parse?_text_toJson (h : e.WellFormed) :
    parse? e.toJson.text = some e ∧
      ∃ v, (ofJson e.toJson).value? = some v ∧ ofDocument? (ofJson v) = some e := by
  refine ⟨?_, .object (e.fields (e.stamps.map Stamp.value)), e.value?_toJson, ?_⟩
  · have reads : ∀ s ∈ e.stamps, Stamp.ofDocument? (ofJson s.toJson) = some s := fun s hs =>
      s.toJson_eq ▸ Stamp.ofDocument?_of_perm (h.stamps s hs) (.refl _)
    rw [parse?, document?_text_toJson h, Option.bind_eq_bind, Option.bind_some, toJson_eq]
    exact ofDocument?_fields h reads
  · exact ofDocument?_fields h fun s hs => Stamp.ofDocument?_value (h.stamps s hs)

/-- An envelope that has been around: every kind of stamp, some twice, with texts that look like
something else, a leap second, and the greatest identifier. -/
def travelled : Envelope where
  id := ⟨2 ^ 128 - 1⟩
  message :=
    { entityId := "\"7\"", entityType := "", transition := "load\n", workflow := "back\\slash" }
  stamps := [.context ⟨"kind", .text "7"⟩, .context ⟨"kind", .int 7⟩, .route "route", .route "route",
    .received "at" ⟨1483228799, 1500000000⟩, .context ⟨"kind", .int (-2 ^ 63)⟩,
    .handled "handled" ⟨-1, 120000⟩, .context ⟨"kind", .text "7"⟩]

theorem parse?_text_toJson_travelled :
    travelled.WellFormed ∧ parse? travelled.toJson.text = some travelled ∧
      ∃ v, (ofJson travelled.toJson).value? = some v ∧ ofDocument? (ofJson v) = some travelled := by
  have h : travelled.WellFormed := ⟨by decide, by decide +kernel⟩
  exact ⟨h, parse?_text_toJson h⟩

end Envelope

end WorkflowEngine
