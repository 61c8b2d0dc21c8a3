import WorkflowEngine.Proofs.Document.Values
import WorkflowEngine.Proofs.Json.Numeral

/-!
# Reading what was written

The text of a value is read to its end, and what comes of it has the shape of the value: texts, lists
and objects are read as they were, and only a number may be read as another one.

* `readText_escapedChar`, `readText_quote`: a quoted text is read as it was;
* `Number.readBack?`, `readValue_number`, `readBack?_integer`: what the text of a number is read as;
* `Json.written`, **`readValue_text`**: the document that the text of a value is read as;
* **`document?_of_parse?`**: a text that is read back as its value is read as the document of the value.
-/

namespace WorkflowEngine

namespace Json

open Numeral (Ends ends_nil)

/-! ## Texts -/

theorem hexQuad?_control : ∀ n < 32,
    hexQuad? '0' '0' (Nat.digitChar (n / 16)) (Nat.digitChar (n % 16)) = some n := by
  decide

theorem readText_escapedChar (c : Char) (read cs : List Char) :
    readText none (some read) (escapedChar c ++ cs) = readText none (some (c :: read)) cs := by
  rw [escapedChar]
  split
  · next h => subst h; rfl
  split
  · next h => subst h; rfl
  split
  · next h => subst h; rfl
  split
  · next h => subst h; rfl
  split
  · next h => subst h; rfl
  split
  · next h => rw [← Char.ofNat_toNat c, h]; rfl
  split
  · next h => rw [← Char.ofNat_toNat c, h]; rfl
  split
  · next h =>
    have hquad := hexQuad?_control c.toNat h
    simp only [List.cons_append, List.nil_append, readText, hquad, Option.bind_eq_bind,
      Option.bind_some]
    have hfirst : ¬(0xD800 ≤ c.toNat ∧ c.toNat ≤ 0xDBFF) := by omega
    have hsecond : ¬(0xDC00 ≤ c.toNat ∧ c.toNat ≤ 0xDFFF) := by omega
    rw [if_neg hfirst, if_neg hsecond, Option.map_some, Char.ofNat_toNat]
  · next hquote hbackslash _ _ _ _ _ hcontrol =>
    rw [List.singleton_append, readText]
    · rw [if_neg hcontrol]
      rfl
    · exact hquote
    · exact fun _ _ _ _ _ h _ => hbackslash h
    · exact fun _ _ h _ => hbackslash h

theorem readText_escaped (s read rest : List Char) :
    readText none (some read) (s.flatMap escapedChar ++ '"' :: rest) =
      some (some (String.ofList (read.reverse ++ s)), rest) := by
  induction s generalizing read with
  | nil => simp [readText]
  | cons c s ih =>
    rw [List.flatMap_cons, List.append_assoc, readText_escapedChar, ih, List.reverse_cons,
      List.append_assoc, List.singleton_append]

theorem toList_quote (s : String) :
    (quote s).toList = '"' :: (s.toList.flatMap escapedChar ++ ['"']) := by
  simp [quote]

theorem readText_quote (s : String) (rest : List Char) :
    readText none (some []) (s.toList.flatMap escapedChar ++ '"' :: rest) = some (some s, rest) := by
  rw [readText_escaped, List.reverse_nil, List.nil_append, String.ofList_toList]

/-! ## Numbers -/

theorem skipGaps_cons {c : Char} (h : isGap c = false) (cs : List Char) :
    skipGaps (c :: cs) = c :: cs :=
  List.dropWhile_cons_of_neg (by simp [h])

/-- How a number begins. -/
def BeginsNumeral (c : Char) : Prop := c = '-' ∨ c.isDigit = true

theorem BeginsNumeral.ne {c d : Char} (h : BeginsNumeral c) (hminus : d ≠ '-')
    (hdigit : d.isDigit = false) : c ≠ d := by
  rintro rfl
  rcases h with h | h
  · exact hminus h
  · exact absurd h (by simp [hdigit])

theorem BeginsNumeral.not_gap {c : Char} (h : BeginsNumeral c) : isGap c = false := by
  simp only [isGap, h.ne (d := ' ') (by decide) (by decide),
    h.ne (d := '\n') (by decide) (by decide), h.ne (d := '\t') (by decide) (by decide),
    h.ne (d := '\r') (by decide) (by decide), decide_false, Bool.or_false]

theorem readValue_numeral {c : Char} (h : BeginsNumeral c) (fuel : Nat) (cs : List Char) :
    readValue (fuel + 1) (c :: cs) = readNumber (c :: cs) := by
  rw [readValue, skipGaps_cons h.not_gap]
  split
  case h_7 => rfl
  all_goals
    next heq =>
      cases heq
      exact absurd rfl (h.ne (by decide) (by decide))

end Json

/-- **What the text of a number is read as.** -/
def Number.readBack? (n : Number) : Option Json :=
  match Json.readValue 1 n.text.toList with
  | some (.scalar _ value, _) => value
  | _ => none

namespace Json

open Numeral (Ends ends_nil)

variable {rest : List Char}

theorem numeral_or_null (n : Number) :
    (∃ m : Numeral, n.text.toList = m.chars) ∨ n.text.toList = ['n', 'u', 'l', 'l'] := by
  by_cases finite : n.IsFinite
  · exact .inl (exists_numeral finite)
  · obtain ⟨x, rfl, hx⟩ : ∃ x, n = .float x ∧ x.isFinite = false := by
      simpa [Number.IsFinite] using finite
    refine .inr ?_
    rw [Number.text, if_neg (by simp [hx])]
    rfl

/-- **The text of a number is read to its end**, whatever it is read as. -/
theorem readValue_number (n : Number) (fuel : Nat) (h : Ends rest) :
    readValue (fuel + 1) (n.text.toList ++ rest) = some (.scalar none n.readBack?, rest) := by
  have hread : ∃ value, ∀ fuel {rest : List Char}, Ends rest →
      readValue (fuel + 1) (n.text.toList ++ rest) = some (.scalar none value, rest) := by
    rcases numeral_or_null n with ⟨m, hm⟩ | hnull
    · obtain ⟨c, cs, hc, hbegins⟩ := m.head_chars
      refine ⟨m.value?.map .number, fun fuel rest h => ?_⟩
      rw [hm, hc, List.cons_append, readValue_numeral hbegins, ← List.cons_append, ← hc]
      exact m.readNumber_chars h
    · refine ⟨some .null, fun fuel rest _ => ?_⟩
      rw [hnull]
      rfl
  obtain ⟨value, hvalue⟩ := hread
  have hback : n.readBack? = value := by
    have hnil := hvalue 0 ends_nil
    rw [List.append_nil] at hnil
    rw [Number.readBack?, hnil]
  rw [hback]
  exact hvalue fuel h

theorem readBack?_integer {n : Int} (lower : -2 ^ 63 ≤ n) (upper : n < 2 ^ 64) :
    (Number.integer n).readBack? = some (.number (.integer n)) := by
  have hread := (Numeral.ofInt n).readNumber_chars ends_nil
  obtain ⟨c, cs, hc, hbegins⟩ := (Numeral.ofInt n).head_chars
  rw [List.append_nil, Numeral.value?_ofInt lower upper, hc] at hread
  rw [Number.readBack?, ← Numeral.chars_ofInt, hc, readValue_numeral hbegins, hread]
  rfl

/-! ## Values -/

mutual

/-- **The document that the text of a value is read as.** -/
def written : Json → Document
  | .number n => .scalar none n.readBack?
  | .string s => .scalar (some s) (some (.string s))
  | .array items => .list (writtenItems items)
  | .object fields => .mapping (writtenFields fields)
  | other => .scalar none (some other)

/-- The documents of the items of a list. -/
def writtenItems : List Json → List Document
  | [] => []
  | item :: rest => item.written :: writtenItems rest

/-- The entries of the fields of an object. -/
def writtenFields : List (String × Json) → List (Document × Document)
  | [] => []
  | (key, value) :: rest => (textDocument (some key), value.written) :: writtenFields rest

end

theorem toList_intercalate_cons (s t : String) (ts : List String) :
    (",".intercalate (s :: t :: ts)).toList =
      s.toList ++ ',' :: (",".intercalate (t :: ts)).toList := by
  simp [List.intercalate]

theorem toList_intercalate_singleton (s : String) : (",".intercalate [s]).toList = s.toList := by
  simp

theorem toList_array (items : List Json) : (text (.array items)).toList =
    '[' :: ((",".intercalate (itemTexts items)).toList ++ [']']) := by
  rw [text, String.toList_append, String.toList_append]
  rfl

theorem toList_object (fields : List (String × Json)) : (text (.object fields)).toList =
    '\x7b' :: ((",".intercalate (fieldTexts fields)).toList ++ ['\x7d']) := by
  rw [text, String.toList_append, String.toList_append]
  rfl

theorem head_text (v : Json) : ∃ c cs, v.text.toList = c :: cs ∧ isGap c = false ∧ c ≠ ']' := by
  cases v with
  | null => exact ⟨'n', _, rfl, by decide, by decide⟩
  | bool b =>
    cases b with
    | true => exact ⟨'t', _, rfl, by decide, by decide⟩
    | false => exact ⟨'f', _, rfl, by decide, by decide⟩
  | number n =>
    rcases numeral_or_null n with ⟨m, hm⟩ | hnull
    · obtain ⟨c, cs, hc, hbegins⟩ := m.head_chars
      have hbegins : BeginsNumeral c := hbegins
      exact ⟨c, cs, hm.trans hc, hbegins.not_gap, hbegins.ne (by decide) (by decide)⟩
    · exact ⟨'n', _, hnull, by decide, by decide⟩
  | string s => exact ⟨'"', _, toList_quote s, by decide, by decide⟩
  | array items => exact ⟨'[', _, toList_array items, by decide, by decide⟩
  | object fields => exact ⟨'\x7b', _, toList_object fields, by decide, by decide⟩

theorem length_text_pos (v : Json) : 0 < v.text.toList.length := by
  obtain ⟨c, cs, hv, _⟩ := head_text v
  rw [hv]
  exact Nat.succ_pos _

section Steps

variable {fuel : Nat} {c : Char} {cs : List Char} {d : Document}

theorem readValue_quote (s : String) :
    readValue (fuel + 1) ((quote s).toList ++ rest) = some (textDocument (some s), rest) := by
  rw [toList_quote, List.cons_append, List.append_assoc]
  change (readText none (some []) (s.toList.flatMap escapedChar ++ '"' :: rest)).bind
    (fun p => some (textDocument p.1, p.2)) = _
  rw [readText_quote, Option.bind_some]

theorem readValue_list (hgap : isGap c = false) (hc : c ≠ ']') :
    readValue (fuel + 1) ('[' :: c :: cs) =
      (readItems fuel (c :: cs)).map fun p => (.list p.1, p.2) := by
  rw [readValue, skipGaps_cons (by decide)]
  split
  case h_2 heq =>
    cases heq
    rw [skipGaps_cons hgap]
    split
    · next heq =>
      cases heq
      exact absurd rfl hc
    · cases readItems fuel (c :: cs) <;> rfl
  case h_7 hlist _ _ _ _ => exact absurd rfl (hlist _)
  all_goals next heq => cases heq

theorem readValue_object :
    readValue (fuel + 1) ('\x7b' :: '"' :: cs) =
      (readEntries fuel ('"' :: cs)).map fun p => (.mapping p.1, p.2) := by
  change (readEntries fuel ('"' :: cs)).bind (fun p => some (Document.mapping p.1, p.2)) = _
  rw [Option.map_eq_bind]
  rfl

theorem readItems_last (h : readValue fuel cs = some (d, ']' :: rest)) :
    readItems (fuel + 1) cs = some ([d], rest) := by
  rw [readItems, h]
  rfl

theorem readItems_more (h : readValue fuel cs = some (d, ',' :: rest)) :
    readItems (fuel + 1) cs = (readItems fuel rest).map fun p => (d :: p.1, p.2) := by
  rw [readItems, h, Option.map_eq_bind]
  rfl

theorem readEntries_key {key : String} (h : readValue fuel cs = some (d, c :: rest))
    (hgap : isGap c = false) :
    readEntries (fuel + 1) ((quote key).toList ++ ':' :: cs) =
      if c = '\x7d' then some ([(textDocument (some key), d)], rest)
      else if c = ',' then
        (readEntries fuel rest).map fun p => ((textDocument (some key), d) :: p.1, p.2)
      else none := by
  rw [toList_quote, List.cons_append, List.append_assoc, List.singleton_append, readEntries,
    skipGaps_cons (by decide)]
  simp only [readText_quote, Option.bind_eq_bind, Option.bind_some, h, skipGaps_cons hgap,
    skipGaps_cons (c := ':') (by decide)]
  split
  · next heq =>
    cases heq
    rfl
  · next heq =>
    cases heq
    rw [Option.map_eq_bind]
    rfl
  · next hclose hmore =>
    rw [if_neg fun hc => hclose rest (congrArg (· :: rest) hc),
      if_neg fun hc => hmore rest (congrArg (· :: rest) hc)]

theorem readEntries_last {key : String} (h : readValue fuel cs = some (d, '\x7d' :: rest)) :
    readEntries (fuel + 1) ((quote key).toList ++ ':' :: cs) =
      some ([(textDocument (some key), d)], rest) := by
  rw [readEntries_key h (by decide)]
  rfl

theorem readEntries_more {key : String} (h : readValue fuel cs = some (d, ',' :: rest)) :
    readEntries (fuel + 1) ((quote key).toList ++ ':' :: cs) =
      (readEntries fuel rest).map fun p => ((textDocument (some key), d) :: p.1, p.2) := by
  rw [readEntries_key h (by decide)]
  rfl

end Steps

theorem toList_fieldText (key : String) (value : Json) :
    (quote key ++ ":" ++ value.text).toList = (quote key).toList ++ ':' :: value.text.toList := by
  simp

theorem head_intercalate {s : String} {c : Char} {cs : List Char} (h : s.toList = c :: cs)
    (ts : List String) : ∃ cs', (",".intercalate (s :: ts)).toList = c :: cs' := by
  cases ts with
  | nil => exact ⟨cs, (toList_intercalate_singleton s).trans h⟩
  | cons t ts => exact ⟨_, (toList_intercalate_cons s t ts).trans (congrArg (· ++ _) h)⟩

theorem head_itemTexts (item : Json) (items : List Json) :
    ∃ c cs, (",".intercalate (itemTexts (item :: items))).toList = c :: cs ∧
      isGap c = false ∧ c ≠ ']' := by
  obtain ⟨c, cs, hc, h⟩ := head_text item
  obtain ⟨cs', hcs'⟩ := head_intercalate hc (itemTexts items)
  exact ⟨c, cs', hcs', h⟩

theorem head_fieldTexts (field : String × Json) (fields : List (String × Json)) :
    ∃ cs, (",".intercalate (fieldTexts (field :: fields))).toList = '"' :: cs := by
  obtain ⟨key, value⟩ := field
  have hhead : (quote key ++ ":" ++ value.text).toList =
      '"' :: (key.toList.flatMap escapedChar ++ ['"'] ++ ':' :: value.text.toList) := by
    rw [toList_fieldText, toList_quote]
    rfl
  exact head_intercalate hhead (fieldTexts fields)

theorem ends_cons {c : Char} (h : c = ',' ∨ c = ']' ∨ c = '\x7d') (rest : List Char) :
    Ends (c :: rest) := by
  rintro _ ⟨⟩
  exact h

theorem toList_fieldTexts_singleton (key : String) (value : Json) :
    (",".intercalate (fieldTexts [(key, value)])).toList =
      (quote key).toList ++ ':' :: value.text.toList := by
  rw [fieldTexts, fieldTexts, toList_intercalate_singleton, toList_fieldText]

theorem toList_fieldTexts_cons (key : String) (value : Json) (field : String × Json)
    (fields : List (String × Json)) :
    (",".intercalate (fieldTexts ((key, value) :: field :: fields))).toList =
      (quote key).toList ++ ':' :: (value.text.toList ++
        ',' :: (",".intercalate (fieldTexts (field :: fields))).toList) := by
  rw [fieldTexts, fieldTexts, toList_intercalate_cons, toList_fieldText, List.append_assoc,
    List.cons_append]

mutual

/-- **The text of a value is read to its end.** Every container takes two steps and every part one, so
twice the length of the text is enough. -/
theorem readValue_text : ∀ (v : Json) (fuel : Nat) (rest : List Char),
    2 * v.text.toList.length ≤ fuel + 1 → Ends rest →
      readValue (fuel + 1) (v.text.toList ++ rest) = some (v.written, rest)
  | .null => fun _ _ _ _ => rfl
  | .bool true => fun _ _ _ _ => rfl
  | .bool false => fun _ _ _ _ => rfl
  | .number n => fun fuel _ _ h => readValue_number n fuel h
  | .string s => fun _ _ _ _ => readValue_quote s
  | .array [] => fun _ _ _ _ => rfl
  | .array (item :: items) => by
    intro fuel rest enough _
    rw [toList_array, List.length_cons, List.length_append, List.length_singleton] at enough
    obtain ⟨c, cs, hc, hgap, hclose⟩ := head_itemTexts item items
    obtain ⟨fuel, rfl⟩ := Nat.exists_eq_succ_of_ne_zero (n := fuel) (by omega)
    have hitems := readItems_texts (item :: items) (List.cons_ne_nil _ _) fuel rest (by omega)
    rw [toList_array, List.cons_append, List.append_assoc, hc, List.cons_append,
      readValue_list hgap hclose, ← List.cons_append, ← hc, List.singleton_append, hitems]
    rfl
  | .object [] => fun _ _ _ _ => rfl
  | .object (field :: fields) => by
    intro fuel rest enough _
    rw [toList_object, List.length_cons, List.length_append, List.length_singleton] at enough
    obtain ⟨cs, hcs⟩ := head_fieldTexts field fields
    obtain ⟨fuel, rfl⟩ := Nat.exists_eq_succ_of_ne_zero (n := fuel) (by omega)
    have hfields := readEntries_texts (field :: fields) (List.cons_ne_nil _ _) fuel rest (by omega)
    rw [toList_object, List.cons_append, List.append_assoc, hcs, List.cons_append,
      readValue_object, ← List.cons_append, ← hcs, List.singleton_append, hfields]
    rfl

theorem readItems_texts : ∀ items : List Json, items ≠ [] → ∀ (fuel : Nat) (rest : List Char),
    2 * (",".intercalate (itemTexts items)).toList.length ≤ fuel →
      readItems (fuel + 1) ((",".intercalate (itemTexts items)).toList ++ ']' :: rest) =
        some (writtenItems items, rest)
  | [] => fun nonempty => absurd rfl nonempty
  | [item] => by
    intro _ fuel rest enough
    have htexts : (",".intercalate (itemTexts [item])).toList = item.text.toList :=
      toList_intercalate_singleton _
    rw [htexts] at enough ⊢
    have hpos := length_text_pos item
    obtain ⟨fuel, rfl⟩ := Nat.exists_eq_succ_of_ne_zero (n := fuel) (by omega)
    exact readItems_last (readValue_text item fuel _ enough (ends_cons (by decide) rest))
  | item :: item' :: items => by
    intro _ fuel rest enough
    have htexts : (",".intercalate (itemTexts (item :: item' :: items))).toList =
        item.text.toList ++ ',' :: (",".intercalate (itemTexts (item' :: items))).toList :=
      toList_intercalate_cons _ _ _
    rw [htexts, List.length_append, List.length_cons] at enough
    obtain ⟨fuel, rfl⟩ := Nat.exists_eq_succ_of_ne_zero (n := fuel) (by omega)
    have hitem := readValue_text item fuel _ (by omega) (ends_cons (c := ',') (by decide)
      ((",".intercalate (itemTexts (item' :: items))).toList ++ ']' :: rest))
    rw [htexts, List.append_assoc, List.cons_append, readItems_more hitem,
      readItems_texts (item' :: items) (List.cons_ne_nil _ _) fuel rest (by omega)]
    rfl

theorem readEntries_texts : ∀ fields : List (String × Json), fields ≠ [] →
    ∀ (fuel : Nat) (rest : List Char),
    2 * (",".intercalate (fieldTexts fields)).toList.length ≤ fuel →
      readEntries (fuel + 1) ((",".intercalate (fieldTexts fields)).toList ++ '\x7d' :: rest) =
        some (writtenFields fields, rest)
  | [] => fun nonempty => absurd rfl nonempty
  | [(key, value)] => by
    intro _ fuel rest enough
    rw [toList_fieldTexts_singleton, List.length_append, List.length_cons] at enough
    obtain ⟨fuel, rfl⟩ := Nat.exists_eq_succ_of_ne_zero (n := fuel) (by omega)
    have hvalue := readValue_text value fuel _ (by omega)
      (ends_cons (c := '\x7d') (by decide) rest)
    rw [toList_fieldTexts_singleton, List.append_assoc, List.cons_append, readEntries_last hvalue]
    rfl
  | (key, value) :: field :: fields => by
    intro _ fuel rest enough
    rw [toList_fieldTexts_cons, List.length_append, List.length_cons, List.length_append,
      List.length_cons] at enough
    obtain ⟨fuel, rfl⟩ := Nat.exists_eq_succ_of_ne_zero (n := fuel) (by omega)
    have hvalue := readValue_text value fuel _ (by omega) (ends_cons (c := ',') (by decide)
      ((",".intercalate (fieldTexts (field :: fields))).toList ++ '\x7d' :: rest))
    rw [toList_fieldTexts_cons, List.append_assoc, List.cons_append, List.append_assoc,
      List.cons_append, readEntries_more hvalue,
      readEntries_texts (field :: fields) (List.cons_ne_nil _ _) fuel rest (by omega)]
    rfl

end

/-! ## The document of a value -/

open Document (limitDepth limitItems limitEntries ofItems ofFields itemValues? entryValues?)

theorem eq_of_keptScalar {v : Json} {n : Number} (h : Document.keptScalar v = .number n) :
    v = .number n := by
  cases v with
  | number m =>
    cases m with
    | integer m => exact h
    | float x =>
      rw [Document.keptScalar] at h
      split at h
      · exact h
      · cases h
  | _ => cases h

theorem map_text?_limitEntries (depth : Nat) (fields : List (String × Json)) :
    (limitEntries depth (writtenFields fields)).map (·.1.text?) = (fields.map (·.1)).map some := by
  induction fields with
  | nil => rfl
  | cons field fields ih =>
    rw [writtenFields, textDocument, limitEntries, limitDepth, List.map_cons, ih]
    rfl

mutual

theorem limitDepth_written : ∀ (v : Json) (depth : Nat),
    (limitDepth depth v.written).value? = some v → limitDepth depth v.written = .ofJson v
  | .null, _ => fun _ => by simp [written, limitDepth, Document.ofJson]
  | .bool _, _ => fun _ => by simp [written, limitDepth, Document.ofJson]
  | .string _, _ => fun _ => by simp [written, limitDepth, Document.ofJson]
  | .number n, _ => fun h => by
    rw [written, limitDepth, Document.value?, Option.map_eq_some_iff] at h
    obtain ⟨v, hv, hkept⟩ := h
    simp [written, limitDepth, hv, eq_of_keptScalar hkept, Document.ofJson]
  | .array items, 0 => fun h => by cases h
  | .array items, depth + 1 => fun h => by
    rw [written, limitDepth, Document.value?_list_iff] at h
    obtain ⟨vs, hvs, heq⟩ := h
    cases heq
    rw [written, limitDepth, limitItems_written items depth hvs, Document.ofJson]
  | .object fields, 0 => fun h => by cases h
  | .object fields, depth + 1 => fun h => by
    rw [written, limitDepth, Document.value?_mapping_iff] at h
    obtain ⟨pairs, hpairs, heq⟩ := h
    have hentries : (SortedMap.ofList pairs).entries = fields := (Json.object.inj heq).symm
    have hkeys := Document.keys_of_entryValues? (map_text?_limitEntries depth fields) hpairs
    have hsame := SortedMap.eq_of_entries_ofList hkeys hentries
    rw [written, limitDepth, limitEntries_written fields depth (hsame ▸ hpairs), Document.ofJson]

theorem limitItems_written : ∀ (items : List Json) (depth : Nat),
    itemValues? (limitItems depth (writtenItems items)) = some items →
      limitItems depth (writtenItems items) = ofItems items
  | [], _ => fun _ => by simp [writtenItems, limitItems, ofItems]
  | item :: items, depth => fun h => by
    rw [writtenItems, limitItems] at h
    obtain ⟨v, rest, hv, hrest, heq⟩ := Document.itemValues?_cons_iff.1 h
    cases heq
    rw [writtenItems, limitItems, limitDepth_written item depth hv,
      limitItems_written items depth hrest, ofItems]

theorem limitEntries_written : ∀ (fields : List (String × Json)) (depth : Nat),
    entryValues? (limitEntries depth (writtenFields fields)) = some fields →
      limitEntries depth (writtenFields fields) = ofFields fields
  | [], _ => fun _ => by simp [writtenFields, limitEntries, ofFields]
  | (key, value) :: fields, depth => fun h => by
    rw [writtenFields, textDocument, limitEntries, limitDepth] at h
    obtain ⟨name, v, rest, hname, hv, hrest, heq⟩ := Document.entryValues?_cons_iff.1 h
    cases heq
    rw [writtenFields, textDocument, limitEntries, limitDepth, limitDepth_written value depth hv,
      limitEntries_written fields depth hrest, ofFields, Option.map_some]

end

theorem document?_text (v : Json) : document? v.text = some (v.written.limitDepth depthLimit) := by
  have hvalue := readValue_text v (2 * v.text.toList.length + 1) [] (by omega) ends_nil
  rw [List.append_nil] at hvalue
  rw [document?, hvalue]
  rfl

theorem parse?_text (v : Json) : parse? v.text = (v.written.limitDepth depthLimit).value? := by
  rw [parse?, document?_text]
  rfl

/-- **A text that is read back as its value** is read as the document of the value. -/
theorem document?_of_parse? {v : Json} (h : parse? v.text = some v) :
    document? v.text = some (.ofJson v) := by
  rw [parse?_text] at h
  rw [document?_text, limitDepth_written v depthLimit h]

end Json

end WorkflowEngine
