import WorkflowEngine.Number.Reading
import WorkflowEngine.Proofs.Json.Text

/-!
# Texts tell values apart

Two values with the same text are the same, as long as their numbers are finite: an infinite number is
written as null. A number is told by its sign, its decimal and whether it has a point or an exponent;
the parts of lists and objects are told by where they end.

* `Numeral.parts_eq_of_chars`: numerals that are written alike have the same parts;
* **`Number.eq_of_text`**: finite numbers with the same text are the same;
* `Json.Finite`, `Json.finite_of_kept`: values with finite numbers;
* `Json.split_text`, `Json.split_quote`, `Json.partsText_eq`: where values, quoted texts and parts end;
* **`Json.eq_of_text`**: values with the same text are the same.
-/

namespace WorkflowEngine

/-! ## Numbers -/

namespace Numeral

variable {m m' : Numeral}

theorem scanSign_digit {c : Char} (h : c.isDigit = true) (cs : List Char) :
    scanSign (c :: cs) = (false, c :: cs) := by
  rw [scanSign]
  · rintro _ heq
    cases heq
    cases h
  · rintro _ heq
    cases heq
    cases h

theorem scanSign_chars (m : Numeral) : scanSign m.chars =
    (m.negative, m.whole ++ (fractionChars m.fraction ++ exponentChars m.exponent)) := by
  cases hm : m.negative with
  | true =>
    rw [chars, hm]
    rfl
  | false =>
    cases hw : m.whole with
    | nil => exact absurd hw m.whole_digits.1
    | cons c cs =>
      rw [chars, hm, hw]
      exact scanSign_digit (m.whole_digits.2 c (hw ▸ List.mem_cons_self)) _

theorem parts_eq_of_chars (h : m.chars = m'.chars) :
    m.negative = m'.negative ∧ m.whole = m'.whole ∧ m.fraction.getD [] = m'.fraction.getD [] ∧
      m.exponent.map exponentValue = m'.exponent.map exponentValue := by
  have hwhole : ∀ m : Numeral, _ := fun m =>
    span_digits m.whole_digits (stop_fractionChars m.fraction m.exponent ends_nil)
  have hfraction : ∀ m : Numeral, _ := fun m =>
    readFraction_chars m.fraction m.fraction_digits (stop_exponentChars m.exponent ends_nil)
  have hexponent : ∀ m : Numeral, _ := fun m =>
    readExponent_chars m.exponent m.exponent_digits ends_nil
  simp only [List.append_nil] at hwhole hfraction hexponent
  have hsign := congrArg scanSign h
  rw [scanSign_chars, scanSign_chars, Prod.mk.injEq] at hsign
  have hdigits := congrArg (List.takeWhile Char.isDigit) hsign.2
  have hrest := congrArg (List.dropWhile Char.isDigit) hsign.2
  rw [(hwhole m).1, (hwhole m').1] at hdigits
  rw [(hwhole m).2, (hwhole m').2] at hrest
  have hrest := congrArg Json.readFraction hrest
  rw [hfraction, hfraction, Option.some.injEq, Prod.mk.injEq] at hrest
  have hlast := congrArg Json.readExponent hrest.2
  rw [hexponent, hexponent, Option.some.injEq, Prod.mk.injEq] at hlast
  exact ⟨hsign.1, hdigits, hrest.1, hlast.1⟩

theorem decimal_eq_of_chars (h : m.chars = m'.chars) : m.decimal = m'.decimal := by
  obtain ⟨_, whole, fraction, exponent⟩ := parts_eq_of_chars h
  rw [decimal, decimal, whole, fraction, exponent]

theorem unmarked_of_chars (h : m.chars = m'.chars) (hfraction : m.fraction = none)
    (hexponent : m.exponent = none) : ¬(m'.fraction ≠ none ∨ m'.exponent ≠ none) := by
  obtain ⟨_, _, fraction, exponent⟩ := parts_eq_of_chars h
  rw [hexponent, Option.map_none, eq_comm, Option.map_eq_none_iff] at exponent
  rintro (hmarked | hmarked)
  · obtain ⟨cs, hcs⟩ := Option.ne_none_iff_exists'.1 hmarked
    rw [hfraction, hcs] at fraction
    exact (m'.fraction_digits cs hcs).1 fraction.symm
  · exact hmarked exponent

end Numeral

namespace Number

/-- **Finite numbers with the same text are the same.** -/
theorem eq_of_text {n n' : Number} (finite : n.IsFinite) (finite' : n'.IsFinite)
    (h : n.text = n'.text) : n = n' := by
  have htext := congrArg String.toList h
  cases n with
  | integer k =>
    rw [← Numeral.chars_ofInt] at htext
    cases n' with
    | integer k' =>
      rw [← Numeral.chars_ofInt] at htext
      have hnegative := (Numeral.parts_eq_of_chars htext).1
      have hdigits := congrArg digitsValue (Numeral.parts_eq_of_chars htext).2.1
      have hsign : k < 0 ↔ k' < 0 := decide_eq_decide.1 hnegative
      have hvalue : k.natAbs = k'.natAbs := by
        rwa [Numeral.ofInt, Numeral.ofInt, digitsValue_toDigits, digitsValue_toDigits] at hdigits
      rw [integer.injEq]
      omega
    | float x =>
      obtain ⟨m, hm, shows⟩ := exists_numeral_float (finite' x rfl)
      exact absurd shows.marked (Numeral.unmarked_of_chars (htext.trans hm) rfl rfl)
  | float x =>
    obtain ⟨m, hm, shows⟩ := exists_numeral_float (finite x rfl)
    cases n' with
    | integer k =>
      rw [← Numeral.chars_ofInt] at htext
      exact absurd shows.marked (Numeral.unmarked_of_chars (htext.symm.trans hm) rfl rfl)
    | float x' =>
      obtain ⟨m', hm', shows'⟩ := exists_numeral_float (finite' x' rfl)
      have hchars : m.chars = m'.chars := by rw [← hm, htext, hm']
      have hsign : x.isNegative = x'.isNegative := by
        rw [← shows.sign, ← shows'.sign, (Numeral.parts_eq_of_chars hchars).1]
      have hvalue : x.shortest.value = x'.shortest.value := by
        rw [← shows.value, ← shows'.value, Numeral.decimal_eq_of_chars hchars]
      exact congrArg float (Binary64.eq_of_shortest hsign hvalue)

end Number

/-! ## Values -/

namespace Json

open Numeral (Ends ends_nil)

/-- **A value whose numbers are finite.** The fields of its objects may stand in any order. -/
inductive Finite : Json → Prop
  | null : Finite .null
  | bool (b : Bool) : Finite (.bool b)
  | number {n : Number} (h : n.IsFinite) : Finite (.number n)
  | string (s : String) : Finite (.string s)
  | array {items : List Json} (h : ∀ v ∈ items, Finite v) : Finite (.array items)
  | object {fields : List (String × Json)} (h : ∀ e ∈ fields, Finite e.2) : Finite (.object fields)

theorem Finite.items {items : List Json} (h : Finite (.array items)) : ∀ v ∈ items, v.Finite := by
  cases h
  assumption

theorem Finite.fields {fields : List (String × Json)} (h : Finite (.object fields)) :
    ∀ e ∈ fields, e.2.Finite := by
  cases h
  assumption

theorem Finite.of_ofStrings (names : List String) : Finite (.ofStrings names) := by
  refine .array fun v hv => ?_
  obtain ⟨name, _, rfl⟩ := List.mem_map.1 hv
  exact .string name

mutual

theorem finite_of_kept : ∀ v : Json, v.Kept → v.Finite
  | .null, _ => .null
  | .bool b, _ => .bool b
  | .string s, _ => .string s
  | .number _, h => .number fun x hx => (kept_iff (.number (.float x))).1 (hx ▸ h)
  | .array items, h => .array (finite_of_kept_items items (kept_of_mem_items h))
  | .object fields, h => .object (finite_of_kept_fields fields (kept_of_mem_fields h))

theorem finite_of_kept_items : ∀ items : List Json, (∀ v ∈ items, v.Kept) → ∀ v ∈ items, v.Finite
  | [], _ => by simp
  | item :: items, h => by
    obtain ⟨hitem, hitems⟩ := List.forall_mem_cons.1 h
    exact List.forall_mem_cons.2 ⟨finite_of_kept item hitem, finite_of_kept_items items hitems⟩

theorem finite_of_kept_fields : ∀ fields : List (String × Json), (∀ e ∈ fields, e.2.Kept) →
    ∀ e ∈ fields, e.2.Finite
  | [], _ => by simp
  | (key, value) :: fields, h => by
    obtain ⟨hfield, hfields⟩ := List.forall_mem_cons.1 h
    exact List.forall_mem_cons.2 ⟨finite_of_kept value hfield, finite_of_kept_fields fields hfields⟩

end

/-! ## Where a part ends -/

variable {rest rest' : List Char}

/-- **Where a value ends** is told by its text, and so is the document that it is read as. -/
theorem split_text {v w : Json} (ends : Ends rest) (ends' : Ends rest')
    (h : v.text.toList ++ rest = w.text.toList ++ rest') :
    v.written = w.written ∧ v.text = w.text ∧ rest = rest' := by
  let fuel := 2 * (v.text.toList.length + w.text.toList.length)
  have hv := readValue_text v fuel rest (by omega) ends
  have hw := readValue_text w fuel rest' (by omega) ends'
  rw [h, hw, Option.some.injEq, Prod.mk.injEq] at hv
  obtain ⟨hwritten, rfl⟩ := hv
  exact ⟨hwritten.symm, String.toList_inj.1 (List.append_cancel_right h), rfl⟩

/-- **Where a quoted text ends** is told by the text, and so is what was quoted. -/
theorem split_quote {s t : String} (h : (quote s).toList ++ rest = (quote t).toList ++ rest') :
    s = t ∧ rest = rest' := by
  simp only [toList_quote, List.cons_append, List.append_assoc, List.cons.injEq, true_and] at h
  have hread := congrArg (readText none (some [])) h
  rw [readText_quote, readText_quote, Option.some.injEq, Prod.mk.injEq, Option.some.injEq] at hread
  exact hread

theorem written_eq_of_text {v w : Json} (h : v.text = w.text) : v.written = w.written :=
  (split_text ends_nil ends_nil (by rw [h])).1

/-! ## Values with the same text -/

theorem exists_readBack? {n : Number} (finite : n.IsFinite) :
    ∃ o : Option Number, n.readBack? = o.map .number := by
  obtain ⟨m, hm⟩ := exists_numeral finite
  obtain ⟨c, cs, hc, hbegins⟩ := m.head_chars
  have hread := m.readNumber_chars ends_nil
  rw [List.append_nil, hc] at hread
  exact ⟨m.value?, by rw [Number.readBack?, hm, hc, readValue_numeral hbegins, hread]⟩

variable {v w : Json}

theorem exists_number {n : Number} (finite : n.IsFinite) (h : (number n).written = w.written) :
    ∃ n', w = .number n' := by
  obtain ⟨o, ho⟩ := exists_readBack? finite
  cases w with
  | number n' => exact ⟨n', rfl⟩
  | _ =>
    simp only [written, ho, Document.scalar.injEq, reduceCtorEq, false_and] at h
    all_goals cases o <;> simp at h

theorem exists_array {items : List Json} (h : (array items).written = w.written) :
    ∃ items', w = .array items' := by
  cases w with
  | array items' => exact ⟨items', rfl⟩
  | _ => simp [written] at h

theorem exists_object {fields : List (String × Json)} (h : (object fields).written = w.written) :
    ∃ fields', w = .object fields' := by
  cases w with
  | object fields' => exact ⟨fields', rfl⟩
  | _ => simp [written] at h

theorem eq_of_simple (finite : w.Finite) (h : v.written = w.written) (number : ∀ n, v ≠ .number n)
    (array : ∀ items, v ≠ .array items) (object : ∀ fields, v ≠ .object fields) : v = w := by
  cases w with
  | number n =>
    cases finite with
    | number finite =>
      obtain ⟨n', hn'⟩ := exists_number finite h.symm
      exact absurd hn' (number n')
  | array items =>
    obtain ⟨items', hitems'⟩ := exists_array h.symm
    exact absurd hitems' (array items')
  | object fields =>
    obtain ⟨fields', hfields'⟩ := exists_object h.symm
    exact absurd hfields' (object fields')
  | _ => cases v <;> simp_all [written]

/-- What stands behind the first part of a list or an object. -/
def partsText : List String → List Char
  | [] => []
  | t :: ts => ',' :: (",".intercalate (t :: ts)).toList

theorem toList_parts (t : String) (ts : List String) :
    (",".intercalate (t :: ts)).toList = t.toList ++ partsText ts := by
  cases ts with
  | nil => rw [toList_intercalate_singleton, partsText, List.append_nil]
  | cons t' ts => rw [toList_intercalate_cons, partsText]

theorem ends_partsText (ts : List String) : Ends (partsText ts) := by
  cases ts with
  | nil => exact ends_nil
  | cons t ts => exact ends_cons (by decide) _

theorem partsText_eq {ts ts' : List String} (full : ∀ t ∈ ts, t ≠ "") (full' : ∀ t ∈ ts', t ≠ "")
    (h : ",".intercalate ts = ",".intercalate ts') : partsText ts = partsText ts' := by
  have hnone : ∀ {t : String} {ts : List String}, t ≠ "" → ",".intercalate (t :: ts) ≠ "" := by
    intro t ts ht hempty
    have hlist := congrArg String.toList hempty
    rw [toList_parts, String.toList_empty, List.append_eq_nil_iff] at hlist
    exact ht (String.toList_eq_nil_iff.1 hlist.1)
  cases ts with
  | nil =>
    cases ts' with
    | nil => rfl
    | cons t' ts' => exact absurd h.symm (hnone (full' t' List.mem_cons_self))
  | cons t ts =>
    cases ts' with
    | nil => exact absurd h (hnone (full t List.mem_cons_self))
    | cons t' ts' => rw [partsText, partsText, h]

theorem itemTexts_ne (items : List Json) : ∀ t ∈ itemTexts items, t ≠ "" := by
  induction items with
  | nil => simp [itemTexts]
  | cons item items ih =>
    refine List.forall_mem_cons.2 ⟨?_, ih⟩
    rintro hempty
    have hpos := length_text_pos item
    rw [hempty] at hpos
    exact absurd hpos (by decide)

theorem fieldTexts_ne (fields : List (String × Json)) : ∀ t ∈ fieldTexts fields, t ≠ "" := by
  induction fields with
  | nil => simp [fieldTexts]
  | cons field fields ih =>
    refine List.forall_mem_cons.2 ⟨?_, ih⟩
    rintro hempty
    have hlist := congrArg String.toList hempty
    rw [toList_fieldText, toList_quote] at hlist
    cases hlist

mutual

/-- **Values with the same text are the same.** -/
theorem eq_of_text : ∀ v w : Json, v.Finite → w.Finite → v.text = w.text → v = w
  | .null, w => fun _ hw h => eq_of_simple hw (written_eq_of_text h) nofun nofun nofun
  | .bool b, w => fun _ hw h => eq_of_simple hw (written_eq_of_text h) nofun nofun nofun
  | .string s, w => fun _ hw h => eq_of_simple hw (written_eq_of_text h) nofun nofun nofun
  | .number n, w => by
    intro hv hw h
    cases hv with
    | number hn =>
      obtain ⟨n', rfl⟩ := exists_number hn (written_eq_of_text h)
      cases hw with
      | number hn' => rw [Number.eq_of_text hn hn' h]
  | .array items, w => by
    intro hv hw h
    obtain ⟨items', rfl⟩ := exists_array (written_eq_of_text h)
    have hitems : ",".intercalate (itemTexts items) = ",".intercalate (itemTexts items') := by
      have hlist := congrArg String.toList h
      rw [toList_array, toList_array, List.cons.injEq] at hlist
      exact String.toList_inj.1 (List.append_cancel_right hlist.2)
    rw [eq_of_itemTexts items items' hv.items hw.items
      (partsText_eq (itemTexts_ne items) (itemTexts_ne items') hitems)]
  | .object fields, w => by
    intro hv hw h
    obtain ⟨fields', rfl⟩ := exists_object (written_eq_of_text h)
    have hfields : ",".intercalate (fieldTexts fields) = ",".intercalate (fieldTexts fields') := by
      have hlist := congrArg String.toList h
      rw [toList_object, toList_object, List.cons.injEq] at hlist
      exact String.toList_inj.1 (List.append_cancel_right hlist.2)
    rw [eq_of_fieldTexts fields fields' hv.fields hw.fields
      (partsText_eq (fieldTexts_ne fields) (fieldTexts_ne fields') hfields)]

theorem eq_of_itemTexts : ∀ items items' : List Json, (∀ v ∈ items, v.Finite) →
    (∀ v ∈ items', v.Finite) → partsText (itemTexts items) = partsText (itemTexts items') →
      items = items'
  | [], [] => fun _ _ _ => rfl
  | [], _ :: _ => fun _ _ h => by cases h
  | _ :: _, [] => fun _ _ h => by cases h
  | item :: items, item' :: items' => by
    intro hv hw h
    obtain ⟨hitem, hitems⟩ := List.forall_mem_cons.1 hv
    obtain ⟨hitem', hitems'⟩ := List.forall_mem_cons.1 hw
    have htexts := (List.cons.inj h).2
    rw [toList_parts, toList_parts] at htexts
    obtain ⟨_, htext, hrest⟩ := split_text (ends_partsText _) (ends_partsText _) htexts
    rw [eq_of_text item item' hitem hitem' htext, eq_of_itemTexts items items' hitems hitems' hrest]

theorem eq_of_fieldTexts : ∀ fields fields' : List (String × Json), (∀ e ∈ fields, e.2.Finite) →
    (∀ e ∈ fields', e.2.Finite) → partsText (fieldTexts fields) = partsText (fieldTexts fields') →
      fields = fields'
  | [], [] => fun _ _ _ => rfl
  | [], _ :: _ => fun _ _ h => by cases h
  | _ :: _, [] => fun _ _ h => by cases h
  | (key, value) :: fields, (key', value') :: fields' => by
    intro hv hw h
    obtain ⟨hvalue, hfields⟩ := List.forall_mem_cons.1 hv
    obtain ⟨hvalue', hfields'⟩ := List.forall_mem_cons.1 hw
    have htexts := (List.cons.inj h).2
    rw [toList_parts, toList_parts, toList_fieldText, toList_fieldText, List.append_assoc,
      List.append_assoc, List.cons_append, List.cons_append] at htexts
    obtain ⟨rfl, hvalues⟩ := split_quote htexts
    obtain ⟨_, htext, hrest⟩ :=
      split_text (ends_partsText _) (ends_partsText _) (List.cons.inj hvalues).2
    rw [eq_of_text value value' hvalue hvalue' htext,
      eq_of_fieldTexts fields fields' hfields hfields' hrest]

end

end Json

end WorkflowEngine
