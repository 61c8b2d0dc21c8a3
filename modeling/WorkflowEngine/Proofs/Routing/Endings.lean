import WorkflowEngine.Proofs.Routing.SlugForm

/-!
# Endings that a slug absorbs

A `workflow` at the end of a name and a last word `flow` leave the slug as it is. A `flow` glued to the
last word stays there, unless it completes a `workflow`.

* `Position.next`, `Position.after`, `Position.gap`: where a reader gets to, and what comes before the
  next word;
* `collapseFrom_append`, `collapse_append`: the words of two texts, one after the other;
* `collapse_append_word`, `collapse_append_separator`: a word behind a name, and what separates words;
* `stripEndings_workflow`, `stripEndings_flow`, `informative_flow_iff`: endings that are removed, and one
  that is not;
* **`slug_append`**: the slug of a longer name.
-/

namespace WorkflowEngine.Routing

variable {c : Char} {cs w : List Char} {p : Position}

/-! ## Reading on -/

namespace Position

/-- Where a reader stands behind one more character. -/
def next (p : Position) (c : Char) : Position :=
  if isSlugChar c then .inWord else if p = .start then .start else .afterWord

/-- Where a reader stands behind a text. -/
def after (p : Position) (cs : List Char) : Position := cs.foldl next p

/-- What comes before the next word. -/
def gap : Position → List Char
  | .afterWord => ['.']
  | .start | .inWord => []

theorem after_ne_start (hp : p ≠ .start) (cs : List Char) : p.after cs ≠ .start := by
  induction cs generalizing p with
  | nil => exact hp
  | cons c cs ih =>
    refine ih ?_
    rw [next, if_neg hp]
    split <;> decide

theorem after_separator (hne : cs ≠ []) (hcs : ∀ c ∈ cs, isSlugChar c = false) :
    p.after cs = if p = .start then .start else .afterWord := by
  induction cs generalizing p with
  | nil => exact absurd rfl hne
  | cons c cs ih =>
    obtain ⟨hc, hcs⟩ := List.forall_mem_cons.1 hcs
    have hnext : p.next c = if p = .start then .start else .afterWord := by simp [next, hc]
    change (p.next c).after cs = _
    cases cs with
    | nil => exact hnext
    | cons d ds => rw [ih (List.cons_ne_nil d ds) hcs, hnext]; cases p <;> rfl

end Position

theorem collapseFrom_cons (p : Position) (c : Char) (cs : List Char) :
    collapseFrom p (c :: cs) =
      (if isSlugChar c then p.gap ++ [c] else []) ++ collapseFrom (p.next c) cs := by
  cases p <;> by_cases hc : isSlugChar c = true <;> simp [collapseFrom, Position.next, Position.gap, hc]

theorem collapseFrom_append (p : Position) (cs ds : List Char) :
    collapseFrom p (cs ++ ds) = collapseFrom p cs ++ collapseFrom (p.after cs) ds := by
  induction cs generalizing p with
  | nil => cases p <;> rfl
  | cons c cs ih =>
    rw [List.cons_append, collapseFrom_cons, collapseFrom_cons, ih, List.append_assoc]
    rfl

theorem collapseFrom_word (hne : w ≠ []) (hw : ∀ c ∈ w, isSlugChar c = true) :
    collapseFrom p w = p.gap ++ w := by
  induction w generalizing p with
  | nil => exact absurd rfl hne
  | cons c w ih =>
    obtain ⟨hc, hw⟩ := List.forall_mem_cons.1 hw
    have hnext : p.next c = .inWord := if_pos hc
    rw [collapseFrom_cons, if_pos hc, hnext, List.append_assoc, List.singleton_append]
    -- inside the word nothing comes before the next character
    cases w with
    | nil => rfl
    | cons d w => rw [ih (List.cons_ne_nil d w) hw]; rfl

theorem collapseFrom_separator (hcs : ∀ c ∈ cs, isSlugChar c = false) : collapseFrom p cs = [] := by
  induction cs generalizing p with
  | nil => cases p <;> rfl
  | cons c cs ih =>
    obtain ⟨hc, hcs⟩ := List.forall_mem_cons.1 hcs
    rw [collapseFrom_cons, hc, ih hcs]
    rfl

theorem collapseFrom_of_after_start (h : Position.start.after cs = .start) :
    collapseFrom .start cs = [] := by
  induction cs with
  | nil => rfl
  | cons c cs ih =>
    change (Position.start.next c).after cs = .start at h
    by_cases hc : isSlugChar c = true
    · rw [Position.next, if_pos hc] at h
      exact absurd h (Position.after_ne_start (by decide) cs)
    · rw [Position.next, if_neg hc, if_pos rfl] at h
      rw [collapseFrom, if_neg hc, ih h]

/-- Where a reader stands behind a name. -/
def positionAfter (name : List Char) : Position := Position.start.after (name.flatMap lowerChar)

theorem collapse_append (cs ds : List Char) :
    collapse (cs ++ ds) = collapse cs ++ collapseFrom (positionAfter cs) (ds.flatMap lowerChar) := by
  rw [collapse, List.flatMap_append, collapseFrom_append]
  rfl

theorem collapse_append_word (cs : List Char) {ds : List Char} (hw : ds.flatMap lowerChar = w)
    (hne : w ≠ []) (hword : ∀ c ∈ w, isSlugChar c = true) :
    collapse (cs ++ ds) = collapse cs ++ ((positionAfter cs).gap ++ w) := by
  rw [collapse_append, hw, collapseFrom_word hne hword]

theorem lowerChar_ne_nil (c : Char) : lowerChar c ≠ [] := by
  rw [lowerChar]
  split
  · exact List.cons_ne_nil _ _
  · split <;> exact List.cons_ne_nil _ _

theorem collapse_append_separator {separator : List Char} (hne : separator ≠ [])
    (hseparator : ∀ c ∈ separator, ∀ l ∈ lowerChar c, isSlugChar l = false) (cs : List Char) :
    collapse (cs ++ separator) = collapse cs ∧
      positionAfter (cs ++ separator) = if positionAfter cs = .start then .start else .afterWord := by
  have hlowered : ∀ l ∈ separator.flatMap lowerChar, isSlugChar l = false := by
    intro l hl
    obtain ⟨c, hc, hl⟩ := List.mem_flatMap.1 hl
    exact hseparator c hc l hl
  have hsome : separator.flatMap lowerChar ≠ [] := by
    obtain ⟨c, hc⟩ := List.exists_mem_of_ne_nil _ hne
    exact fun hnil => lowerChar_ne_nil c (List.flatMap_eq_nil_iff.1 hnil c hc)
  constructor
  · rw [collapse_append, collapseFrom_separator hlowered, List.append_nil]
  · rw [positionAfter, List.flatMap_append, Position.after, List.foldl_append]
    exact Position.after_separator hsome hlowered

theorem positionAfter_of_getLast? {l : Char} (hc : cs.getLast? = some c)
    (hl : (lowerChar c).getLast? = some l) (hslug : isSlugChar l = true) :
    positionAfter cs = .inWord ∧ collapse cs ≠ [] := by
  obtain ⟨ds, rfl⟩ := List.getLast?_eq_some_iff.1 hc
  obtain ⟨ls, hls⟩ := List.getLast?_eq_some_iff.1 hl
  have hlowered : (ds ++ [c]).flatMap lowerChar = ds.flatMap lowerChar ++ ls ++ [l] := by
    rw [List.flatMap_append, List.flatMap_singleton, hls, List.append_assoc]
  constructor
  · rw [positionAfter, hlowered, Position.after, List.foldl_concat, Position.next, if_pos hslug]
  · have hword : ∀ c ∈ [l], isSlugChar c = true := by simpa using hslug
    rw [collapse, hlowered, collapseFrom_append, collapseFrom_word (List.cons_ne_nil _ _) hword]
    simp

/-! ## Endings -/

theorem stripEndings_eq_of_shorter {ds : List Char} (h : stripEnding cs = ds)
    (shorter : ds.length < cs.length) : stripEndings cs = stripEndings ds := by
  rw [stripEndings, h, if_pos shorter]

theorem trimDots_append_gap (h : IsDotted cs) (p : Position) : trimDots (cs ++ p.gap) = cs := by
  cases p with
  | start | inWord => rw [Position.gap, List.append_nil, trimDots_of_isDotted h]
  | afterWord =>
    cases cs with
    | nil => rfl
    | cons c cs =>
      have hhead : (c :: cs ++ ['.']).head? ≠ some '.' := h.head?_ne
      rw [Position.gap, trimDots_eq hhead, List.rdropWhile_concat_pos _ _ _ (by decide),
        ← trimDots_eq h.head?_ne, trimDots_of_isDotted h]

/-- **A `workflow` at the end is removed**, with the dot before it if there is one. -/
theorem stripEndings_workflow (h : IsDotted cs) (p : Position) :
    stripEndings (cs ++ (p.gap ++ "workflow".toList)) = stripEndings cs := by
  have hdrop : dropEnding? "workflow".toList (cs ++ (p.gap ++ "workflow".toList)) =
      some (cs ++ p.gap) := dropEnding?_eq_some_iff.2 (List.append_assoc ..).symm
  refine stripEndings_eq_of_shorter ?_ ?_
  · rw [stripEnding, hdrop]
    exact trimDots_append_gap h p
  · rw [List.length_append, List.length_append]
    exact Nat.lt_add_of_pos_right (Nat.add_pos_right _ (by decide))

theorem stripEndings_flow (h : IsDotted cs) : stripEndings (cs ++ ".flow".toList) = stripEndings cs := by
  have hworkflow : dropEnding? "workflow".toList (cs ++ ".flow".toList) = none := by
    rw [dropEnding?_eq_none_iff]
    intro hsuffix
    -- both endings would be of the same text, but a dot is no `k`
    have hlast : ".flow".toList <:+ "workflow".toList :=
      List.suffix_of_suffix_length_le (List.suffix_append _ _) hsuffix (by decide)
    exact absurd hlast (by decide)
  have hne : cs ++ ".flow".toList ≠ "flow".toList := fun heq => by
    have hlength : cs.length + 5 = 4 := by simpa using congrArg List.length heq
    omega
  refine stripEndings_eq_of_shorter ?_ ?_
  · rw [stripEnding, hworkflow, if_neg hne, dropEnding?_eq_some_iff.2 rfl]
    exact trimDots_of_isDotted h
  · rw [List.length_append]
    exact Nat.lt_add_of_pos_right (by decide)

/-- **A glued `flow` is no ending** unless it completes a `workflow`. -/
theorem informative_flow_iff (h : IsDotted cs) (hne : cs ≠ []) :
    Informative (cs ++ "flow".toList) ↔ ¬"work".toList <:+ cs := by
  constructor
  · rintro hi ⟨ds, rfl⟩
    exact hi.not_workflow ⟨ds, by rw [List.append_assoc]; rfl⟩
  · intro hwork
    -- an ending that is longer than `flow` takes its first characters from the words before it
    refine ⟨?_, ?_, ?_⟩
    · rintro ⟨ds, hds⟩
      have hsplit : ds ++ "work".toList ++ "flow".toList = cs ++ "flow".toList := by
        rw [List.append_assoc, ← hds]; rfl
      exact hwork ⟨ds, List.append_cancel_right hsplit⟩
    · rintro ⟨ds, hds⟩
      have hsplit : ds ++ ['.'] ++ "flow".toList = cs ++ "flow".toList := by
        rw [List.append_assoc, ← hds]; rfl
      refine h.getLast?_ne ?_
      rw [← List.append_cancel_right hsplit, List.getLast?_concat]
    · intro heq
      exact hne (List.append_left_eq_self.1 heq)

theorem stripEndings_eq_self_iff (h : IsDotted cs) : stripEndings cs = cs ↔ Informative cs := by
  refine ⟨fun heq => ?_, stripEndings_of_informative h⟩
  obtain ⟨_, -, -, -, -, hstripped⟩ := exists_rounds h
  exact heq ▸ hstripped.informative

/-! ## Longer names -/

/-- **The slug of a longer name.** A `workflow` at its end is not in it, however it is written and
whatever comes before, and no more is a `flow` that something separates from the name. A `flow` glued to
the last word stays, unless the words then end in `workflow`. -/
theorem slug_append (name : String) :
    (∀ w : String, w.toList.flatMap lowerChar = "workflow".toList → slug (name ++ w) = slug name) ∧
      (∀ separator f : String, separator ≠ "" →
        (∀ c ∈ separator.toList, ∀ l ∈ lowerChar c, isSlugChar l = false) →
        f.toList.flatMap lowerChar = "flow".toList → slug (name ++ separator ++ f) = slug name) ∧
      (∀ (f : String) (c l : Char), f.toList.flatMap lowerChar = "flow".toList →
        name.toList.getLast? = some c → (lowerChar c).getLast? = some l → isSlugChar l = true →
        (slug (name ++ f) = String.ofList (collapse name.toList ++ "flow".toList) ↔
          ¬"work".toList <:+ collapse name.toList)) := by
  have hdotted := isDotted_collapse name.toList
  have hworkflow : ∀ c ∈ "workflow".toList, isSlugChar c = true := List.all_eq_true.1 rfl
  have hflow : ∀ c ∈ "flow".toList, isSlugChar c = true := List.all_eq_true.1 rfl
  refine ⟨fun w hw => ?_, fun separator f hne hseparator hf => ?_, fun f c l hf hc hl hslug => ?_⟩
  · have hcollapse := collapse_append_word name.toList hw (by decide) hworkflow
    rw [slug, slug, String.toList_append, hcollapse, stripEndings_workflow hdotted]
  · obtain ⟨hnothing, hposition⟩ :=
      collapse_append_separator (mt String.toList_eq_nil_iff.1 hne) hseparator name.toList
    have hcollapse := collapse_append_word (name.toList ++ separator.toList) hf (by decide) hflow
    rw [slug, slug, String.toList_append, String.toList_append, hcollapse, hnothing, hposition]
    -- without a word before it, the `flow` is all there is
    split
    · next hstart =>
      have hnone : collapse name.toList = [] := collapseFrom_of_after_start hstart
      rw [hnone]
      exact congrArg String.ofList (stripEndings_eq_of_shorter rfl (by decide))
    · exact congrArg String.ofList (stripEndings_flow hdotted)
  · obtain ⟨hposition, hsome⟩ := positionAfter_of_getLast? hc hl hslug
    have hcollapse : collapse (name ++ f).toList = collapse name.toList ++ "flow".toList := by
      rw [String.toList_append, collapse_append_word _ hf (by decide) hflow, hposition]
      rfl
    have hboth : IsDotted (collapse name.toList ++ "flow".toList) :=
      hcollapse ▸ isDotted_collapse (name ++ f).toList
    rw [slug, hcollapse, String.ofList_inj, stripEndings_eq_self_iff hboth,
      informative_flow_iff hdotted hsome]

/-- A Kelvin sign in the `workflow`, a separator that is no ASCII text, and a glued `flow`. -/
theorem slug_append_bigData :
    ("WOR\u212aFlow".toList.flatMap lowerChar = "workflow".toList ∧
        slug ("Big Data" ++ "WOR\u212aFlow") = slug "Big Data") ∧
      ("\u0307 \u00b7" ≠ "" ∧
        (∀ c ∈ "\u0307 \u00b7".toList, ∀ l ∈ lowerChar c, isSlugChar l = false) ∧
        "FLOW".toList.flatMap lowerChar = "flow".toList ∧
        slug ("Big Data" ++ "\u0307 \u00b7" ++ "FLOW") = slug "Big Data") ∧
      ("Flow".toList.flatMap lowerChar = "flow".toList ∧ "Big Data".toList.getLast? = some 'a' ∧
        (lowerChar 'a').getLast? = some 'a' ∧ isSlugChar 'a' = true ∧
        ¬"work".toList <:+ collapse "Big Data".toList ∧
        slug ("Big Data" ++ "Flow") = "big.dataflow") := by
  obtain ⟨hworkflow, hseparated, hglued⟩ := slug_append "Big Data"
  have hseparator : ∀ c ∈ "\u0307 \u00b7".toList, ∀ l ∈ lowerChar c, isSlugChar l = false := by
    have hall : ("\u0307 \u00b7".toList.all fun c => (lowerChar c).all (!isSlugChar ·)) = true := rfl
    simpa only [List.all_eq_true, Bool.not_eq_true'] using hall
  have hwork : ¬"work".toList <:+ collapse "Big Data".toList := by decide
  have hkept := (hglued "Flow" 'a' 'a' (by decide) (by decide) (by decide) (by decide)).2 hwork
  exact ⟨⟨by decide, hworkflow _ (by decide)⟩,
    ⟨by decide, hseparator, by decide, hseparated _ _ (by decide) hseparator (by decide)⟩,
    by decide, by decide, by decide, by decide, hwork, hkept⟩

end WorkflowEngine.Routing
