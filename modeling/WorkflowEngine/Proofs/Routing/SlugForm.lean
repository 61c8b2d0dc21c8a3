import Mathlib.Data.List.DropRight
import Mathlib.Logic.Function.Iterate
import WorkflowEngine.Routing.Slug

/-!
# The form of slugs

A slug is made of words with one dot between them and has no uninformative ending. Collapsing and the
removal of endings leave such a text alone, so a slug is its own slug.

* `Continues`, `IsDotted`: words with one dot between them;
* `isDotted_collapse`, `collapse_of_isDotted`: collapsing makes them and leaves them alone;
* `stripEnding_cases`: what the removal of one ending does;
* `exists_rounds`: the removal of endings comes to its end;
* `IsSlug`, **`slug_normalForm`**: what the slug of a name is.
-/

namespace WorkflowEngine.Routing

variable {c : Char} {cs ds : List Char}

/-! ## Words with one dot between them -/

/-- **What may follow a character of a word**: more of the word, or a dot and the next word. -/
inductive Continues : List Char → Prop
  | done : Continues []
  | char {c : Char} {cs : List Char} : isSlugChar c = true → Continues cs → Continues (c :: cs)
  | dot {c : Char} {cs : List Char} : isSlugChar c = true → Continues cs → Continues ('.' :: c :: cs)

/-- **Words with one dot between them.** -/
def IsDotted : List Char → Prop
  | [] => True
  | c :: cs => isSlugChar c = true ∧ Continues cs

theorem isSlugChar_dot : isSlugChar '.' = false := by decide

theorem Continues.mem (h : Continues cs) (hc : c ∈ cs) : isSlugChar c = true ∨ c = '.' := by
  induction h with
  | done => cases hc
  | char hd _ ih =>
    rcases List.mem_cons.1 hc with rfl | hc
    · exact .inl hd
    · exact ih hc
  | dot hd _ ih =>
    rcases List.mem_cons.1 hc with rfl | hc
    · exact .inr rfl
    · rcases List.mem_cons.1 hc with rfl | hc
      · exact .inl hd
      · exact ih hc

theorem Continues.not_dots (h : Continues cs) : ¬['.', '.'] <:+: cs := by
  induction h with
  | done => simp
  | char hd _ ih =>
    rw [List.infix_cons_iff]
    rintro (h | h)
    · rw [List.cons_prefix_cons] at h
      rw [← h.1, isSlugChar_dot] at hd
      cases hd
    · exact ih h
  | dot hd _ ih =>
    rw [List.infix_cons_iff, List.infix_cons_iff]
    rintro (h | h | h)
    · rw [List.cons_prefix_cons, List.cons_prefix_cons] at h
      rw [← h.2.1, isSlugChar_dot] at hd
      cases hd
    · rw [List.cons_prefix_cons] at h
      rw [← h.1, isSlugChar_dot] at hd
      cases hd
    · exact ih h

theorem Continues.getLast?_ne (h : Continues cs) : cs.getLast? ≠ some '.' := by
  induction h with
  | done => simp
  | @char c cs hd _ ih | @dot c cs hd _ ih =>
    cases cs with
    | nil =>
      intro h
      simp only [List.getLast?_cons_cons, List.getLast?_singleton, Option.some.injEq] at h
      rw [h, isSlugChar_dot] at hd
      cases hd
    | cons d ds => simpa only [List.getLast?_cons_cons] using ih

theorem Continues.initial (h : Continues cs) (hp : ds <+: cs) (hl : ds.getLast? ≠ some '.') :
    Continues ds := by
  induction h generalizing ds with
  | done => rw [List.prefix_nil.1 hp]; exact .done
  | char hd _ ih =>
    rcases List.prefix_cons_iff.1 hp with rfl | ⟨es, rfl, hes⟩
    · exact .done
    · refine .char hd (ih hes fun h => hl ?_)
      rw [List.getLast?_cons, h]
      rfl
  | dot hd _ ih =>
    rcases List.prefix_cons_iff.1 hp with rfl | ⟨es, rfl, hes⟩
    · exact .done
    · rcases List.prefix_cons_iff.1 hes with rfl | ⟨fs, rfl, hfs⟩
      · exact absurd rfl hl
      · refine .dot hd (ih hfs fun h => hl ?_)
        rw [List.getLast?_cons_cons, List.getLast?_cons, h]
        rfl

namespace IsDotted

theorem mem (h : IsDotted cs) (hc : c ∈ cs) : isSlugChar c = true ∨ c = '.' := by
  cases cs with
  | nil => cases hc
  | cons d ds => exact (Continues.char h.1 h.2).mem hc

theorem not_dots (h : IsDotted cs) : ¬['.', '.'] <:+: cs := by
  cases cs with
  | nil => simp
  | cons d ds => exact (Continues.char h.1 h.2).not_dots

theorem getLast?_ne (h : IsDotted cs) : cs.getLast? ≠ some '.' := by
  cases cs with
  | nil => simp
  | cons d ds => exact (Continues.char h.1 h.2).getLast?_ne

theorem head?_ne (h : IsDotted cs) : cs.head? ≠ some '.' := by
  cases cs with
  | nil => simp
  | cons d ds =>
    intro hd
    rw [List.head?_cons, Option.some.injEq] at hd
    rw [IsDotted, hd, isSlugChar_dot] at h
    cases h.1

theorem initial (h : IsDotted cs) (hp : ds <+: cs) (hl : ds.getLast? ≠ some '.') :
    IsDotted ds := by
  cases cs with
  | nil => rw [List.prefix_nil.1 hp]; trivial
  | cons c cs =>
    rcases List.prefix_cons_iff.1 hp with rfl | ⟨es, rfl, hes⟩
    · trivial
    · refine ⟨h.1, h.2.initial hes fun h' => hl ?_⟩
      rw [List.getLast?_cons, h']
      rfl

end IsDotted

/-! ## Collapsing -/

theorem continues_collapseFrom (cs : List Char) :
    Continues (collapseFrom .inWord cs) ∧ Continues (collapseFrom .afterWord cs) := by
  induction cs with
  | nil => exact ⟨.done, .done⟩
  | cons c cs ih =>
    rw [collapseFrom, collapseFrom]
    cases hc : isSlugChar c with
    | true => exact ⟨.char hc ih.1, .dot hc ih.1⟩
    | false => exact ⟨ih.2, ih.2⟩

theorem isDotted_collapse (cs : List Char) : IsDotted (collapse cs) := by
  unfold collapse
  induction cs.flatMap lowerChar with
  | nil => trivial
  | cons c cs ih =>
    rw [collapseFrom]
    cases hc : isSlugChar c with
    | true => exact ⟨hc, (continues_collapseFrom cs).1⟩
    | false => exact ih

theorem collapseFrom_of_continues (h : Continues cs) : collapseFrom .inWord cs = cs := by
  induction h with
  | done => rfl
  | char hc _ ih => rw [collapseFrom, if_pos hc, ih]
  | dot hc _ ih =>
    rw [collapseFrom, isSlugChar_dot, if_neg Bool.false_ne_true, collapseFrom, if_pos hc, ih]

theorem toLower_of_isSlugChar (h : isSlugChar c = true) : c.toLower = c := by
  refine dif_neg ?_
  rintro ⟨hA, hZ⟩
  have hA : 65 ≤ c.val.toNat := UInt32.le_iff_toNat_le.1 hA
  have hZ : c.val.toNat ≤ 90 := UInt32.le_iff_toNat_le.1 hZ
  rcases Bool.or_eq_true_iff.1 h with hlower | hdigit
  · have ha : 97 ≤ c.val.toNat :=
      UInt32.le_iff_toNat_le.1 (of_decide_eq_true (Bool.and_eq_true_iff.1 hlower).1)
    omega
  · have hnine : c.val.toNat ≤ 57 := (Char.isDigit_iff_toNat.1 hdigit).2
    omega

theorem lowerChar_eq (h : isSlugChar c = true ∨ c = '.') : lowerChar c = [c] := by
  rcases h with h | rfl
  · have hkelvin : c ≠ '\u212a' := by rintro rfl; revert h; decide
    have hdotted : c ≠ '\u0130' := by rintro rfl; revert h; decide
    rw [lowerChar, if_neg hkelvin, if_neg hdotted, toLower_of_isSlugChar h]
  · decide

theorem flatMap_lowerChar (h : IsDotted cs) : cs.flatMap lowerChar = cs := by
  have hsingle : cs.flatMap lowerChar = cs.flatMap fun c => [c] :=
    List.flatMap_congr fun c hc => lowerChar_eq (h.mem hc)
  rw [hsingle, List.flatMap_singleton']

/-- **Collapsing leaves words alone** that have one dot between them. -/
theorem collapse_of_isDotted (h : IsDotted cs) : collapse cs = cs := by
  rw [collapse, flatMap_lowerChar h]
  cases cs with
  | nil => rfl
  | cons c cs => rw [collapseFrom, if_pos h.1, collapseFrom_of_continues h.2]

/-! ## Removing endings -/

theorem dropEnding?_eq_some_iff {ending rest : List Char} :
    dropEnding? ending cs = some rest ↔ cs = rest ++ ending := by
  rw [dropEnding?]
  split
  · next h =>
    have happend := List.suffix_iff_eq_append.1 (List.isSuffixOf_iff_suffix.1 h)
    rw [Option.some.injEq]
    constructor
    · rintro rfl
      exact happend.symm
    · intro heq
      exact List.append_cancel_right (happend.trans heq)
  · next h =>
    refine ⟨nofun, fun heq => absurd ?_ h⟩
    exact List.isSuffixOf_iff_suffix.2 ⟨rest, heq.symm⟩

theorem dropEnding?_eq_none_iff {ending : List Char} :
    dropEnding? ending cs = none ↔ ¬ending <:+ cs := by
  rw [Option.eq_none_iff_forall_ne_some]
  constructor
  · rintro h ⟨rest, heq⟩
    exact h rest (dropEnding?_eq_some_iff.2 heq.symm)
  · intro h rest heq
    exact h ⟨rest, (dropEnding?_eq_some_iff.1 heq).symm⟩

/-- **Texts without an uninformative ending**: no `workflow` at the end, and no last word `flow`. -/
structure Informative (cs : List Char) : Prop where
  not_workflow : ¬"workflow".toList <:+ cs
  not_flow : ¬".flow".toList <:+ cs
  ne_flow : cs ≠ "flow".toList

theorem trimDots_eq (h : cs.head? ≠ some '.') : trimDots cs = cs.rdropWhile (· = '.') := by
  have hstart : cs.dropWhile (· = '.') = cs := by
    cases cs with
    | nil => rfl
    | cons c cs =>
      have hc : c ≠ '.' := fun hc => h (congrArg some hc)
      rw [List.dropWhile_cons_of_neg (by simpa using hc)]
  rw [trimDots, hstart, List.rdropWhile]

theorem isDotted_trimDots (h : IsDotted cs) (hp : ds <+: cs) :
    IsDotted (trimDots ds) ∧ trimDots ds <+: ds := by
  have hhead : ds.head? ≠ some '.' := by
    intro hd
    obtain ⟨es, rfl⟩ := hp
    exact h.head?_ne (by rw [List.head?_append, hd]; rfl)
  have hinit : ds.rdropWhile (· = '.') <+: ds := List.rdropWhile_prefix _ _
  rw [trimDots_eq hhead]
  refine ⟨h.initial (hinit.trans hp) fun hlast => ?_, hinit⟩
  have hne : ds.rdropWhile (· = '.') ≠ [] := by
    intro hnil
    rw [hnil] at hlast
    cases hlast
  have hdot := List.rdropWhile_last_not (· = '.') ds hne
  rw [List.getLast?_eq_some_getLast hne, Option.some.injEq] at hlast
  exact hdot (by rw [hlast]; rfl)

theorem trimDots_of_isDotted (h : IsDotted cs) : trimDots cs = cs := by
  rw [trimDots_eq h.head?_ne, List.rdropWhile_eq_self_iff]
  intro hne hdot
  refine h.getLast?_ne ?_
  rw [List.getLast?_eq_some_getLast hne]
  exact congrArg some (by simpa using hdot)

/-- **The removal of one ending** changes nothing if there is none, and else leaves a shorter start. -/
theorem stripEnding_cases (h : IsDotted cs) :
    (Informative cs ∧ stripEnding cs = cs) ∨
      (¬Informative cs ∧ (stripEnding cs).length < cs.length ∧ IsDotted (stripEnding cs) ∧
        stripEnding cs <+: cs) := by
  -- what stands before an ending that is not empty
  have hshorter : ∀ {rest ending : List Char}, cs = rest ++ ending → ending ≠ [] →
      (trimDots rest).length < cs.length ∧ IsDotted (trimDots rest) ∧ trimDots rest <+: cs := by
    intro rest ending heq hne
    have hp : rest <+: cs := ⟨ending, heq.symm⟩
    obtain ⟨hdotted, hinit⟩ := isDotted_trimDots h hp
    refine ⟨?_, hdotted, hinit.trans hp⟩
    have hlength := congrArg List.length heq
    rw [List.length_append] at hlength
    have := hinit.length_le
    have := List.length_pos_iff.2 hne
    omega
  rw [stripEnding]
  cases hworkflow : dropEnding? "workflow".toList cs with
  | some rest =>
    have heq := dropEnding?_eq_some_iff.1 hworkflow
    exact .inr ⟨fun hi => hi.not_workflow ⟨rest, heq.symm⟩, hshorter heq (by decide)⟩
  | none =>
    dsimp only
    split
    · next hflow => exact .inr ⟨fun hi => hi.ne_flow hflow, hshorter hflow (by decide)⟩
    · next hflow =>
      cases hdotflow : dropEnding? ".flow".toList cs with
      | some rest =>
        have heq := dropEnding?_eq_some_iff.1 hdotflow
        exact .inr ⟨fun hi => hi.not_flow ⟨rest, heq.symm⟩, hshorter heq (by decide)⟩
      | none =>
        refine .inl ⟨⟨dropEnding?_eq_none_iff.1 hworkflow, dropEnding?_eq_none_iff.1 hdotflow, hflow⟩, ?_⟩
        exact trimDots_of_isDotted h

/-- **What is left after all endings were removed.** -/
structure Stripped (cs ds : List Char) : Prop where
  dotted : IsDotted ds
  informative : Informative ds
  start : ds <+: cs

/-- **The removal of endings comes to its end.** Every round but the last makes the text shorter, and
the last one finds nothing to remove. -/
theorem exists_rounds (h : IsDotted cs) :
    ∃ rounds ≤ cs.length, stripEnding^[rounds] cs = stripEndings cs ∧
      stripEnding (stripEndings cs) = stripEndings cs ∧
      (∀ k < rounds, (stripEnding^[k + 1] cs).length < (stripEnding^[k] cs).length) ∧
      Stripped cs (stripEndings cs) := by
  fun_induction stripEndings cs with
  | case1 cs hlt ih =>
    obtain ⟨-, heq⟩ | ⟨-, hless, hdotted, hinit⟩ := stripEnding_cases h
    · rw [heq] at hlt
      exact absurd hlt (Nat.lt_irrefl _)
    · obtain ⟨rounds, hle, hend, hfix, hrounds, hstripped⟩ := ih hdotted
      refine ⟨rounds + 1, by omega, hend, hfix, ?_, hstripped.dotted, hstripped.informative,
        hstripped.start.trans hinit⟩
      rintro (_ | k) hk
      · exact hless
      · exact hrounds k (Nat.lt_of_succ_lt_succ hk)
  | case2 cs hle =>
    obtain ⟨hinformative, heq⟩ | ⟨-, hless, -⟩ := stripEnding_cases h
    · exact ⟨0, Nat.zero_le _, rfl, heq, fun k hk => absurd hk (Nat.not_lt_zero k), h, hinformative,
        List.prefix_refl cs⟩
    · exact absurd hless hle

theorem stripEndings_of_informative (h : IsDotted cs) (hi : Informative cs) :
    stripEndings cs = cs := by
  obtain ⟨-, heq⟩ | ⟨hni, -⟩ := stripEnding_cases h
  · exact stripEndings_of_length_le (Nat.le_of_eq (congrArg List.length heq).symm)
  · exact absurd hi hni

/-! ## Slugs -/

/-- **The form of a slug**: small letters, digits and dots; no dot at an end and no two dots in a row;
and no uninformative ending. -/
structure IsSlug (s : String) : Prop where
  chars : ∀ c ∈ s.toList, isSlugChar c = true ∨ c = '.'
  start : s.toList.head? ≠ some '.'
  stop : s.toList.getLast? ≠ some '.'
  single : ¬['.', '.'] <:+: s.toList
  informative : Informative s.toList

theorem IsSlug.of_isDotted {s : String} (h : IsDotted s.toList) (hi : Informative s.toList) :
    IsSlug s where
  chars _ hc := h.mem hc
  start := h.head?_ne
  stop := h.getLast?_ne
  single := h.not_dots
  informative := hi

/-- **The slug of a name**: it has the form of a slug and is its own slug, it is a start of the words
of the name, and the removal of endings comes to it, in at most as many rounds as there are characters. -/
theorem slug_normalForm (name : String) :
    IsSlug (slug name) ∧ slug (slug name) = slug name ∧
      (slug name).toList <+: collapse name.toList ∧
      ∃ rounds ≤ (collapse name.toList).length,
        stripEnding^[rounds] (collapse name.toList) = (slug name).toList ∧
        stripEnding (slug name).toList = (slug name).toList ∧
        ∀ k < rounds, (stripEnding^[k + 1] (collapse name.toList)).length <
          (stripEnding^[k] (collapse name.toList)).length := by
  obtain ⟨rounds, hle, hend, hfix, hrounds, hstripped⟩ := exists_rounds (isDotted_collapse name.toList)
  have htoList : (slug name).toList = stripEndings (collapse name.toList) := String.toList_ofList
  rw [← htoList] at hend hfix hstripped
  have hagain : slug (slug name) = slug name := by
    rw [slug, collapse_of_isDotted hstripped.dotted,
      stripEndings_of_informative hstripped.dotted hstripped.informative, String.ofList_toList]
  exact ⟨.of_isDotted hstripped.dotted hstripped.informative, hagain, hstripped.start, rounds, hle,
    hend, hfix, hrounds⟩

end WorkflowEngine.Routing
