import CompilerDriver.Text.Lowercase
/-!
# A text in lowercase

The lowercase forms that the table gives lie outside all of its runs (`lower?_eq_none_of_lower?`), so a text in
lowercase stays as it is (`lowercase_lowercase`), also where a sigma or a dotted capital I was. A dash is neither
cased nor skipped. What stands before it has no say in the form of a sigma behind it (`lowerAfter_behind_dash`),
and no other character becomes a dash, so dashes in front are the same before and after lowercasing
(`dropWhile_lowerAfter`).
-/

namespace CompilerDriver.Text

/-! ## Runs -/

namespace CaseRun

/-- No lowercase form of a character of the run is a character of the other one: the forms lie before it or
behind it, or between its characters. -/
def isApart (run other : CaseRun) : Bool :=
  (run.lower + (run.last - run.first)).blt other.first || other.last.blt run.lower ||
    ((run.step == 2 || run.first == run.last) && other.step == 2 && (run.lower + other.first) % 2 == 1)

/-- The numbers of the forms are numbers of characters. -/
def isValid (run : CaseRun) : Bool :=
  run.lower + (run.last - run.first) < 0xD800 ||
    (0xDFFF < run.lower && run.lower + (run.last - run.first) < 0x110000)

/-- The one character with a lowercase form of two, as a run. -/
def dotted : CaseRun :=
  ⟨0x130, 0x130, 1, 0x69⟩

variable {run other : CaseRun} {code form : Nat}

theorem lower?_eq_some_iff : run.lower? code = some form ↔
    run.first ≤ code ∧ code ≤ run.last ∧ (code - run.first) % run.step = 0 ∧
      form = run.lower + (code - run.first) := by
  unfold lower?
  split
  · next h => simp [h, eq_comm]
  · next h =>
    simp only [reduceCtorEq, false_iff]
    rintro ⟨hFirst, hLast, hStep, -⟩
    exact h ⟨hFirst, hLast, hStep⟩

theorem lower?_eq_none_of_isApart (hApart : run.isApart other = true) (h : run.lower? code = some form) :
    other.lower? form = none := by
  obtain ⟨hFirst, hLast, hStep, rfl⟩ := lower?_eq_some_iff.1 h
  rw [Option.eq_none_iff_forall_ne_some]
  intro form' h'
  obtain ⟨hFirst', hLast', hStep', -⟩ := lower?_eq_some_iff.1 h'
  simp only [isApart, Bool.or_eq_true, Bool.and_eq_true, Nat.blt_eq, beq_iff_eq] at hApart
  rcases hApart with (hBefore | hBehind) | ⟨⟨hEven, hTwo⟩, hBetween⟩
  · omega
  · omega
  · -- the forms are all even or all odd, and the characters of the other run are the opposite
    rw [hTwo] at hStep'
    rcases hEven with hEven | hEven
    · rw [hEven] at hStep
      omega
    · omega

theorem isValidChar_of_lower? (hValid : run.isValid = true) (h : run.lower? code = some form) :
    form.isValidChar := by
  obtain ⟨hFirst, hLast, -, rfl⟩ := lower?_eq_some_iff.1 h
  simp only [isValid, Bool.or_eq_true, Bool.and_eq_true, decide_eq_true_eq] at hValid
  unfold Nat.isValidChar
  omega

end CaseRun

variable {run other : CaseRun} {code form : Nat} {c d : Char}

theorem isApart_of_mem (h : run ∈ caseRuns) (h' : other ∈ caseRuns) : run.isApart other = true := by
  have hAll : caseRuns.all (fun run => caseRuns.all run.isApart) = true := by decide +kernel
  exact List.all_eq_true.1 (List.all_eq_true.1 hAll run h) other h'

theorem isValid_of_mem (h : run ∈ caseRuns) : run.isValid = true ∧ run.isApart .dotted = true := by
  have hAll : caseRuns.all (fun run => run.isValid && run.isApart .dotted) = true := by decide +kernel
  simpa using List.all_eq_true.1 hAll run h

theorem dash_lt_of_mem (h : run ∈ caseRuns) : '-'.toNat < run.lower := by
  have hAll : caseRuns.all (fun run => '-'.toNat < run.lower) = true := by decide +kernel
  simpa using List.all_eq_true.1 hAll run h

/-- A lowercase form has no lowercase form of its own. -/
theorem lower?_eq_none_of_lower? (hRun : run ∈ caseRuns) (h : run.lower? code = some form) :
    ∀ other ∈ caseRuns, other.lower? form = none := by
  intro other hOther
  exact CaseRun.lower?_eq_none_of_isApart (isApart_of_mem hRun hOther) h

/-! ## Characters in lowercase -/

/-- The character has no other lowercase form. -/
structure IsLower (c : Char) : Prop where
  lower? : ∀ run ∈ caseRuns, run.lower? c.toNat = none
  undotted : c ≠ '\u0130'

theorem lowerCode_eq (h : ∀ run ∈ caseRuns, run.lower? code = none) : lowerCode code = code := by
  rw [lowerCode, List.findSome?_eq_none_iff.2 h]
  rfl

/-- The lowercase form of a code point is its own, or a run of the table gives it. -/
theorem lowerCode_cases (code : Nat) : (∀ run ∈ caseRuns, run.lower? code = none) ∨
    ∃ run ∈ caseRuns, run.lower? code = some (lowerCode code) := by
  cases h : caseRuns.findSome? (fun run => run.lower? code) with
  | none => exact .inl (List.findSome?_eq_none_iff.1 h)
  | some form =>
    obtain ⟨run, hRun, hForm⟩ := List.exists_of_findSome?_eq_some h
    refine .inr ⟨run, hRun, ?_⟩
    rw [hForm, lowerCode, h]
    rfl

theorem toNat_ofNat (h : code.isValidChar) : (Char.ofNat code).toNat = code := by
  rw [Char.ofNat, dif_pos h]
  rfl

theorem IsLower.lowerChar_eq (h : IsLower c) : lowerChar c = [c] := by
  rw [lowerChar, if_neg h.undotted, lowerCode_eq h.lower?, Char.ofNat_toNat]

theorem IsLower.ne_sigma (h : IsLower c) : c ≠ 'Σ' := by
  rintro rfl
  have hSome : caseRuns.any (fun run => (run.lower? 'Σ'.toNat).isSome) = true := by decide +kernel
  obtain ⟨run, hRun, hForm⟩ := List.any_eq_true.1 hSome
  rw [h.lower? run hRun] at hForm
  cases hForm

theorem isLower_of_lower? (hRun : run ∈ caseRuns) (h : run.lower? code = some form) :
    IsLower (Char.ofNat form) := by
  obtain ⟨hValid, hDotted⟩ := isValid_of_mem hRun
  have hNumber := toNat_ofNat (CaseRun.isValidChar_of_lower? hValid h)
  constructor
  · rw [hNumber]
    exact lower?_eq_none_of_lower? hRun h
  · intro hEq
    have hNone := CaseRun.lower?_eq_none_of_isApart hDotted h
    rw [← hNumber, hEq] at hNone
    cases hNone

theorem isLower_of_forall (h : caseRuns.all (fun run => (run.lower? c.toNat).isNone) = true)
    (hUndotted : c ≠ '\u0130') : IsLower c := by
  refine ⟨?_, hUndotted⟩
  intro run hRun
  exact Option.isNone_iff_eq_none.1 (List.all_eq_true.1 h run hRun)

theorem isLower_of_mem_lowerChar (h : d ∈ lowerChar c) : IsLower d := by
  unfold lowerChar at h
  split at h
  · have hForms : d = 'i' ∨ d = '\u0307' := by simpa using h
    rcases hForms with rfl | rfl
    · exact isLower_of_forall (by decide +kernel) (by decide)
    · exact isLower_of_forall (by decide +kernel) (by decide)
  · next hUndotted =>
    rw [List.mem_singleton.1 h]
    rcases lowerCode_cases c.toNat with hNone | ⟨run, hRun, hForm⟩
    · rw [lowerCode_eq hNone, Char.ofNat_toNat]
      exact ⟨hNone, hUndotted⟩
    · exact isLower_of_lower? hRun hForm

theorem isLower_lowerSigma (before after : List Char) : IsLower (lowerSigma before after) := by
  unfold lowerSigma
  split
  · exact isLower_of_forall (by decide +kernel) (by decide)
  · exact isLower_of_forall (by decide +kernel) (by decide)

/-! ## Texts in lowercase -/

theorem isLower_of_mem_lowerAfter {before cs : List Char} (h : d ∈ lowerAfter before cs) : IsLower d := by
  induction cs generalizing before with
  | nil => cases h
  | cons c cs ih =>
    rw [lowerAfter, List.mem_append] at h
    rcases h with h | h
    · split at h
      · rw [List.mem_singleton.1 h]
        exact isLower_lowerSigma before cs
      · exact isLower_of_mem_lowerChar h
    · exact ih h

theorem lowerAfter_of_isLower {cs : List Char} (h : ∀ c ∈ cs, IsLower c) (before : List Char) :
    lowerAfter before cs = cs := by
  induction cs generalizing before with
  | nil => rfl
  | cons c cs ih =>
    have hFirst := h c List.mem_cons_self
    rw [lowerAfter, if_neg hFirst.ne_sigma, hFirst.lowerChar_eq,
      ih (fun d hd => h d (List.mem_cons_of_mem c hd))]
    rfl

theorem lowercase_lowercase (text : String) : lowercase (lowercase text) = lowercase text := by
  rw [lowercase, lowercase, String.toList_ofList, lowerAfter_of_isLower fun _ => isLower_of_mem_lowerAfter]

/-! ## Dashes in front -/

theorem isCaseIgnorable_dash : isCaseIgnorable '-' = false := by
  decide +kernel

theorem isCased_dash : isCased '-' = false := by
  decide +kernel

theorem meetsCased_append_dash (cs rest : List Char) : meetsCased (cs ++ '-' :: rest) = meetsCased cs := by
  unfold meetsCased
  induction cs with
  | nil => simp [isCaseIgnorable_dash, isCased_dash]
  | cons c cs ih =>
    rw [List.cons_append, List.dropWhile_cons, List.dropWhile_cons]
    split
    · exact ih
    · rfl

/-- What stands before a dash has no say in what stands behind it. -/
theorem lowerAfter_behind_dash (before rest cs : List Char) :
    lowerAfter (before ++ '-' :: rest) cs = lowerAfter before cs := by
  induction cs generalizing before with
  | nil => rfl
  | cons c cs ih =>
    rw [lowerAfter, lowerAfter, ← List.cons_append, ih]
    simp only [lowerSigma, meetsCased_append_dash]

theorem lowerAfter_dash (cs : List Char) : lowerAfter [] ('-' :: cs) = '-' :: lowerAfter [] cs := by
  have hDash : lowerChar '-' = ['-'] :=
    IsLower.lowerChar_eq (isLower_of_forall (by decide +kernel) (by decide))
  rw [lowerAfter, if_neg (by decide), hDash]
  exact congrArg ('-' :: ·) (lowerAfter_behind_dash [] [] cs)

theorem ofNat_lowerCode_ne_dash (h : c ≠ '-') : Char.ofNat (lowerCode c.toNat) ≠ '-' := by
  rcases lowerCode_cases c.toNat with hNone | ⟨run, hRun, hForm⟩
  · rwa [lowerCode_eq hNone, Char.ofNat_toNat]
  · have hNumber := toNat_ofNat (CaseRun.isValidChar_of_lower? (isValid_of_mem hRun).1 hForm)
    obtain ⟨-, -, -, hPlace⟩ := CaseRun.lower?_eq_some_iff.1 hForm
    have hLower := dash_lt_of_mem hRun
    intro hEq
    rw [hEq] at hNumber
    omega

/-- The form of a character that is no dash starts with none. -/
theorem lowerAfter_cons_eq (h : c ≠ '-') (before cs : List Char) :
    ∃ first more, lowerAfter before (c :: cs) = first :: more ∧ first ≠ '-' := by
  rw [lowerAfter]
  split
  · refine ⟨_, _, rfl, ?_⟩
    unfold lowerSigma
    split <;> decide
  · unfold lowerChar
    split
    · exact ⟨_, _, rfl, by decide⟩
    · exact ⟨_, _, rfl, ofNat_lowerCode_ne_dash h⟩

/-- Taking the dashes in front away and lowercasing can change places. -/
theorem dropWhile_lowerAfter (cs : List Char) :
    (lowerAfter [] cs).dropWhile (· == '-') = lowerAfter [] (cs.dropWhile (· == '-')) := by
  induction cs with
  | nil => rfl
  | cons c cs ih =>
    by_cases h : c = '-'
    · subst h
      rw [lowerAfter_dash, List.dropWhile_cons_of_pos (by simp), List.dropWhile_cons_of_pos (by simp), ih]
    · obtain ⟨first, more, hForm, hFirst⟩ := lowerAfter_cons_eq h [] cs
      rw [List.dropWhile_cons_of_neg (by simpa using h), hForm,
        List.dropWhile_cons_of_neg (by simpa using hFirst)]

end CompilerDriver.Text
