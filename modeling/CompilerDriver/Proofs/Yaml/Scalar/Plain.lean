import CompilerDriver.Proofs.Yaml.Character
import CompilerDriver.Yaml.Scalar.Plain
/-!
# Plain scalars are read as they are written

A text that may be written plain is read up to the end of its line (`scan?_line`), or up to a colon that
ends a word (`scan?_colon`), and what is read is the text.
-/

namespace CompilerDriver.Yaml.Plain

/-- A text that can be told from all other tokens and from what follows it without quotes. -/
structure IsBare (cs : List Char) : Prop where
  nonempty : cs ≠ []
  spaced : ∀ c ∈ cs, isGap c = true → c = ' '
  head_ne : cs.head? ≠ some ' '
  getLast_ne : cs.getLast? ≠ some ' '
  starts : startsWithIndicator cs = false
  goesOn : hasIndicator true cs = false

theorem eq_space_of_isGap {cs : List Char} (hPrintable : ∀ c ∈ cs, isPrintable c = true)
    (hBreak : ∀ c ∈ cs, isBreak c = false) : ∀ c ∈ cs, isGap c = true → c = ' ' := by
  intro c hc hGap
  rw [isGap_of_isPrintable (hPrintable c hc), hBreak c hc, Bool.or_false] at hGap
  simpa [isSpace] using hGap

theorem isBare_of_allowsPlain {cs : List Char} (hNull : isNull cs = false)
    (h : allowsPlain cs = true) : IsBare cs := by
  simp only [allowsPlain, Bool.and_eq_true, Bool.not_eq_true', List.all_eq_true,
    List.any_eq_false] at h
  obtain ⟨⟨⟨⟨⟨⟨hPrintable, hBreak⟩, hHead⟩, hLast⟩, -⟩, hStart⟩, hIndicator⟩ := h
  refine ⟨?_, ?_, ?_, ?_, hStart, hIndicator⟩
  · rintro rfl
    cases hNull
  · exact eq_space_of_isGap hPrintable (fun c hc => Bool.eq_false_iff.2 (hBreak c hc))
  · intro hs
    rw [hs] at hHead
    cases hHead
  · intro hs
    rw [hs] at hLast
    cases hLast

/-! ## Indicators -/

theorem hasIndicator_of_true {cs : List Char} {afterGap : Bool} (h : hasIndicator true cs = false) :
    hasIndicator afterGap cs = false := by
  cases cs with
  | nil => rfl
  | cons c rest =>
    simp only [hasIndicator, Bool.or_eq_false_iff] at h ⊢
    obtain ⟨⟨hColon, hComment⟩, hRest⟩ := h
    exact ⟨⟨hColon, by simpa using fun hc => absurd hc (by simpa using hComment)⟩, hRest⟩

/-- What follows a text matters for its last word only. -/
theorem endsWord_append {cs : List Char} (h : cs ≠ []) (tail : List Char) :
    endsWord (cs ++ tail) = endsWord cs := by
  obtain ⟨c, rest, rfl⟩ := List.exists_cons_of_ne_nil h
  rfl

theorem endsWord_append_eq_false {cs : List Char} (h : endsWord cs = false) (tail : List Char) :
    endsWord (cs ++ tail) = false := by
  have hNonempty : cs ≠ [] := by
    rintro rfl
    cases h
  rw [endsWord_append hNonempty, h]

/-! ## Reading -/

theorem getLast?_ne_of_cons {c : Char} {rest : List Char} (h : (c :: rest).getLast? ≠ some ' ') :
    rest.getLast? ≠ some ' ' := by
  intro hLast
  rw [List.getLast?_cons, hLast] at h
  exact h rfl

/-- A character goes on with the text behind spaces, if it is no indicator where it stands. -/
theorem endsAt_eq_false {margin : Nat} {gap rest : List Char} {c : Char} (hGap : ∀ d ∈ gap, d = ' ')
    (hColon : (c = ':' && endsWord rest) = false) (hComment : (c = '#' && !gap.isEmpty) = false)
    (tail : List Char) : endsAt false margin gap c (rest ++ tail) = false := by
  have hWord : (c = ':' && endsWord (rest ++ tail)) = false := by
    rw [Bool.and_eq_false_iff] at hColon ⊢
    rcases hColon with hc | hRest
    · exact .inl hc
    · exact .inr (endsWord_append_eq_false hRest tail)
  have hNumberSign : (!gap.isEmpty && c = '#') = false := by
    rw [Bool.and_comm]
    exact hComment
  simp only [endsAt, Gap.isBroken_spaces hGap, Gap.endsLine_spaces hGap, hWord, hNumberSign,
    Bool.false_and, Bool.or_false]

/-- A text is read with its spaces as they are, and what follows it as if that stood alone. -/
theorem scan?_append {margin : Nat} {gap cs : List Char} (tail : List Char)
    (hGap : ∀ c ∈ gap, c = ' ') (hNil : cs = [] → gap = [])
    (hSpaced : ∀ c ∈ cs, isGap c = true → c = ' ') (hLast : cs.getLast? ≠ some ' ')
    (hIndicator : hasIndicator (!gap.isEmpty) cs = false) :
    scan? false margin gap (cs ++ tail) =
      (scan? false margin [] tail).map
        (fun scanned => { scanned with text := gap.reverse ++ cs ++ scanned.text }) := by
  induction cs generalizing gap with
  | nil => simp [hNil rfl]
  | cons c rest ih =>
    obtain ⟨hc, hRest⟩ := List.forall_mem_cons.1 hSpaced
    simp only [hasIndicator, Bool.or_eq_false_iff] at hIndicator
    obtain ⟨⟨hColon, hComment⟩, hLater⟩ := hIndicator
    have hLastRest := getLast?_ne_of_cons hLast
    rw [List.cons_append, scan?]
    by_cases hBlank : isGap c = true
    · -- A space joins the gap, which ends before the text does.
      obtain rfl := hc hBlank
      rw [if_pos hBlank, if_neg (by simp)]
      have hSpaces : ∀ d ∈ ' ' :: gap, d = ' ' := List.forall_mem_cons.2 ⟨rfl, hGap⟩
      have hSome : rest = [] → (' ' :: gap : List Char) = [] := by
        rintro rfl
        exact absurd rfl hLast
      rw [ih hSpaces hSome hRest hLastRest hLater]
      simp
    · have hEnds : endsAt false margin gap c (rest ++ tail) = false :=
        endsAt_eq_false hGap hColon hComment tail
      rw [if_neg hBlank, if_neg (by simp [hEnds]), if_neg (by simp), Gap.fold_spaces hGap,
        ih (by simp) (fun _ => rfl) hRest hLastRest (by simpa [hBlank] using hLater)]
      -- What the tail gives is the same on both sides.
      cases scan? false margin [] tail with
      | none => rfl
      | some scanned => simp

variable {cs : List Char}

theorem IsBare.scan?_append {margin : Nat} (h : IsBare cs) (tail : List Char) :
    scan? false margin [] (cs ++ tail) =
      (scan? false margin [] tail).map
        (fun scanned => { scanned with text := cs ++ scanned.text }) :=
  Plain.scan?_append tail (by simp) (fun _ => rfl) h.spaced h.getLast_ne (hasIndicator_of_true h.goesOn)

/-- The text is read up to the end of its line, where the next line is not indented. -/
theorem IsBare.scan?_line {margin : Nat} (h : IsBare cs) (hMargin : 0 < margin) {after : List Char}
    (hAfter : StartsWithLetter after) :
    scan? false margin [] (cs ++ '\n' :: after) = some ⟨cs, after, true⟩ := by
  have hBroken : Gap.isBroken ['\n'] = true := rfl
  have hBreak : scan? false margin [] ('\n' :: after) = some ⟨[], after, true⟩ := by
    rw [scan?, if_pos (show isGap '\n' = true from rfl), if_neg (by simp)]
    cases after with
    | nil => rfl
    | cons c rest =>
      have hc := isGap_of_isAlpha (hAfter c rfl)
      rw [scan?, if_neg (by simp [hc]), if_pos]
      · rfl
      · simp [endsAt, hBroken, Gap.column, isBreak, hMargin]
  rw [h.scan?_append, hBreak]
  simp

/-- The text is read up to a colon that ends a word. -/
theorem IsBare.scan?_colon {margin : Nat} (h : IsBare cs) {after : List Char}
    (hAfter : endsWord after = true) :
    scan? false margin [] (cs ++ ':' :: after) = some ⟨cs, ':' :: after, false⟩ := by
  have hColon : scan? false margin [] (':' :: after) = some ⟨[], ':' :: after, false⟩ := by
    rw [scan?, if_neg (by decide), if_pos]
    · rfl
    · simp [endsAt, hAfter]
  rw [h.scan?_append, hColon]
  simp

/-! ## The start of the text -/

theorem isBlank_of_endsWord {cs : List Char} (h : endsWord cs = false) :
    cs.head?.all (fun c => !isBlank c) = true := by
  cases cs with
  | nil => rfl
  | cons c rest =>
    simp only [endsWord, isGap, List.head?_cons, Option.all_some, Bool.or_eq_false_iff] at h
    simp [h.1]

variable {c : Char} {rest : List Char}

theorem IsBare.isGap_head (h : IsBare (c :: rest)) : isGap c = false := by
  cases hGap : isGap c with
  | false => rfl
  | true => exact absurd (congrArg some (h.spaced c List.mem_cons_self hGap)) h.head_ne

theorem IsBare.not_mem (h : IsBare (c :: rest)) : c ∉ "#,[]\x7b\x7d&*!|>'\"%@`".toList := by
  have hStart := h.starts
  simp only [startsWithIndicator, Bool.or_eq_false_iff] at hStart
  intro hc
  exact absurd (List.contains_iff_mem.2 hc) (Bool.eq_false_iff.1 hStart.1)

/-- A sign that would begin something else on its own begins a word. -/
theorem IsBare.endsWord_tail (h : IsBare (c :: rest)) (hc : c = '-' ∨ c = '?' ∨ c = ':') :
    endsWord rest = false := by
  have hStart := h.starts
  have hGoesOn := h.goesOn
  simp only [startsWithIndicator, hasIndicator, Bool.or_eq_false_iff] at hStart hGoesOn
  rcases hc with rfl | rfl | rfl
  · simpa using hStart.2
  · simpa using hStart.2
  · simpa using hGoesOn.1.1

/-- A plain scalar can begin where the text does, whatever follows it. -/
theorem IsBare.canStart (h : IsBare (c :: rest)) (tail : List Char) :
    canStart false (c :: (rest ++ tail)) = true := by
  have hWord (hc : c = '-' ∨ c = '?' ∨ c = ':') : endsWord (rest ++ tail) = false :=
    endsWord_append_eq_false (h.endsWord_tail hc) tail
  rw [Plain.canStart, if_neg (by simp [h.isGap_head])]
  split
  · next hc => exact isBlank_of_endsWord (hWord (.inl hc))
  split
  · next hc =>
    have hMark : c = '?' ∨ c = ':' := by simpa using hc
    simp [hWord (.inr hMark)]
  · have := h.not_mem
    simp_all [isFlowIndicator]

end CompilerDriver.Yaml.Plain
