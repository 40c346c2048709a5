import CompilerDriver.Yaml.Gap
import CompilerDriver.Yaml.Writer
import Mathlib.Data.List.TakeWhile
/-!
# Written characters

Printable characters come through decoding as they are (`characters?_toUTF8`). Between two of them a reader
finds a gap of spaces or of breaks, and gaps of one kind stand for themselves (`Gap.fold_spaces`,
`Gap.fold_separators`).
-/

namespace CompilerDriver.Yaml

/-! ## Printable characters -/

theorem isAllowed_of_isPrintable {c : Char} (h : isPrintable c = true) : isAllowed c = true := by
  -- Of the control characters only the break is printable.
  by_cases hc : c.toNat = 0x0A
  · have : c = '\n' := Char.toNat_inj.1 hc
    subst this
    rfl
  · simp only [isPrintable, isAllowed, Bool.or_eq_true, Bool.and_eq_true, decide_eq_true_eq] at h ⊢
    omega

/-- Of the characters that decoding changes or a reader skips specially, none is printable. -/
theorem ne_of_isPrintable {c d : Char} (h : isPrintable c = true)
    (hd : isPrintable d = false := by rfl) : c ≠ d := by
  rintro rfl
  rw [h] at hd
  cases hd

/-- A printable character between two words is a space or a break. -/
theorem isGap_of_isPrintable {c : Char} (h : isPrintable c = true) :
    isGap c = (isSpace c || isBreak c) := by
  have : c ≠ '\t' := ne_of_isPrintable h
  simp [isGap, isBlank, isSpace, this]

theorem isGap_space : isGap ' ' = true := rfl

theorem isGap_of_isBreak {c : Char} (h : isBreak c = true) : isGap c = true := by
  simp [isGap, h]

/-! ## Decoding -/

theorem unifyBreaks_eq_self {cs : List Char} (h : ∀ c ∈ cs, isPrintable c = true) :
    unifyBreaks cs = cs := by
  induction cs with
  | nil => rfl
  | cons c rest ih =>
    have hc := h c List.mem_cons_self
    have hReturn : c ≠ '\r' := ne_of_isPrintable hc
    have hNextLine : c ≠ '\u0085' := ne_of_isPrintable hc
    rw [unifyBreaks]
    -- The first branch is for a return with a break behind it.
    · rw [ih (fun d hd => h d (List.mem_cons_of_mem _ hd)), if_neg (by simp [hReturn, hNextLine])]
    · rintro _ rfl
      exact absurd rfl hReturn

/-- A printable text comes through decoding as it is. -/
theorem characters?_toUTF8 {text : String} (h : ∀ c ∈ text.toList, isPrintable c = true) :
    characters? text.toUTF8 = some text.toList := by
  have hAllowed : text.toList.all isAllowed = true :=
    List.all_eq_true.2 (fun c hc => isAllowed_of_isPrintable (h c hc))
  have hDecoded : String.fromUTF8? text.toUTF8 = some text := dif_pos text.isValidUTF8
  rw [characters?, hDecoded, Option.bind_eq_bind, Option.bind_some, if_pos hAllowed,
    unifyBreaks_eq_self h]

theorem isPrintable_of_mem_indentation {width : Nat} {afterBreak : Bool} :
    ∀ c ∈ if afterBreak then indentation width else [], isPrintable c = true := by
  intro c hc
  split at hc
  · rw [List.eq_of_mem_replicate hc]
    rfl
  · cases hc

/-! ## Where a line begins anew -/

/-- Whether the text is at its end or goes on with a letter, as a line with a key does. -/
def StartsWithLetter (cs : List Char) : Prop :=
  ∀ c ∈ cs.head?, c.isAlpha = true

theorem ne_of_isAlpha {c d : Char} (h : c.isAlpha = true) (hd : d.isAlpha = false := by rfl) :
    c ≠ d := by
  rintro rfl
  rw [h] at hd
  cases hd

theorem isGap_of_isAlpha {c : Char} (h : c.isAlpha = true) : isGap c = false := by
  cases hGap : isGap c with
  | false => rfl
  | true =>
    simp only [isGap, isBlank, isBreak, Bool.or_eq_true, decide_eq_true_eq] at hGap
    rcases hGap with (rfl | rfl) | (rfl | rfl) | rfl <;> cases h

/-! ## Gaps -/

namespace Gap

variable {gap : List Char}

theorem isBroken_spaces (h : ∀ c ∈ gap, c = ' ') : isBroken gap = false := by
  rw [isBroken, List.any_eq_false]
  intro c hc
  rw [h c hc]
  decide

theorem endsLine_spaces (h : ∀ c ∈ gap, c = ' ') : endsLine gap = false := by
  cases gap with
  | nil => rfl
  | cons c gap => rw [h c List.mem_cons_self]; rfl

/-- Spaces alone stand for themselves. -/
theorem fold_spaces (h : ∀ c ∈ gap, c = ' ') : fold gap = gap.reverse := by
  have hBlank : gap.reverse.dropWhile isBlank = [] := by
    rw [List.dropWhile_eq_nil_iff]
    intro c hc
    rw [h c (List.mem_reverse.1 hc)]
    rfl
  rw [fold, hBlank]

/-- Separators alone stand for themselves, and the spaces behind them for nothing. -/
theorem fold_separators {spaces separators : List Char} (hSpaces : ∀ c ∈ spaces, c = ' ')
    (hBreak : ∀ c ∈ separators, isBreak c = true) (hFeed : '\n' ∉ separators)
    (hSome : separators ≠ []) : fold (spaces ++ separators) = separators.reverse := by
  obtain ⟨first, more, hReverse⟩ := List.exists_cons_of_ne_nil (List.reverse_ne_nil_iff.2 hSome)
  have hMem {c : Char} (hc : c ∈ first :: more) : c ∈ separators :=
    List.mem_reverse.1 (hReverse ▸ hc)
  have hFirst := hBreak first (hMem List.mem_cons_self)
  have hNotFeed : first ≠ '\n' := fun h => hFeed (h ▸ hMem List.mem_cons_self)
  have hNotBlank : isBlank first = false := by
    cases hb : isBlank first with
    | false => rfl
    | true =>
      rcases (by simpa [isBlank] using hb : first = ' ' ∨ first = '\t') with rfl | rfl <;> cases hFirst
  have hMore : (more ++ spaces.reverse).filter isBreak = more := by
    have hKept : more.filter isBreak = more := by
      rw [List.filter_eq_self]
      intro c hc
      exact hBreak c (hMem (List.mem_cons_of_mem _ hc))
    have hDropped : spaces.reverse.filter isBreak = [] := by
      rw [List.filter_eq_nil_iff]
      intro c hc
      rw [hSpaces c (List.mem_reverse.1 hc)]
      decide
    rw [List.filter_append, hKept, hDropped, List.append_nil]
  rw [fold, List.reverse_append, hReverse, List.cons_append, List.dropWhile_cons_of_neg (by simp [hNotBlank])]
  simp only [if_neg hNotFeed, hMore]

end Gap

end CompilerDriver.Yaml
