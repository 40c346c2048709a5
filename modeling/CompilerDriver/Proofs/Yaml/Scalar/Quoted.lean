import CompilerDriver.Proofs.Number.Digits
import CompilerDriver.Proofs.Yaml.Character
import CompilerDriver.Yaml.Scalar.Quoted
/-!
# Quoted scalars are read as they are written

Between single quotes the breaks of a text are kept because no space is next to one, and the spaces that
indent the line behind them are dropped (`scanSingle?_writeSingle`). Between double quotes every break is
escaped, so that gaps hold spaces only, and each escape is undone (`scanDouble?_writeDoubleChar`).
-/

namespace CompilerDriver.Yaml.Quoted

/-! ## Gaps between single quotes -/

/-- A gap of one kind: spaces alone, or separators alone. -/
def IsUniform (gap : List Char) : Prop :=
  (∀ c ∈ gap, c = ' ') ∨ (∀ c ∈ gap, isBreak c = true) ∧ '\n' ∉ gap

/-- The spaces that are written behind the gap. -/
def indent (width : Nat) (gap : List Char) : List Char :=
  if Gap.isBroken gap then indentation width else []

theorem fold_indent {gap : List Char} (width : Nat) (h : IsUniform gap) :
    Gap.fold (indent width gap ++ gap) = gap.reverse := by
  rcases h with hSpaces | ⟨hBreak, hFeed⟩
  · rw [indent, Gap.isBroken_spaces hSpaces]
    exact Gap.fold_spaces hSpaces
  · by_cases hNil : gap = []
    · subst hNil
      rfl
    · obtain ⟨c, hc⟩ := List.exists_mem_of_ne_nil gap hNil
      have hBroken : Gap.isBroken gap = true := List.any_eq_true.2 ⟨c, hc, hBreak c hc⟩
      rw [indent, if_pos hBroken]
      exact Gap.fold_separators (fun c hc => List.eq_of_mem_replicate hc) hBreak hFeed hNil

/-- The indentation keeps a line from looking like a document marker. -/
theorem endsLine_indent {width : Nat} (h : 0 < width) (gap : List Char) :
    Gap.endsLine (indent width gap ++ gap) = false := by
  obtain ⟨width, rfl⟩ := Nat.exists_eq_succ_of_ne_zero (Nat.ne_of_gt h)
  by_cases hBroken : Gap.isBroken gap = true
  · rw [indent, if_pos hBroken]
    rfl
  · rw [indent, if_neg hBroken, List.nil_append]
    cases gap with
    | nil => rfl
    | cons c gap =>
      have hc : isBreak c = false := by simp_all [Gap.isBroken]
      simp [Gap.endsLine, hc]

/-- No space of the text is next to a break, nor does its start go on with what ends the gap. -/
structure IsApart (gap cs : List Char) : Prop where
  breakSpace : hasPair isBreak isSpace (gap.head?.toList ++ cs) = false
  spaceBreak : hasPair isSpace isBreak (gap.head?.toList ++ cs) = false

theorem hasPair_tail {first second : Char → Bool} {c : Char} {cs : List Char}
    (h : hasPair first second (c :: cs) = false) : hasPair first second cs = false := by
  cases cs with
  | nil => rfl
  | cons d rest =>
    rw [hasPair, Bool.or_eq_false_iff] at h
    exact h.2

theorem hasPair_of_option_append {first second : Char → Bool} {c : Option Char} {cs : List Char}
    (h : hasPair first second (c.toList ++ cs) = false) : hasPair first second cs = false := by
  cases c with
  | none => exact h
  | some c => exact hasPair_tail h

theorem IsApart.next {gap rest : List Char} {c : Char} (h : IsApart gap (c :: rest)) :
    IsApart (c :: gap) rest :=
  ⟨hasPair_of_option_append h.breakSpace, hasPair_of_option_append h.spaceBreak⟩

theorem IsApart.skip {gap rest : List Char} {c : Char} (h : IsApart gap (c :: rest)) :
    IsApart [] rest :=
  ⟨hasPair_tail h.next.breakSpace, hasPair_tail h.next.spaceBreak⟩

theorem IsUniform.cons_space {gap rest : List Char} (h : IsUniform gap)
    (hApart : IsApart gap (' ' :: rest)) : IsUniform (' ' :: gap) := by
  cases gap with
  | nil => exact .inl (by simp)
  | cons g gap =>
    rcases h with hSpaces | ⟨hBreak, -⟩
    · exact .inl (List.forall_mem_cons.2 ⟨rfl, hSpaces⟩)
    · have := hApart.breakSpace
      simp [hasPair, isSpace, hBreak g List.mem_cons_self] at this

theorem IsUniform.cons_break {gap rest : List Char} {c : Char} (h : IsUniform gap)
    (hApart : IsApart gap (c :: rest)) (hc : isBreak c = true) (hFeed : c ≠ '\n') :
    IsUniform (c :: gap) := by
  cases gap with
  | nil => exact .inr ⟨by simpa using hc, by simpa using hFeed.symm⟩
  | cons g gap =>
    rcases h with hSpaces | ⟨hBreak, hNone⟩
    · have := hApart.spaceBreak
      simp [hasPair, isSpace, hSpaces g List.mem_cons_self, hc] at this
    · refine .inr ⟨List.forall_mem_cons.2 ⟨hc, hBreak⟩, ?_⟩
      rintro (_ | ⟨_, hMem⟩)
      · exact hFeed rfl
      · exact hNone hMem

/-! ## Text between single quotes -/

/-- A space or break joins the gap. -/
theorem scanSingle?_gap {c : Char} (h : isGap c = true) (gap rest : List Char) :
    scanSingle? gap (c :: rest) = scanSingle? (c :: gap) rest := by
  rw [scanSingle?.eq_def]
  exact if_pos h

theorem scanSingle?_spaces (gap rest : List Char) (n : Nat) :
    scanSingle? gap (List.replicate n ' ' ++ rest) =
      scanSingle? (List.replicate n ' ' ++ gap) rest := by
  induction n generalizing gap with
  | zero => rfl
  | succ n ih =>
    have hLast : List.replicate (n + 1) ' ' ++ gap = List.replicate n ' ' ++ ' ' :: gap := by
      rw [List.replicate_succ', List.append_assoc, List.singleton_append]
    rw [hLast, ← ih (' ' :: gap), List.replicate_succ, List.cons_append, scanSingle?_gap isGap_space]

theorem scanSingle?_indent (width : Nat) (gap rest : List Char) :
    scanSingle? gap (indent width gap ++ rest) = scanSingle? (indent width gap ++ gap) rest := by
  rw [indent]
  split
  · exact scanSingle?_spaces gap rest width
  · rfl

/-- A character that is in no gap is read as it is written, a quote twice. -/
theorem scanSingle?_char {gap rest : List Char} {c : Char} (hc : isGap c = false)
    (hGap : Gap.endsLine gap = false) :
    scanSingle? gap ((if c = '\'' then ['\'', c] else [c]) ++ rest) =
      (scanSingle? [] rest).map (prepend (Gap.fold gap ++ [c])) := by
  by_cases hQuote : c = '\''
  · subst hQuote
    rw [if_pos rfl, scanSingle?.eq_def]
    simp [hc, hGap]
  · rw [if_neg hQuote, scanSingle?.eq_def]
    simp [hc, hGap, hQuote]

theorem scanSingle?_close {gap tail : List Char} (hTail : tail.head? ≠ some '\'')
    (hGap : Gap.endsLine gap = false) :
    scanSingle? gap ('\'' :: tail) = some (Gap.fold gap, tail) := by
  have hc : isGap '\'' = false := rfl
  rw [scanSingle?]
  · simp [hc, hGap]
  · rintro rest rfl
    exact hTail rfl

/-- The text behind a gap is read up to the closing quote. -/
theorem scanSingle?_writeSingle {width : Nat} {gap cs tail : List Char} (hWidth : 0 < width)
    (hTail : tail.head? ≠ some '\'') (hGap : IsUniform gap)
    (hPrintable : ∀ c ∈ cs, isPrintable c = true) (hFeed : '\n' ∉ cs) (hApart : IsApart gap cs) :
    scanSingle? gap (writeSingle width (Gap.isBroken gap) cs ++ '\'' :: tail) =
      some (gap.reverse ++ cs, tail) := by
  induction cs generalizing gap with
  | nil =>
    rw [writeSingle, ← indent, scanSingle?_indent, scanSingle?_close hTail (endsLine_indent hWidth gap),
      fold_indent width hGap, List.append_nil]
  | cons c rest ih =>
    obtain ⟨hc, hRest⟩ := List.forall_mem_cons.1 hPrintable
    have hFeedRest : '\n' ∉ rest := fun h => hFeed (List.mem_cons_of_mem _ h)
    -- A break or a space joins the gap, any other character ends it.
    by_cases hBreak : isBreak c = true
    · have hNotFeed : c ≠ '\n' := fun h => hFeed (h ▸ List.mem_cons_self)
      have hBroken : Gap.isBroken (c :: gap) = true := by simp [Gap.isBroken, hBreak]
      have hLater := ih (hGap.cons_break hApart hBreak hNotFeed) hRest hFeedRest hApart.next
      rw [hBroken] at hLater
      rw [writeSingle, if_pos hBreak, List.cons_append, scanSingle?_gap (isGap_of_isBreak hBreak), hLater]
      simp
    · by_cases hSpace : c = ' '
      · subst hSpace
        have hUniform := hGap.cons_space hApart
        have hSpaces : ∀ d ∈ ' ' :: gap, d = ' ' := by
          apply hUniform.resolve_right
          rintro ⟨hBreaks, -⟩
          cases hBreaks ' ' List.mem_cons_self
        have hLater := ih hUniform hRest hFeedRest hApart.next
        rw [Gap.isBroken_spaces hSpaces] at hLater
        have hUnbroken := Gap.isBroken_spaces (List.forall_mem_cons.1 hSpaces).2
        have hWritten : writeSingle width false (' ' :: rest) = ' ' :: writeSingle width false rest := by
          rw [writeSingle, if_neg hBreak]
          rfl
        rw [hUnbroken, hWritten, List.cons_append, scanSingle?_gap isGap_space, hLater]
        simp
      · have hPlain : isGap c = false := by
          simp [isGap_of_isPrintable hc, isSpace, hBreak, hSpace]
        have hLater : scanSingle? [] (writeSingle width false rest ++ '\'' :: tail) = some (rest, tail) :=
          ih (.inl (by simp)) hRest hFeedRest hApart.skip
        rw [writeSingle, if_neg hBreak, ← indent, List.append_assoc, List.append_assoc,
          scanSingle?_indent, scanSingle?_char hPlain (endsLine_indent hWidth gap),
          fold_indent width hGap, hLater]
        simp [prepend]

theorem scanSingle?_of_allowsSingleQuotes {width : Nat} {cs tail : List Char} (hWidth : 0 < width)
    (hTail : tail.head? ≠ some '\'') (hFeed : '\n' ∉ cs) (h : allowsSingleQuotes cs = true) :
    scanSingle? [] (writeSingle width false cs ++ '\'' :: tail) = some (cs, tail) := by
  simp only [allowsSingleQuotes, Bool.and_eq_true, Bool.not_eq_true', List.all_eq_true] at h
  obtain ⟨⟨hPrintable, hBreakSpace⟩, hSpaceBreak⟩ := h
  exact scanSingle?_writeSingle hWidth hTail (.inl (by simp)) hPrintable hFeed ⟨hBreakSpace, hSpaceBreak⟩

theorem isPrintable_of_mem_writeSingle {width : Nat} {cs : List Char} {afterBreak : Bool}
    (h : ∀ c ∈ cs, isPrintable c = true) :
    ∀ c ∈ writeSingle width afterBreak cs, isPrintable c = true := by
  induction cs generalizing afterBreak with
  | nil => exact isPrintable_of_mem_indentation
  | cons d rest ih =>
    obtain ⟨hd, hRest⟩ := List.forall_mem_cons.1 h
    rw [writeSingle]
    split
    · exact List.forall_mem_cons.2 ⟨hd, ih hRest⟩
    · have hCharacter : ∀ c ∈ if d = '\'' then ['\'', d] else [d], isPrintable c = true := by
        split
        · exact List.forall_mem_cons.2 ⟨rfl, List.forall_mem_singleton.2 hd⟩
        · exact List.forall_mem_singleton.2 hd
      exact List.forall_mem_append.2
        ⟨List.forall_mem_append.2 ⟨isPrintable_of_mem_indentation, hCharacter⟩, ih hRest⟩

/-! ## Escapes between double quotes -/

/-- A character that is named by a letter is read from it. -/
theorem unescape?_escapeLetter {c letter : Char} (h : escapeLetter? c = some letter) :
    unescape? letter = some c ∧ isBreak letter = false ∧ isPrintable letter = true := by
  unfold escapeLetter? at h
  split at h <;> cases h <;> exact ⟨rfl, rfl, rfl⟩

/-- Any other character is named by a letter for the number of its digits, which are enough. -/
theorem escapeNumber_eq (c : Char) :
    ∃ letter width, escapeNumber c = letter :: capitalHexadecimal width c.toNat ∧
      codeLength? letter = some width ∧ unescape? letter = none ∧ isBreak letter = false ∧
      isPrintable letter = true ∧ 0 < width ∧ c.toNat < Nat.pow 16 width := by
  -- Two digits, four of them or eight.
  by_cases hShort : c.toNat ≤ 0xFF
  · refine ⟨'x', 2, if_pos hShort, rfl, rfl, rfl, rfl, by decide, ?_⟩
    exact Nat.lt_succ_of_le hShort
  by_cases hLong : c.toNat ≤ 0xFFFF
  · refine ⟨'u', 4, ?_, rfl, rfl, rfl, rfl, by decide, Nat.lt_succ_of_le hLong⟩
    rw [escapeNumber, if_neg hShort, if_pos hLong]
  · refine ⟨'U', 8, ?_, rfl, rfl, rfl, rfl, by decide, ?_⟩
    · rw [escapeNumber, if_neg hShort, if_neg hLong]
    · have : c.toNat < 0x110000 := by
        rcases c.valid with h | ⟨-, h⟩
        · exact Nat.lt_trans h (by decide)
        · exact h
      exact Nat.lt_trans this (by decide)

/-- The digits of a number are read to their value. -/
theorem scanDouble?_digits {values : List Nat} {before n : Nat} (tail : List Char)
    (h : ∀ value ∈ values, value < 16) (hSome : values ≠ [])
    (hn : values.foldl (fun n digit => n * 16 + digit) before = n) (hValid : n.isValidChar) :
    scanDouble? (.code (values.length - 1) before) (values.map Number.capitalDigit ++ tail) =
      (scanDouble? (.text [] false) tail).map (prepend [Char.ofNat n]) := by
  induction values generalizing before with
  | nil => exact absurd rfl hSome
  | cons value values ih =>
    obtain ⟨hValue, hValues⟩ := List.forall_mem_cons.1 h
    rw [List.foldl_cons] at hn
    rw [List.map_cons, List.cons_append, scanDouble?, Number.hexDigit?_capitalDigit value hValue]
    -- The last digit makes the character.
    cases values with
    | nil =>
      rw [List.foldl_nil] at hn
      simp [hn, hValid]
    | cons next values =>
      have hLater := ih hValues (List.cons_ne_nil _ _) hn
      simpa using hLater

/-- The escape of a character is read as the character. -/
theorem scanDouble?_escapeNumber (c : Char) (tail : List Char) :
    scanDouble? .escape (escapeNumber c ++ tail) =
      (scanDouble? (.text [] false) tail).map (prepend [c]) := by
  obtain ⟨letter, width, hEscape, hCode, hLetter, hBreak, -, hWidth, hFits⟩ := escapeNumber_eq c
  have hSome : Number.hexValues width c.toNat ≠ [] := by
    intro h
    have hLength := congrArg List.length h
    rw [Number.length_hexValues, List.length_nil] at hLength
    omega
  have hDigits := scanDouble?_digits tail (fun _ => Number.lt_of_mem_hexValues) hSome
    (Number.foldl_hexValues hFits) c.valid
  rw [Char.ofNat_toNat, Number.length_hexValues] at hDigits
  rw [hEscape, List.cons_append, scanDouble?, if_neg (by simp [hBreak]), hLetter, hCode,
    Number.capitalHexadecimal_eq hWidth hFits]
  exact hDigits

/-! ## Text between double quotes -/

theorem startsLine_spaces {gap : List Char} (h : ∀ c ∈ gap, c = ' ') :
    startsLine gap false = false := by
  rw [startsLine, Gap.endsLine_spaces h]
  rfl

theorem foldGap_spaces {gap : List Char} (h : ∀ c ∈ gap, c = ' ') :
    foldGap gap false = gap.reverse :=
  Gap.fold_spaces h

theorem prepend_comp (first second : List Char) :
    prepend first ∘ prepend second = prepend (first ++ second) := by
  funext scanned
  simp [prepend]

theorem scanDouble?_backslash {gap : List Char} (hGap : ∀ c ∈ gap, c = ' ') (rest : List Char) :
    scanDouble? (.text gap false) ('\\' :: rest) =
      (scanDouble? .escape rest).map (prepend gap.reverse) := by
  rw [scanDouble?, if_neg (by decide), startsLine_spaces hGap, foldGap_spaces hGap]
  rfl

/-- Only characters with an escape of their own end the text or a line of it. -/
theorem isGap_of_escapeLetter_eq_none {c : Char} (h : escapeLetter? c = none) (hc : c ≠ ' ') :
    isGap c = false ∧ c ≠ '"' ∧ c ≠ '\\' := by
  refine ⟨?_, ?_, ?_⟩
  · -- Tabs and breaks all have a letter.
    cases hGap : isGap c with
    | false => rfl
    | true =>
      simp only [isGap, isBlank, isBreak, Bool.or_eq_true, decide_eq_true_eq] at hGap
      rcases hGap with (rfl | rfl) | (rfl | rfl) | rfl
      · exact absurd rfl hc
      all_goals cases h
  · rintro rfl
    cases h
  · rintro rfl
    cases h

/-- Each character but the space is read as it is written. -/
theorem scanDouble?_char {gap : List Char} {c : Char} (hGap : ∀ d ∈ gap, d = ' ') (hc : c ≠ ' ')
    (rest : List Char) :
    scanDouble? (.text gap false) (writeDoubleChar c ++ rest) =
      (scanDouble? (.text [] false) rest).map (prepend (gap.reverse ++ [c])) := by
  unfold writeDoubleChar
  cases hLetter : escapeLetter? c with
  | some letter =>
    obtain ⟨hMeant, hBreak, -⟩ := unescape?_escapeLetter hLetter
    have hEscape : scanDouble? .escape (letter :: rest) =
        (scanDouble? (.text [] false) rest).map (prepend [c]) := by
      rw [scanDouble?, if_neg (by simp [hBreak]), hMeant]
    rw [List.cons_append, List.singleton_append, scanDouble?_backslash hGap, hEscape, Option.map_map,
      prepend_comp]
  | none =>
    dsimp only
    split
    · obtain ⟨hWord, hQuote, hBackslash⟩ := isGap_of_escapeLetter_eq_none hLetter hc
      rw [List.singleton_append, scanDouble?, hWord, startsLine_spaces hGap, foldGap_spaces hGap]
      simp [hQuote, hBackslash]
    · rw [List.cons_append, scanDouble?_backslash hGap, scanDouble?_escapeNumber, Option.map_map,
        prepend_comp]

/-- The text behind a gap is read up to the closing quote. -/
theorem scanDouble?_writeDoubleChar {gap : List Char} (hGap : ∀ c ∈ gap, c = ' ')
    (cs tail : List Char) :
    scanDouble? (.text gap false) (cs.flatMap writeDoubleChar ++ '"' :: tail) =
      some (gap.reverse ++ cs, tail) := by
  induction cs generalizing gap with
  | nil =>
    rw [List.flatMap_nil, List.nil_append, scanDouble?, if_neg (by decide), startsLine_spaces hGap,
      foldGap_spaces hGap, List.append_nil]
    rfl
  | cons c rest ih =>
    rw [List.flatMap_cons, List.append_assoc]
    by_cases hc : c = ' '
    · subst hc
      have hSpaces : ∀ d ∈ ' ' :: gap, d = ' ' := List.forall_mem_cons.2 ⟨rfl, hGap⟩
      have hWritten : writeDoubleChar ' ' = [' '] := rfl
      rw [hWritten, List.singleton_append, scanDouble?, if_pos isGap_space, ih hSpaces]
      simp
    · rw [scanDouble?_char hGap hc, ih (by simp)]
      simp [prepend]

theorem isPrintable_of_mem_writeDoubleChar {c : Char} :
    ∀ d ∈ writeDoubleChar c, isPrintable d = true := by
  intro d hd
  unfold writeDoubleChar at hd
  split at hd
  · next letter hLetter =>
    have hEither : d = '\\' ∨ d = letter := by simpa using hd
    rcases hEither with rfl | rfl
    · rfl
    · exact (unescape?_escapeLetter hLetter).2.2
  · split at hd
    · next hc => exact List.mem_singleton.1 hd ▸ hc
    · obtain ⟨letter, width, hEscape, -, -, -, hPrintable, hWidth, hFits⟩ := escapeNumber_eq c
      rw [hEscape, Number.capitalHexadecimal_eq hWidth hFits] at hd
      rcases List.mem_cons.1 hd with rfl | hd
      · rfl
      rcases List.mem_cons.1 hd with rfl | hd
      · exact hPrintable
      obtain ⟨value, hValue, rfl⟩ := List.mem_map.1 hd
      exact Number.isPrintable_capitalDigit value (Number.lt_of_mem_hexValues hValue)

end CompilerDriver.Yaml.Quoted
