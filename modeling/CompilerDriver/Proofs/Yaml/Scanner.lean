import CompilerDriver.Proofs.Yaml.Character
import CompilerDriver.Yaml.Scanner
/-!
# Steps of the scanner

What the scanner does between two tokens outside flow collections, where every open block begins at the
start of a line (`toToken_eq`), and what one more token means for the tokens of the whole text
(`finish?_eq_of_nextToken`).
-/

namespace CompilerDriver.Yaml

/-! ## Positions -/

namespace Position

theorem after_append (p : Position) (cs ds : List Char) : p.after (cs ++ ds) = (p.after cs).after ds :=
  List.foldl_append

theorem column_after_break {c : Char} (h : isBreak c = true) (p : Position) (cs : List Char) :
    (p.after (cs ++ [c])).column = 0 := by
  rw [after_append, after, List.foldl_cons, List.foldl_nil, next, if_pos h]

theorem column_after_word {c : Char} (h : isBreak c = false) (p : Position) (cs : List Char) :
    (p.after (cs ++ [c])).column ≠ 0 := by
  rw [after_append, after, List.foldl_cons, List.foldl_nil, next, if_neg (by simp [h])]
  exact Nat.succ_ne_zero _

theorem line_after {cs : List Char} (h : ∀ c ∈ cs, isBreak c = false) (p : Position) :
    (p.after cs).line = p.line := by
  induction cs generalizing p with
  | nil => rfl
  | cons c cs ih =>
    obtain ⟨hc, hcs⟩ := List.forall_mem_cons.1 h
    rw [after, List.foldl_cons, ← after, ih hcs, next, if_neg (by simp [hc])]

theorem offset_after_le (p : Position) (cs : List Char) :
    (p.after cs).offset ≤ p.offset + 4 * cs.length := by
  induction cs generalizing p with
  | nil => exact Nat.le_refl _
  | cons c cs ih =>
    have hNext : (p.next c).offset = p.offset + c.utf8Size := by
      unfold next
      split <;> rfl
    have hSize := c.utf8Size_le_four
    have hLater := ih (p.next c)
    rw [List.length_cons, after, List.foldl_cons, ← after]
    omega

end Position

namespace Scanner

/-! ## Between tokens -/

theorem moveTo_eq {s : Scanner} {before rest : List Char} (h : s.rest = before ++ rest) :
    s.moveTo rest = { s with rest, position := s.position.after before } := by
  have hTaken : s.rest.take (s.rest.length - rest.length) = before := by
    rw [h, List.length_append, Nat.add_sub_cancel, List.take_left]
  rw [moveTo, hTaken]

theorem unindent_of_zero {columns : List Nat} (h : ∀ column ∈ columns, column = 0) (column : Nat) :
    unindent column columns = ([], columns) := by
  cases columns with
  | nil => rfl
  | cons top columns =>
    rw [h top List.mem_cons_self, unindent, if_neg (Nat.not_lt_zero _)]

theorem closeTo_of_zero {s : Scanner} (h : ∀ column ∈ s.columns, column = 0) (column : Nat) :
    s.closeTo column = s := by
  rw [closeTo, unindent_of_zero h]
  split <;> rfl

/-- Outside flow collections, and in blocks that begin at the start of a line, the next token is where the
gap ends. -/
theorem toToken_eq {s : Scanner} (before : List Char) {rest : List Char} {keyAllowed : Bool}
    (hFlow : s.outerKeys = []) (hColumns : ∀ column ∈ s.columns, column = 0)
    (hKey : refreshKey (s.position.after before) s.key = some s.key) (hRest : s.rest = before ++ rest)
    (hSkip : skipGap false s.keyAllowed (decide (s.position.column = 0)) false (before ++ rest) =
      (keyAllowed, rest)) :
    s.toToken = some { s with rest, position := s.position.after before, keyAllowed } := by
  have hInFlow : s.inFlow = false := by simp [inFlow, hFlow]
  have hSkipped : skipGap s.inFlow s.keyAllowed (s.position.column = 0) false s.rest = (keyAllowed, rest) := by
    rw [hInFlow, hRest, hSkip]
  rw [toToken, hSkipped]
  dsimp only
  rw [moveTo_eq hRest, refreshKeys, hKey, hFlow]
  simp only [Option.bind_eq_bind, Option.bind_some, List.mapM_nil, Option.pure_def, Option.map_some]
  rw [closeTo_of_zero]
  exact hColumns

theorem skipGap_word {c : Char} (hGap : isGap c = false) (hComment : c ≠ '#')
    (hMark : c ≠ '\ufeff') (keyAllowed atLineStart : Bool) (rest : List Char) :
    skipGap false keyAllowed atLineStart false (c :: rest) = (keyAllowed, c :: rest) := by
  simp only [isGap, isBlank, Bool.or_eq_false_iff, decide_eq_false_iff_not] at hGap
  obtain ⟨⟨hSpace, hTab⟩, hBreak⟩ := hGap
  simp [skipGap, hBreak, hSpace, hTab, hComment, hMark]

theorem skipGap_of_startsWithLetter {rest : List Char} (h : StartsWithLetter rest)
    (keyAllowed atLineStart : Bool) :
    skipGap false keyAllowed atLineStart false rest = (keyAllowed, rest) := by
  cases rest with
  | nil => rfl
  | cons c rest =>
    have hc := h c rfl
    exact skipGap_word (isGap_of_isAlpha hc) (ne_of_isAlpha hc) (ne_of_isAlpha hc) _ _ _

theorem skipGap_feed {rest : List Char} (h : StartsWithLetter rest) (keyAllowed atLineStart : Bool) :
    skipGap false keyAllowed atLineStart false ('\n' :: rest) = (true, rest) := by
  have hFeed : isBreak '\n' = true := rfl
  rw [skipGap, if_pos hFeed, skipGap_of_startsWithLetter h]
  simp

/-- A byte order mark is skipped only at the start of a line. -/
theorem skipGap_space {c : Char} (hGap : isGap c = false) (hComment : c ≠ '#')
    (keyAllowed atLineStart : Bool) (rest : List Char) :
    skipGap false keyAllowed atLineStart false (' ' :: c :: rest) = (keyAllowed, c :: rest) := by
  simp only [isGap, isBlank, Bool.or_eq_false_iff, decide_eq_false_iff_not] at hGap
  obtain ⟨⟨hSpace, hTab⟩, hBreak⟩ := hGap
  have hBreakSpace : isBreak ' ' = false := rfl
  simp [skipGap, hBreakSpace, hBreak, hSpace, hTab, hComment]

/-! ## The whole text -/

theorem finish?_eq_of_nextToken {s found next : Scanner} {c : Char} {rest : List Char}
    (hToken : s.toToken = some found) (hRest : found.rest = c :: rest)
    (hNext : found.nextToken c rest = some next) : s.finish? = next.finish? := by
  rw [finish?]
  split
  · next hNone =>
    rw [hToken] at hNone
    cases hNone
  · next s' hSome =>
    obtain rfl : found = s' := Option.some.inj (hToken.symm.trans hSome)
    split
    · next hNil =>
      rw [hRest] at hNil
      cases hNil
    · next c' rest' hCons =>
      obtain ⟨rfl, rfl⟩ := List.cons.inj (hRest.symm.trans hCons)
      split
      · next hNone =>
        rw [hNext] at hNone
        cases hNone
      · next next' hSome =>
        obtain rfl : next = next' := Option.some.inj (hNext.symm.trans hSome)
        rfl

theorem finish?_eq_of_end {s found : Scanner} (hToken : s.toToken = some found)
    (hRest : found.rest = []) :
    s.finish? = found.closeAll.dropKey.map (fun s => s.tokens.reverse) := by
  rw [finish?]
  split
  · next hNone =>
    rw [hToken] at hNone
    cases hNone
  · next s' hSome =>
    obtain rfl : found = s' := Option.some.inj (hToken.symm.trans hSome)
    split
    · rfl
    · next hCons =>
      rw [hRest] at hCons
      cases hCons

end Scanner

end CompilerDriver.Yaml
