import CompilerDriver.Yaml.Gap
/-!
# Plain scalars

A plain scalar is text without quotes. It ends before a colon that ends a word, before a comment, before
a line that is indented too little, before a document marker, and inside brackets also before a comma or
bracket.
-/

namespace CompilerDriver.Yaml.Plain

/-- The characters that part the items of a flow collection. -/
def isFlowIndicator (c : Char) : Bool :=
  c = ',' || c = '[' || c = ']' || c = '\x7b' || c = '\x7d'

/-- Whether a plain scalar can begin at the text. -/
def canStart (inFlow : Bool) : List Char → Bool
  | [] => false
  | c :: rest =>
    if isGap c then false
    else if c = '-' then rest.head?.all (fun next => !isBlank next)
    else if c = '?' || c = ':' then !inFlow && !endsWord rest
    else !(isFlowIndicator c || "#&*!|>'\"%@`".toList.contains c)

/-- Whether the scalar ends at the character, which comes after the gap and before the rest. Outside
brackets lines have to be indented as far as the margin. -/
def endsAt (inFlow : Bool) (margin : Nat) (gap : List Char) (c : Char) (rest : List Char) : Bool :=
  (Gap.isBroken gap && !inFlow && Gap.column gap < margin)
    || (Gap.endsLine gap && startsMarker (c :: rest))
    || (!gap.isEmpty && c = '#')
    || (c = ':' && endsWord rest)
    || (inFlow && isFlowIndicator c)

/-- A plain scalar: its text, what follows it, and whether it was left over the end of a line. -/
structure Scanned where
  text : List Char
  rest : List Char
  endsLine : Bool

/-- Reads a plain scalar, or the rest of one behind the gap. -/
def scan? (inFlow : Bool) (margin : Nat) : List Char → List Char → Option Scanned
  | gap, [] => some ⟨[], [], Gap.isBroken gap⟩
  | gap, c :: rest =>
    if isGap c then
      if c = '\t' && Gap.isBroken gap && Gap.column gap < margin then
        none
      else
        scan? inFlow margin (c :: gap) rest
    else if endsAt inFlow margin gap c rest then
      some ⟨[], c :: rest, Gap.isBroken gap⟩
    else if inFlow && c = ':' && rest.head?.any (fun next => next = '?' || isFlowIndicator next) then
      none
    else
      (scan? inFlow margin [] rest).map
        (fun scanned => { scanned with text := Gap.fold gap ++ c :: scanned.text })

/-! ## A plain scalar takes characters -/

theorem length_rest_scan {inFlow : Bool} {margin : Nat} {gap cs : List Char} {scanned : Scanned}
    (h : scan? inFlow margin gap cs = some scanned) : scanned.rest.length ≤ cs.length := by
  induction cs generalizing gap scanned with
  | nil => cases h; exact Nat.le_refl _
  | cons c rest ih =>
    rw [scan?] at h
    split at h
    · split at h
      · cases h
      · exact Nat.le_succ_of_le (ih h)
    · split at h
      · cases h; exact Nat.le_refl _
      · split at h
        · cases h
        · obtain ⟨later, hl, rfl⟩ := Option.map_eq_some_iff.1 h
          have shorter := ih hl
          exact Nat.le_succ_of_le shorter

theorem endsWord_eq_false_of_canStart {inFlow : Bool} {rest : List Char}
    (h : canStart inFlow (':' :: rest) = true) : endsWord rest = false := by
  simp [canStart, isGap, isBlank, isBreak] at h
  exact h.2

theorem isFlowIndicator_of_canStart {inFlow : Bool} {c : Char} {rest : List Char}
    (h : canStart inFlow (c :: rest) = true) : isFlowIndicator c = false := by
  cases hf : isFlowIndicator c with
  | false => rfl
  | true =>
    simp only [isFlowIndicator, Bool.or_eq_true, decide_eq_true_eq] at hf
    rcases hf with (((rfl | rfl) | rfl) | rfl) | rfl <;>
      simp [canStart, isGap, isBlank, isBreak, isFlowIndicator] at h

theorem endsAt_eq_false_of_canStart {inFlow : Bool} {margin : Nat} {c : Char} {rest : List Char}
    (h : canStart inFlow (c :: rest) = true) : endsAt inFlow margin [] c rest = false := by
  by_cases hc : c = ':'
  · subst hc
    simp [endsAt, Gap.isBroken, Gap.endsLine, endsWord_eq_false_of_canStart h,
      isFlowIndicator_of_canStart h]
  · simp [endsAt, Gap.isBroken, Gap.endsLine, hc, isFlowIndicator_of_canStart h]

theorem isGap_eq_false_of_canStart {inFlow : Bool} {c : Char} {rest : List Char}
    (h : canStart inFlow (c :: rest) = true) : isGap c = false := by
  cases hg : isGap c with
  | false => rfl
  | true => simp [canStart, hg] at h

/-- A scalar has at least the character that it starts with. -/
theorem length_rest_of_canStart {inFlow : Bool} {margin : Nat} {c : Char} {rest : List Char}
    {scanned : Scanned} (hc : canStart inFlow (c :: rest) = true)
    (h : scan? inFlow margin [] (c :: rest) = some scanned) :
    scanned.rest.length ≤ rest.length := by
  rw [scan?, isGap_eq_false_of_canStart hc, endsAt_eq_false_of_canStart hc] at h
  simp only [Bool.false_eq_true, if_false] at h
  split at h
  · cases h
  · obtain ⟨later, hl, rfl⟩ := Option.map_eq_some_iff.1 h
    have shorter := length_rest_scan hl
    exact shorter

end CompilerDriver.Yaml.Plain
