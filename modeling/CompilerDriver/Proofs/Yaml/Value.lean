import CompilerDriver.Proofs.Yaml.Scanner
import CompilerDriver.Proofs.Yaml.Writer
/-!
# Written values are read as scalars

A value is what stands behind the colon of an entry. It reads as a scalar if the scanner finds that scalar
there and is then at the start of the next line, whatever stands in it (`Scanner.Reads`). Texts in all
styles do (`Scanner.reads_writeScalar`).
-/

namespace CompilerDriver.Yaml

namespace Scanner

variable {columns : List Nat} {position : Position} {keyAllowed : Bool} {tokens : List Token}
  {token : Token}

/-! ## States of the scanner -/

/-- The scanner between two tokens outside flow collections, none of which could turn out to be a key. -/
def between (columns : List Nat) (position : Position) (keyAllowed : Bool) (tokens : List Token)
    (rest : List Char) : Scanner :=
  { rest, position, columns, key := none, outerKeys := [], keyAllowed, tokens }

/-- The next token is at the start of a line, where a key can begin. -/
def Reaches (s : Scanner) (columns : List Nat) (tokens : List Token) (rest : List Char) : Prop :=
  ∃ position, position.column = 0 ∧ s.toToken = some (between columns position true tokens rest)

/-- What is written behind the colon of an entry is read as the token, up to the start of the next line. -/
def Reads (body : List Char) (token : Token) : Prop :=
  ∀ position tokens after, position.column ≠ 0 → StartsWithLetter after →
    ∃ c rest next, body ++ after = c :: rest ∧ isGap c = false ∧ c ≠ '#' ∧
      (between [0] position false tokens (c :: rest)).nextToken c rest = some next ∧
      next.Reaches [0] (token :: tokens) after

theorem toToken_between (before : List Char) {rest : List Char} {allowed : Bool}
    (hColumns : ∀ column ∈ columns, column = 0)
    (hSkip : skipGap false keyAllowed (decide (position.column = 0)) false (before ++ rest) =
      (allowed, rest)) :
    (between columns position keyAllowed tokens (before ++ rest)).toToken =
      some (between columns (position.after before) allowed tokens rest) :=
  toToken_eq before rfl hColumns rfl rfl hSkip

theorem start_reaches {cs : List Char} (h : StartsWithLetter cs) : (start cs).Reaches [] [] cs :=
  ⟨_, rfl, toToken_between [] (by simp) (skipGap_of_startsWithLetter h _ _)⟩

/-! ## The end of a value -/

/-- A value that takes the end of its line is followed by the next line. -/
theorem reaches_of_line {after : List Char} (hAfter : StartsWithLetter after)
    (hColumn : position.column = 0) :
    (between [0] position true tokens after).Reaches [0] tokens after :=
  ⟨_, hColumn, toToken_between [] (by simp) (skipGap_of_startsWithLetter hAfter _ _)⟩

/-- A value that leaves the end of its line is followed by it and the next line. -/
theorem reaches_of_feed {after : List Char} (hAfter : StartsWithLetter after) :
    (between [0] position false tokens ('\n' :: after)).Reaches [0] tokens after := by
  have hSkip := skipGap_feed hAfter false (decide (position.column = 0))
  exact ⟨_, Position.column_after_break rfl position [], toToken_between ['\n'] (by simp) hSkip⟩

theorem word_between {before rest : List Char} (keyAllowed : Bool) :
    (between columns position false tokens (before ++ rest)).word token rest keyAllowed =
      some (between columns (position.after before) keyAllowed (token :: tokens) rest) := by
  have hMoved : ((between columns position false tokens (before ++ rest)).push token).moveTo rest =
      between columns (position.after before) false (token :: tokens) rest := moveTo_eq rfl
  simp only [word, saveKey, between, Bool.false_eq_true, if_false, Option.map_some] at hMoved ⊢
  rw [hMoved]

/-! ## Values -/

theorem nextToken_of_column {s : Scanner} {c : Char} {rest : List Char} (h : s.position.column ≠ 0) :
    s.nextToken c rest = s.structureOrContent c rest := by
  rw [nextToken, if_neg (by simp [h]), if_neg (by simp [h])]

/-- No other token begins like a plain scalar. -/
theorem structureOrContent_plain {s : Scanner} {c : Char} {word : List Char} (hFlow : s.inFlow = false)
    (h : Plain.IsBare (c :: word)) (tail : List Char) :
    s.structureOrContent c (word ++ tail) = s.plainScalar := by
  have hSign {d : Char} (hd : d = '-' ∨ d = '?' ∨ d = ':') :
      ¬(c = d ∧ endsWord (word ++ tail) = true) := by
    rintro ⟨rfl, hWord⟩
    rw [Plain.endsWord_append_eq_false (h.endsWord_tail hd)] at hWord
    cases hWord
  have hDash := hSign (.inl rfl)
  have hQuestion := hSign (.inr (.inl rfl))
  have hColon := hSign (.inr (.inr rfl))
  have hContent : s.content c (word ++ tail) = s.plainScalar := by
    have hMember := h.not_mem
    have hStart := h.canStart tail
    simp_all [content]
  have hFlowSigns : c ≠ '[' ∧ c ≠ '\x7b' ∧ c ≠ ']' ∧ c ≠ '\x7d' ∧ c ≠ ',' := by
    have hMember := h.not_mem
    simp_all
  simp [structureOrContent, hFlow, hContent, hDash, hQuestion, hColon, hFlowSigns]

theorem reads_plain {cs : List Char} (h : Plain.IsBare cs) :
    Reads (cs ++ ['\n']) (.scalar .plain cs) := by
  intro position tokens after hColumn hAfter
  obtain ⟨c, word, rfl⟩ := List.exists_cons_of_ne_nil h.nonempty
  have hRest : c :: word ++ ['\n'] ++ after = c :: (word ++ '\n' :: after) := by simp
  have hScanned : Plain.scan? false 1 [] (c :: word ++ ['\n'] ++ after) = some ⟨c :: word, after, true⟩ := by
    rw [List.append_assoc]
    exact h.scan?_line (by decide) hAfter
  have hNumberSign : c ≠ '#' := by
    rintro rfl
    exact h.not_mem (by decide)
  have hNext : (between [0] position false tokens (c :: word ++ ['\n'] ++ after)).nextToken c
      (word ++ '\n' :: after) = some (between [0] (position.after (c :: word ++ ['\n'])) true
        (.scalar .plain (c :: word) :: tokens) after) := by
    rw [nextToken_of_column hColumn, structureOrContent_plain rfl h, plainScalar]
    refine Option.bind_eq_some_iff.2 ⟨_, hScanned, ?_⟩
    exact word_between true
  exact ⟨c, _, _, hRest, h.isGap_head, hNumberSign, hRest ▸ hNext,
    reaches_of_line hAfter (Position.column_after_break rfl position _)⟩

/-- A quoted scalar leaves the end of its line. -/
theorem reads_quoted {quote : Char} {text : List Char} (hGap : isGap quote = false)
    (hComment : quote ≠ '#')
    (h : ∀ (s : Scanner) (after : List Char),
      s.structureOrContent quote (text ++ '\n' :: after) = s.word token ('\n' :: after) false) :
    Reads (quote :: text ++ ['\n']) token := by
  intro position tokens after hColumn hAfter
  have hRest : quote :: text ++ ['\n'] ++ after = quote :: (text ++ '\n' :: after) := by simp
  have hNext : (between [0] position false tokens (quote :: text ++ '\n' :: after)).nextToken quote
      (text ++ '\n' :: after) =
        some (between [0] (position.after (quote :: text)) false (token :: tokens) ('\n' :: after)) := by
    rw [nextToken_of_column hColumn, h]
    exact word_between false
  exact ⟨quote, _, _, hRest, hGap, hComment, hNext, reaches_of_feed hAfter⟩

theorem reads_singleQuoted {cs : List Char} (hFeed : '\n' ∉ cs) (h : allowsSingleQuotes cs = true) :
    Reads ('\'' :: writeSingle 2 false cs ++ ['\'', '\n']) (.scalar .singleQuoted cs) := by
  have hReads : Reads ('\'' :: (writeSingle 2 false cs ++ ['\'']) ++ ['\n']) (.scalar .singleQuoted cs) := by
    apply reads_quoted rfl (by decide)
    intro s after
    have hScanned := Quoted.scanSingle?_of_allowsSingleQuotes (by decide : 0 < 2)
      (by simp : ('\n' :: after).head? ≠ some '\'') hFeed h
    rw [List.append_assoc]
    show s.singleQuoted _ = _
    rw [singleQuoted, List.singleton_append, hScanned]
    rfl
  simpa using hReads

theorem reads_doubleQuoted (cs : List Char) :
    Reads ('"' :: cs.flatMap writeDoubleChar ++ ['"', '\n']) (.scalar .doubleQuoted cs) := by
  have hReads : Reads ('"' :: (cs.flatMap writeDoubleChar ++ ['"']) ++ ['\n']) (.scalar .doubleQuoted cs) := by
    apply reads_quoted rfl (by decide)
    intro s after
    have hNoGap : ∀ c ∈ ([] : List Char), c = ' ' := by simp
    have hScanned := Quoted.scanDouble?_writeDoubleChar hNoGap cs ('\n' :: after)
    rw [List.append_assoc]
    show s.doubleQuoted _ = _
    rw [doubleQuoted, List.singleton_append, hScanned]
    rfl
  simpa using hReads

theorem reads_literal {cs : List Char} (hSome : cs ≠ []) (hPrintable : ∀ c ∈ cs, isPrintable c = true) :
    Reads ('|' :: Block.headerSigns cs ++ '\n' :: writeLiteral 2 true (Block.ended cs))
      (.scalar .literal cs) := by
  intro position tokens after hColumn hAfter
  obtain ⟨first, last, hLast, hEnded⟩ := Block.ended_eq_append cs
  have hScanned := Block.scan?_writeLiteral hSome hPrintable hAfter
  -- The block ends in a break, so that the next line begins right behind it.
  obtain ⟨block, hBlock⟩ : ∃ block, '|' :: Block.headerSigns cs ++
      '\n' :: writeLiteral 2 true (Block.ended cs) = '|' :: (block ++ [last]) := by
    refine ⟨Block.headerSigns cs ++ '\n' :: writeLiteral 2 true first, ?_⟩
    rw [hEnded, Block.writeLiteral_append_break hLast]
    simp
  have hText : Block.headerSigns cs ++ '\n' :: (writeLiteral 2 true (Block.ended cs) ++ after) =
      block ++ [last] ++ after := by
    have := congrArg (· ++ after) hBlock
    simpa using this
  rw [hText] at hScanned
  have hMoved : ((between [0] position false tokens ('|' :: (block ++ [last]) ++ after)).push
      (.scalar .literal cs)).moveTo after =
        between [0] (position.after ('|' :: block ++ [last])) false (.scalar .literal cs :: tokens) after :=
    moveTo_eq rfl
  have hNext : (between [0] position false tokens ('|' :: (block ++ [last]) ++ after)).nextToken '|'
      (block ++ [last] ++ after) =
        some (between [0] (position.after ('|' :: block ++ [last])) true
          (.scalar .literal cs :: tokens) after) := by
    rw [nextToken_of_column hColumn]
    show blockScalar _ .literal _ = _
    refine Option.bind_eq_some_iff.2 ⟨(cs, after), hScanned, ?_⟩
    exact congrArg (fun s : Scanner => some { s with keyAllowed := true }) hMoved
  refine ⟨'|', _, _, by rw [hBlock]; rfl, rfl, by decide, hNext, ?_⟩
  exact reaches_of_line hAfter (Position.column_after_break hLast position _)

/-- Every text is read as it is written. -/
theorem reads_writeScalar (cs : List Char) : Reads (writeScalar 2 cs) (.scalar (styleOf cs) cs) := by
  have hWritten := writtenAs_writeScalar 2 cs
  generalize writeScalar 2 cs = written at hWritten ⊢
  generalize styleOf cs = style at hWritten ⊢
  cases hWritten with
  | plain hBare => exact reads_plain hBare
  | singleQuoted hFeed hAllowed => exact reads_singleQuoted hFeed hAllowed
  | doubleQuoted => exact reads_doubleQuoted cs
  | literal hSome hPrintable => exact reads_literal hSome hPrintable

end Scanner

end CompilerDriver.Yaml
