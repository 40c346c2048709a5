import CompilerDriver.Proofs.Yaml.Character
import CompilerDriver.Yaml.Scalar.Block
/-!
# Literal blocks are read as they are written

A written block is the lines of its text, each one indented unless it is empty. Reading them back gives the
text up to the breaks at its end (`scanLines?_lines`), and the header says what becomes of those. So the
whole block is read as the text (`scan?_writeLiteral`).
-/

namespace CompilerDriver.Yaml.Block

/-! ## Lines -/

/-- A line up to the break that ends it. -/
structure Line.IsWhole (line : Line) : Prop where
  unbroken : ∀ c ∈ line.text, isBreak c = false
  ended : ∃ c, isBreak c = true ∧ line.ending = [c]

theorem lines_cons_word {c : Char} (hc : isBreak c = false) (rest : List Char) :
    ∃ line more text, lines (c :: rest) = line :: more ∧ line.text = c :: text := by
  rw [lines, if_neg (by simp [hc])]
  split
  · exact ⟨_, _, _, rfl, rfl⟩
  · exact ⟨_, _, _, rfl, rfl⟩

theorem lines_text_append {text rest : List Char} {line : Line} {more : List Line}
    (h : ∀ c ∈ text, isBreak c = false) (hRest : lines rest = line :: more) :
    lines (text ++ rest) = { line with text := text ++ line.text } :: more := by
  induction text with
  | nil => exact hRest
  | cons c text ih =>
    obtain ⟨hc, hText⟩ := List.forall_mem_cons.1 h
    rw [List.cons_append, lines, if_neg (by simp [hc]), ih hText]
    rfl

theorem lines_chars_append {line : Line} (h : line.IsWhole) (rest : List Char) :
    lines (line.chars ++ rest) = line :: lines rest := by
  obtain ⟨hText, c, hc, hEnding⟩ := h
  have hBreak : lines (line.ending ++ rest) = ⟨[], line.ending⟩ :: lines rest := by
    rw [hEnding, List.singleton_append, lines, if_pos hc]
  rw [Line.chars, List.append_assoc, lines_text_append hText hBreak, List.append_nil]

theorem lines_flatMap_append {body : List Line} (h : ∀ line ∈ body, line.IsWhole) (rest : List Char) :
    lines (body.flatMap Line.chars ++ rest) = body ++ lines rest := by
  induction body with
  | nil => rfl
  | cons line body ih =>
    obtain ⟨hLine, hBody⟩ := List.forall_mem_cons.1 h
    rw [List.flatMap_cons, List.append_assoc, lines_chars_append hLine, ih hBody]
    rfl

/-- The lines of a text that ends in a break are whole. -/
theorem isWhole_of_mem_lines {cs : List Char} (h : ∀ c ∈ cs.getLast?, isBreak c = true) :
    ∀ line ∈ lines cs, line.IsWhole := by
  induction cs with
  | nil => simp [lines]
  | cons c rest ih =>
    have hRest : ∀ d ∈ rest.getLast?, isBreak d = true := by
      intro d hd
      apply h d
      rw [List.getLast?_cons, Option.mem_def.1 hd]
      rfl
    rw [lines]
    split
    · next hc =>
      exact List.forall_mem_cons.2 ⟨⟨by simp, c, hc, rfl⟩, ih hRest⟩
    · next hc =>
      split
      · next hLines =>
        -- Only the empty text has no lines, so the text would end in this character.
        have hNil : rest = [] := by
          rw [← flatMap_chars_lines rest, hLines]
          rfl
        subst hNil
        exact absurd (h c rfl) hc
      · next line more hLines =>
        obtain ⟨hLine, hMore⟩ := List.forall_mem_cons.1 (hLines ▸ ih hRest)
        refine List.forall_mem_cons.2 ⟨⟨?_, hLine.ended⟩, hMore⟩
        exact List.forall_mem_cons.2 ⟨Bool.eq_false_iff.2 hc, hLine.unbroken⟩

/-- A text whose last break follows another character has that character in its last line. -/
theorem lines_append_pair {last before : Char} (hLast : isBreak last = true)
    (hBefore : isBreak before = false) (cs : List Char) :
    ∃ body text, lines (cs ++ [before, last]) = body ++ [⟨text ++ [before], [last]⟩] := by
  induction cs with
  | nil => exact ⟨[], [], by simp [lines, hLast, hBefore, Line.cons]⟩
  | cons c rest ih =>
    obtain ⟨body, text, hLines⟩ := ih
    rw [List.cons_append, lines, hLines]
    split
    · exact ⟨⟨[], [c]⟩ :: body, text, rfl⟩
    · cases body with
      | nil => exact ⟨[], c :: text, rfl⟩
      | cons line body => exact ⟨line.cons c :: body, text, rfl⟩

/-! ## Indented lines -/

/-- The line as it is written in a block. -/
def Line.indent (width : Nat) (line : Line) : Line :=
  if line.text = [] then line else { line with text := Yaml.indentation width ++ line.text }

theorem Line.ending_indent (width : Nat) (line : Line) :
    (line.indent width).ending = line.ending := by
  unfold Line.indent
  split <;> rfl

theorem Line.IsWhole.indent {line : Line} (h : line.IsWhole) (width : Nat) :
    (line.indent width).IsWhole := by
  unfold Line.indent
  split
  · exact h
  · refine ⟨?_, h.ended⟩
    intro c hc
    rcases List.mem_append.1 hc with hc | hc
    · rw [List.eq_of_mem_replicate hc]
      rfl
    · exact h.unbroken c hc

theorem writeLiteral_text {width : Nat} {text : List Char} (h : ∀ c ∈ text, isBreak c = false)
    (rest : List Char) :
    writeLiteral width false (text ++ rest) = text ++ writeLiteral width false rest := by
  induction text with
  | nil => rfl
  | cons c text ih =>
    obtain ⟨hc, hText⟩ := List.forall_mem_cons.1 h
    rw [List.cons_append, writeLiteral, if_neg (by simp [hc]), ih hText]
    rfl

theorem writeLiteral_break {width : Nat} {afterBreak : Bool} {c : Char} (h : isBreak c = true)
    (rest : List Char) :
    writeLiteral width afterBreak (c :: rest) = c :: writeLiteral width true rest := by
  rw [writeLiteral, if_pos h]

theorem writeLiteral_chars {width : Nat} {line : Line} (h : line.IsWhole) (rest : List Char) :
    writeLiteral width true (line.chars ++ rest) =
      (line.indent width).chars ++ writeLiteral width true rest := by
  obtain ⟨hText, last, hLast, hEnding⟩ := h
  obtain ⟨text, ending⟩ := line
  dsimp only at hText hEnding
  subst hEnding
  cases text with
  | nil => exact writeLiteral_break hLast rest
  | cons c text =>
    obtain ⟨hc, hText⟩ := List.forall_mem_cons.1 hText
    have hLine : (Line.mk (c :: text) [last]).chars ++ rest = c :: (text ++ last :: rest) := by
      simp [Line.chars]
    rw [hLine, writeLiteral, if_neg (by simp [hc]), if_pos rfl, writeLiteral_text hText,
      writeLiteral_break hLast]
    simp [Line.chars, Line.indent]

/-- A text is written line by line. -/
theorem writeLiteral_flatMap {width : Nat} {body : List Line} (h : ∀ line ∈ body, line.IsWhole) :
    writeLiteral width true (body.flatMap Line.chars) =
      (body.map (Line.indent width)).flatMap Line.chars := by
  induction body with
  | nil => rfl
  | cons line body ih =>
    obtain ⟨hLine, hBody⟩ := List.forall_mem_cons.1 h
    rw [List.flatMap_cons, writeLiteral_chars hLine, ih hBody]
    rfl

/-! ## What a line is to the block -/

variable {width : Nat} {line : Line}

theorem takeWhile_spaces_append (n : Nat) (text : List Char) :
    n ≤ ((List.replicate n ' ' ++ text).takeWhile (· = ' ')).length := by
  rw [List.takeWhile_append_of_pos]
  · simp
  · intro c hc
    simp [List.eq_of_mem_replicate hc]

theorem part_indent_of_text_eq_nil (hWidth : 0 < width) (h : line.IsWhole) (hText : line.text = []) :
    (line.indent width).part width = .gap := by
  obtain ⟨-, c, -, hEnding⟩ := h
  rw [Line.indent, if_pos hText, Line.part]
  simp [Line.indentation, Line.hasTabAt, Line.isEmpty, hText, hEnding, hWidth]

theorem part_indent_of_text_ne_nil (hText : line.text ≠ []) :
    (line.indent width).part width = .content line.text := by
  have hIndented : ¬ (line.indent width).indentation < width := by
    rw [Line.indent, if_neg hText]
    exact Nat.not_lt.2 (takeWhile_spaces_append width line.text)
  have hBody : (line.indent width).text.drop width = line.text := by
    rw [Line.indent, if_neg hText]
    simp [Yaml.indentation]
  rw [Line.part]
  simp [hBody, hIndented, hText]

/-- A line that begins with a letter does not belong to the block. -/
theorem part_eq_outside (hWidth : 0 < width) {c : Char} {text : List Char} (hc : c.isAlpha = true)
    (h : line.text = c :: text) : line.part width = .outside := by
  have hSpace : c ≠ ' ' := ne_of_isAlpha hc
  have hTab : c ≠ '\t' := ne_of_isAlpha hc
  simp [Line.part, Line.indentation, Line.hasTabAt, Line.isEmpty, h, hSpace, hTab, hWidth]

theorem scanLines?_outside {isLiteral : Bool} {chomping : Chomping} {after : List Char} (held : Held)
    (hWidth : 0 < width) (h : StartsWithLetter after) :
    scanLines? isLiteral chomping width held (lines after) =
      some (held.finish chomping, lines after) := by
  cases after with
  | nil => rfl
  | cons c rest =>
    have hc := h c rfl
    have hBreak : isBreak c = false := (Bool.or_eq_false_iff.1 (isGap_of_isAlpha hc)).2
    obtain ⟨line, more, text, hLines, hText⟩ := lines_cons_word hBreak rest
    rw [hLines, scanLines?, part_eq_outside hWidth hc hText]

/-! ## Reading the lines -/

/-- The lines of a text are read as the text, of which the breaks at its end are still held. -/
theorem scanLines?_lines {body : List Line} (hWidth : 0 < width) (h : ∀ line ∈ body, line.IsWhole)
    (held : Held) :
    ∃ text later, text ++ (later.ending ++ later.breaks) =
        held.ending ++ held.breaks ++ body.flatMap Line.chars ∧
      ∀ chomping rest, scanLines? true chomping width held (body.map (Line.indent width) ++ rest) =
        (scanLines? true chomping width later rest).map
          (fun (more, after) => (text ++ more, after)) := by
  induction body generalizing held with
  | nil => exact ⟨[], held, by simp, fun _ _ => by simp⟩
  | cons line body ih =>
    obtain ⟨hLine, hBody⟩ := List.forall_mem_cons.1 h
    by_cases hText : line.text = []
    · -- The break of an empty line waits for what comes behind it.
      obtain ⟨text, later, hAll, hRead⟩ := ih hBody { held with breaks := held.breaks ++ line.ending }
      refine ⟨text, later, ?_, ?_⟩
      · rw [hAll]
        simp [Line.chars, hText]
      · intro chomping rest
        rw [List.map_cons, List.cons_append, scanLines?, part_indent_of_text_eq_nil hWidth hLine hText,
          Line.ending_indent]
        exact hRead chomping rest
    · -- A line with text has all that is held put before it, and its own break held.
      obtain ⟨text, later, hAll, hRead⟩ :=
        ih hBody ⟨line.ending, [], line.text.head?.any isBlank⟩
      refine ⟨held.ending ++ held.breaks ++ line.text ++ text, later, ?_, ?_⟩
      · rw [List.append_assoc, hAll]
        simp [Line.chars]
      · intro chomping rest
        rw [List.map_cons, List.cons_append, scanLines?, part_indent_of_text_ne_nil hText,
          Line.ending_indent]
        dsimp only
        rw [hRead, Option.map_map]
        congr 1
        funext found
        simp [Held.join]

/-- Where all breaks are kept, the whole text is read. -/
theorem scanLines?_keep {body : List Line} {after : List Char} (hWidth : 0 < width)
    (h : ∀ line ∈ body, line.IsWhole) (hAfter : StartsWithLetter after) :
    scanLines? true .keep width ⟨[], [], false⟩ (body.map (Line.indent width) ++ lines after) =
      some (body.flatMap Line.chars, lines after) := by
  obtain ⟨text, later, hAll, hRead⟩ := scanLines?_lines hWidth h ⟨[], [], false⟩
  rw [hRead, scanLines?_outside later hWidth hAfter]
  simpa [Held.finish] using hAll

/-- Where the last line is not empty, all is read but possibly the break that ends it. -/
theorem scanLines?_last {body : List Line} {after : List Char} (chomping : Chomping)
    (hWidth : 0 < width) (h : ∀ line ∈ body, line.IsWhole) (hLast : line.text ≠ [])
    (hAfter : StartsWithLetter after) :
    ∃ afterBlank, scanLines? true chomping width ⟨[], [], false⟩
        ((body ++ [line]).map (Line.indent width) ++ lines after) =
      some (body.flatMap Line.chars ++ line.text ++ Held.finish ⟨line.ending, [], afterBlank⟩ chomping,
        lines after) := by
  obtain ⟨text, later, hAll, hRead⟩ := scanLines?_lines hWidth h ⟨[], [], false⟩
  refine ⟨line.text.head?.any isBlank, ?_⟩
  have hText : text ++ (later.ending ++ later.breaks) = body.flatMap Line.chars := hAll
  rw [List.map_append, List.append_assoc, hRead, List.map_singleton, List.singleton_append, scanLines?,
    part_indent_of_text_ne_nil hLast, Line.ending_indent]
  dsimp only
  rw [scanLines?_outside _ hWidth hAfter, ← hText]
  simp [Held.join]

/-! ## The header -/

/-- What the header of a text says of the breaks at its end. -/
def chompingOf (cs : List Char) : Chomping :=
  match cs.reverse with
  | [] => .strip
  | [last] => if isBreak last then .keep else .strip
  | last :: before :: _ => if !isBreak last then .strip else if isBreak before then .keep else .clip

/-- Whether the indentation of a text could not be seen from its first line. -/
def needsHint (cs : List Char) : Bool :=
  cs.head?.any (fun c => isSpace c || isBreak c)

theorem scanHeader?_signs {signs : List Char} (h : ∀ c ∈ signs, isSign c = true) (rest : List Char) :
    scanHeader? (signs ++ '\n' :: rest) =
      (Header.ofSigns? signs).map (fun header => (header, '\n' :: rest)) := by
  have hFeed : isSign '\n' = false := rfl
  rw [scanHeader?, List.takeWhile_append_of_pos h, List.dropWhile_append_of_pos h]
  simp [hFeed]

/-- The sign in a header for what becomes of the breaks at the end. -/
def Chomping.signs : Chomping → List Char
  | .strip => ['-']
  | .clip => []
  | .keep => ['+']

/-- What stands in the header of a text after its first character. -/
def headerSigns (cs : List Char) : List Char :=
  (if needsHint cs then ['2'] else []) ++ (chompingOf cs).signs

theorem literalHeader_eq (cs : List Char) : literalHeader cs = '|' :: headerSigns cs := by
  unfold literalHeader headerSigns needsHint chompingOf
  rcases cs.reverse with _ | ⟨last, _ | ⟨before, more⟩⟩
  · rfl
  · cases hLast : isBreak last <;> simp [hLast, Chomping.signs]
  · cases hLast : isBreak last <;> cases hBefore : isBreak before <;>
      simp [hLast, hBefore, Chomping.signs]

theorem isSign_of_mem_headerSigns {cs : List Char} : ∀ c ∈ headerSigns cs, isSign c = true := by
  unfold headerSigns
  cases needsHint cs <;> cases chompingOf cs <;> exact List.all_eq_true.1 rfl

/-- The header is read as what it says. -/
theorem scanHeader?_headerSigns (cs rest : List Char) :
    scanHeader? (headerSigns cs ++ '\n' :: rest) =
      some (⟨chompingOf cs, if needsHint cs then some 2 else none⟩, '\n' :: rest) := by
  rw [scanHeader?_signs isSign_of_mem_headerSigns]
  unfold headerSigns
  cases needsHint cs <;> cases chompingOf cs <;> rfl

/-! ## The whole block -/

/-- The text with a break at its end, as every written block has one. -/
def ended (cs : List Char) : List Char :=
  if cs.getLast?.any isBreak then cs else cs ++ ['\n']

theorem ended_eq_append (cs : List Char) :
    ∃ first last, isBreak last = true ∧ ended cs = first ++ [last] := by
  unfold ended
  split
  · next hBreak =>
    obtain ⟨last, hLast, hLastBreak⟩ := (Option.any_eq_true _ _).1 hBreak
    obtain ⟨first, hFirst⟩ := List.getLast?_eq_some_iff.1 hLast
    exact ⟨first, last, hLastBreak, hFirst⟩
  · exact ⟨cs, '\n', rfl, rfl⟩

theorem writeLiteral_append_break {last : Char} (hLast : isBreak last = true) (width : Nat)
    (afterBreak : Bool) (cs : List Char) :
    writeLiteral width afterBreak (cs ++ [last]) = writeLiteral width afterBreak cs ++ [last] := by
  induction cs generalizing afterBreak with
  | nil => exact writeLiteral_break hLast []
  | cons c rest ih =>
    rw [List.cons_append, writeLiteral, writeLiteral]
    split
    · rw [ih, List.cons_append]
    · rw [ih, List.append_assoc, List.cons_append]

theorem writeLiteral_ended (width : Nat) (cs : List Char) :
    writeLiteral width true cs ++ (if cs.getLast?.any isBreak then [] else ['\n']) =
      writeLiteral width true (ended cs) := by
  unfold ended
  split
  · exact List.append_nil _
  · exact (writeLiteral_append_break rfl width true cs).symm

theorem chompingOf_of_word {last : Char} (h : isBreak last = false) (cs : List Char) :
    chompingOf (cs ++ [last]) = .strip := by
  rw [chompingOf, List.reverse_append]
  cases cs.reverse <;> simp [h]

theorem chompingOf_of_break {last : Char} (h : isBreak last = true) (cs : List Char) :
    chompingOf (cs ++ [last]) = if cs.getLast?.all isBreak then .keep else .clip := by
  rw [chompingOf, List.reverse_append, ← List.head?_reverse]
  cases cs.reverse with
  | nil => simp [h]
  | cons before more =>
    simp only [List.reverse_singleton, List.singleton_append, List.head?_cons, Option.all_some, h,
      Bool.not_true, Bool.false_eq_true, if_false]
    rfl

/-- A last character that is no break is in the last line, and so is one before a single break. -/
theorem scanLines?_pair {width : Nat} {after : List Char} {before last : Char} (chomping : Chomping)
    (hWidth : 0 < width) (hLast : isBreak last = true) (hBefore : isBreak before = false)
    (first : List Char) (hAfter : StartsWithLetter after) :
    scanLines? true chomping width ⟨[], [], false⟩
        ((lines (first ++ [before, last])).map (Line.indent width) ++ lines after) =
      some (first ++ [before] ++ Held.finish ⟨[last], [], false⟩ chomping, lines after) := by
  obtain ⟨body, text, hLines⟩ := lines_append_pair hLast hBefore first
  have hWhole : ∀ line ∈ lines (first ++ [before, last]), line.IsWhole :=
    isWhole_of_mem_lines (by simp [hLast])
  have hText := flatMap_chars_lines (first ++ [before, last])
  rw [hLines] at hWhole hText ⊢
  have hBody : ∀ line ∈ body, line.IsWhole := fun line h => hWhole line (List.mem_append_left _ h)
  have hSome : (Line.mk (text ++ [before]) [last]).text ≠ [] := by simp
  obtain ⟨afterBlank, hRead⟩ := scanLines?_last chomping hWidth hBody hSome hAfter
  have hFirst : body.flatMap Line.chars ++ (text ++ [before]) = first ++ [before] := by
    have hEnded : body.flatMap Line.chars ++ (text ++ [before]) ++ [last] = first ++ [before] ++ [last] := by
      simpa [Line.chars] using hText
    exact List.append_cancel_right hEnded
  rw [hRead, hFirst]
  cases chomping <;> rfl

/-- The lines of a block are read as its text. -/
theorem scanLines?_lines_ended {width : Nat} {cs after : List Char} (hWidth : 0 < width)
    (hSome : cs ≠ []) (hAfter : StartsWithLetter after) :
    scanLines? true (chompingOf cs) width ⟨[], [], false⟩
        ((lines (ended cs)).map (Line.indent width) ++ lines after) = some (cs, lines after) := by
  obtain ⟨first, last, rfl⟩ := (List.eq_nil_or_concat cs).resolve_left hSome
  rw [List.concat_eq_append] at hSome ⊢
  -- The text ends in several breaks or nothing else, in one break, or in none.
  by_cases hLast : isBreak last = true
  · have hEnded : ended (first ++ [last]) = first ++ [last] := by simp [ended, hLast]
    rw [hEnded, chompingOf_of_break hLast]
    split
    · have hWhole : ∀ line ∈ lines (first ++ [last]), line.IsWhole :=
        isWhole_of_mem_lines (by simp [hLast])
      rw [scanLines?_keep hWidth hWhole hAfter, flatMap_chars_lines]
    · next hFirst =>
      rcases List.eq_nil_or_concat first with rfl | ⟨first, before, rfl⟩
      · exact absurd rfl hFirst
      · rw [List.concat_eq_append] at hFirst ⊢
        have hBefore : isBreak before = false := by simpa using hFirst
        rw [List.append_assoc, List.singleton_append,
          scanLines?_pair .clip hWidth hLast hBefore first hAfter]
        simp [Held.finish]
  · have hWord : isBreak last = false := Bool.eq_false_iff.2 hLast
    have hEnded : ended (first ++ [last]) = first ++ [last, '\n'] := by simp [ended, hLast]
    rw [hEnded, chompingOf_of_word hWord, scanLines?_pair .strip hWidth rfl hWord first hAfter]
    simp [Held.finish]

/-- The first line of a text that begins with no space shows how far all of them are indented. -/
theorem findIndentation?_indent {width margin : Nat} {line : Line} {c : Char} {text : List Char}
    (hWidth : max margin 1 ≤ width) (hText : line.text = c :: text) (hSpace : c ≠ ' ')
    (hTab : c ≠ '\t') (rest : List Line) :
    findIndentation? margin (line.indent width :: rest) = some width := by
  have hLine : line.indent width = ⟨Yaml.indentation width ++ c :: text, line.ending⟩ := by
    rw [Line.indent, if_neg (by simp [hText]), hText]
  have hIndentation : (line.indent width).indentation = width := by
    rw [hLine, Line.indentation, Yaml.indentation, List.takeWhile_append_of_pos (by simp)]
    simp [hSpace]
  have hEmpty : (line.indent width).isEmpty = false := by
    rw [hLine, Line.isEmpty]
    simp [hSpace]
  have hNoTab : (line.indent width).hasTabAt width = false := by
    rw [hLine, Line.hasTabAt]
    simp [Yaml.indentation, hTab]
  simp [findIndentation?, hEmpty, hIndentation, hNoTab]
  omega

/-- A block is its text line by line, and then what follows it. -/
theorem lines_writeLiteral_ended (width : Nat) (cs after : List Char) :
    lines (writeLiteral width true (ended cs) ++ after) =
      (lines (ended cs)).map (Line.indent width) ++ lines after := by
  obtain ⟨first, last, hLast, hEnded⟩ := ended_eq_append cs
  have hWhole : ∀ line ∈ lines (ended cs), line.IsWhole :=
    isWhole_of_mem_lines (by simp [hEnded, hLast])
  have hIndented : ∀ line ∈ (lines (ended cs)).map (Line.indent width), line.IsWhole := by
    intro _ hMem
    obtain ⟨line, hLine, rfl⟩ := List.mem_map.1 hMem
    exact (hWhole line hLine).indent width
  have hWritten : writeLiteral width true ((lines (ended cs)).flatMap Line.chars) =
      ((lines (ended cs)).map (Line.indent width)).flatMap Line.chars := writeLiteral_flatMap hWhole
  rw [flatMap_chars_lines] at hWritten
  rw [hWritten, lines_flatMap_append hIndented]

/-- The indentation is given by the header or shown by the first line. -/
theorem indentation?_ended {cs after : List Char} (hSome : cs ≠ [])
    (hPrintable : ∀ c ∈ cs, isPrintable c = true) :
    Header.indentation? ⟨chompingOf cs, if needsHint cs then some 2 else none⟩ 1
      ((lines (ended cs)).map (Line.indent 2) ++ lines after) = some 2 := by
  cases hHint : needsHint cs with
  | true => rfl
  | false =>
    -- With no hint, the text begins with a character that no indentation has.
    obtain ⟨c, rest, rfl⟩ := List.exists_cons_of_ne_nil hSome
    have hTab : c ≠ '\t' := ne_of_isPrintable (hPrintable c List.mem_cons_self)
    have hWord : isSpace c = false ∧ isBreak c = false := by simpa [needsHint] using hHint
    have hSpace : c ≠ ' ' := by simpa [isSpace] using hWord.1
    have hStart : ∃ more, ended (c :: rest) = c :: more := by
      unfold ended
      split
      · exact ⟨rest, rfl⟩
      · exact ⟨rest ++ ['\n'], rfl⟩
    obtain ⟨more, hStart⟩ := hStart
    obtain ⟨line, body, text, hLines, hText⟩ := lines_cons_word hWord.2 more
    rw [hStart, hLines]
    exact findIndentation?_indent (by decide) hText hSpace hTab _

/-- A text is read from its block, with what follows the block left. -/
theorem scan?_writeLiteral {cs after : List Char} (hSome : cs ≠ [])
    (hPrintable : ∀ c ∈ cs, isPrintable c = true) (hAfter : StartsWithLetter after) :
    scan? true 1 (headerSigns cs ++ '\n' :: (writeLiteral 2 true (ended cs) ++ after)) =
      some (cs, after) := by
  have hFeed (rest : List Char) : endLine? ('\n' :: rest) = some rest := rfl
  rw [scan?, scanHeader?_headerSigns]
  simp only [Option.bind_eq_bind, Option.bind_some, hFeed, lines_writeLiteral_ended,
    indentation?_ended hSome hPrintable, scanLines?_lines_ended (by decide : 0 < 2) hSome hAfter,
    flatMap_chars_lines, Option.pure_def]

theorem isPrintable_of_mem_writeLiteral {width : Nat} {cs : List Char} {afterBreak : Bool}
    (h : ∀ c ∈ cs, isPrintable c = true) :
    ∀ c ∈ writeLiteral width afterBreak cs, isPrintable c = true := by
  induction cs generalizing afterBreak with
  | nil =>
    intro c hc
    cases hc
  | cons d rest ih =>
    obtain ⟨hd, hRest⟩ := List.forall_mem_cons.1 h
    rw [writeLiteral]
    split
    · exact List.forall_mem_cons.2 ⟨hd, ih hRest⟩
    · have hLater : ∀ c ∈ d :: writeLiteral width false rest, isPrintable c = true :=
        List.forall_mem_cons.2 ⟨hd, ih hRest⟩
      exact List.forall_mem_append.2 ⟨isPrintable_of_mem_indentation, hLater⟩

theorem isPrintable_of_mem_headerSigns {cs : List Char} :
    ∀ c ∈ headerSigns cs, isPrintable c = true := by
  unfold headerSigns
  cases needsHint cs <;> cases chompingOf cs <;> exact List.all_eq_true.1 rfl

end CompilerDriver.Yaml.Block
