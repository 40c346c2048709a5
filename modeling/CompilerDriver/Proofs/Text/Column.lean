import CompilerDriver.Proofs.Text.Comma
import CompilerDriver.Text.Column
/-!
# Places in lines and in columns

A place in a text has a column: the number of characters since the last line feed. Text that is set in columns
can be read back: where cells stand at certain places of a line, two spaces or more apart (`Aligned`), the line
cut at these places gives the cells, once the spaces at their ends are taken away (`Aligned.map_trimEnd_cutAt`).
In a line of single words the places are those at which a word begins (`Aligned.wordStarts_eq`). Cells that are no
wider than their columns stand where the columns begin, whatever the cells are (`Fits.aligned`).
-/

namespace CompilerDriver.Text

/-! ## The column of a place -/

/-- The column of what follows the text. -/
def column (before : List Char) : Nat :=
  (before.reverse.takeWhile (· ≠ '\n')).length

theorem column_append {line : List Char} (h : '\n' ∉ line) (before : List Char) :
    column (before ++ line) = column before + line.length := by
  have hLine : ∀ c ∈ line.reverse, decide (c ≠ '\n') = true := by
    intro c hc
    exact decide_eq_true fun hFeed => h (by simpa [hFeed] using hc)
  rw [column, List.reverse_append, List.takeWhile_append_of_pos hLine, List.length_append, List.length_reverse,
    Nat.add_comm, column]

theorem column_newline (before : List Char) : column (before ++ ['\n']) = 0 := by
  simp [column]

theorem column_append_newline {line : List Char} (h : '\n' ∉ line) (before : List Char) :
    column (before ++ '\n' :: line) = line.length := by
  rw [List.append_cons, column_append h, column_newline, Nat.zero_add]

/-! ## Lines -/

/-- The lines of a text in which each line is ended by a line feed. -/
def lines (text : String) : List (List Char) :=
  (splitChars '\n' text.toList).dropLast

theorem splitChars_flatMap {ls : List (List Char)} (h : ∀ line ∈ ls, '\n' ∉ line) :
    splitChars '\n' (ls.flatMap (· ++ ['\n'])) = ls ++ [[]] := by
  induction ls with
  | nil => rfl
  | cons line ls ih =>
    have hLine : ∀ c ∈ line, (c == '\n') = false := by
      intro c hc
      exact beq_false_of_ne fun hFeed => h line List.mem_cons_self (hFeed ▸ hc)
    rw [List.flatMap_cons, List.append_assoc, List.singleton_append, splitChars_eq_splitOn, List.splitOn,
      List.splitOnP_append_cons_of_forall_mem hLine _ rfl, ← List.splitOn, ← splitChars_eq_splitOn,
      ih fun line hLine => h line (List.mem_cons_of_mem _ hLine)]
    rfl

theorem lines_eq {text : String} {ls : List (List Char)} (hText : text.toList = ls.flatMap (· ++ ['\n']))
    (h : ∀ line ∈ ls, '\n' ∉ line) : lines text = ls := by
  rw [lines, hText, splitChars_flatMap h, List.dropLast_concat]

/-! ## Spaces at the end -/

theorem dropWhile_replicate_append {α : Type} {p : α → Bool} {c : α} (hc : p c = true) (n : Nat)
    {l : List α} (hl : ∀ a ∈ l.head?, p a = false) : (List.replicate n c ++ l).dropWhile p = l := by
  induction n with
  | zero =>
    cases l with
    | nil => rfl
    | cons a l => simp [hl a (by simp)]
  | succ n ih => simpa [List.replicate_succ, hc] using ih

/-- The text without the spaces at its end. -/
def trimEnd (cs : List Char) : List Char :=
  (cs.reverse.dropWhile (· == ' ')).reverse

theorem trimEnd_append_spaces {cs : List Char} (h : cs.getLast? ≠ some ' ') (n : Nat) :
    trimEnd (cs ++ List.replicate n ' ') = cs := by
  have hHead : ∀ c ∈ cs.reverse.head?, (c == ' ') = false := by
    intro c hc
    rw [List.head?_reverse] at hc
    exact beq_false_of_ne (fun hSpace => h (hSpace ▸ hc))
  rw [trimEnd, List.reverse_append, List.reverse_replicate, dropWhile_replicate_append rfl n hHead,
    List.reverse_reverse]

theorem trimEnd_eq_self {cs : List Char} (h : cs.getLast? ≠ some ' ') : trimEnd cs = cs := by
  simpa using trimEnd_append_spaces h 0

/-- Padding a text is undone by taking the spaces at its end away, if it has none of its own there. -/
theorem padding_inj {a b : List Char} {m n : Nat} (ha : a.getLast? ≠ some ' ') (hb : b.getLast? ≠ some ' ')
    (h : a ++ List.replicate m ' ' = b ++ List.replicate n ' ') : a = b := by
  have hTrim := congrArg trimEnd h
  rwa [trimEnd_append_spaces ha, trimEnd_append_spaces hb] at hTrim

/-! ## Cells at the same places -/

/-- The cells stand in the line, which begins at the first of the places, each at its own place and two spaces or
more behind the cell before it. -/
inductive Aligned : List Nat → List (List Char) → List Char → Prop
  | last (start : Nat) (cell : List Char) : Aligned [start] [cell] cell
  | cons {start next : Nat} {places : List Nat} {cells : List (List Char)} {line : List Char}
      (cell : List Char) (gap : Nat) : 2 ≤ gap → next = start + cell.length + gap →
      Aligned (next :: places) cells line →
      Aligned (start :: next :: places) (cell :: cells) (cell ++ (List.replicate gap ' ' ++ line))

/-- No cell is wider than its column, and behind the columns stands one more cell, of any width. -/
inductive Fits : List Nat → List (List Char) → Prop
  | last (cell : List Char) : Fits [] [cell]
  | cons {width : Nat} {widths : List Nat} {cell : List Char} {cells : List (List Char)} :
      cell.length ≤ width → Fits widths cells → Fits (width :: widths) (cell :: cells)

/-- The places of columns of the given widths, two spaces apart, and of what stands behind them. -/
def places (start : Nat) : List Nat → List Nat
  | [] => [start]
  | width :: widths => start :: places (start + width + 2) widths

/-- The line that has the cells in columns of the given widths. -/
def setOut : List Nat → List (List Char) → List Char
  | [], cells => cells.flatten
  | _ :: _, [] => []
  | width :: widths, cell :: cells =>
    cell ++ (List.replicate (width - cell.length + 2) ' ' ++ setOut widths cells)

theorem exists_places_eq (start : Nat) (widths : List Nat) : ∃ more, places start widths = start :: more := by
  cases widths <;> exact ⟨_, rfl⟩

theorem Fits.aligned {widths : List Nat} {cells : List (List Char)} (h : Fits widths cells) (start : Nat) :
    Aligned (places start widths) cells (setOut widths cells) := by
  induction h generalizing start with
  | last cell =>
    rw [setOut, List.flatten_singleton, places]
    exact .last start cell
  | @cons width widths cell cells hCell _ ih =>
    obtain ⟨more, hMore⟩ := exists_places_eq (start + width + 2) widths
    have hRest := ih (start + width + 2)
    rw [hMore] at hRest
    rw [places, hMore]
    exact .cons cell _ (by omega) (by omega) hRest

theorem newline_not_mem_setOut (widths : List Nat) {cells : List (List Char)} (h : ∀ cell ∈ cells, '\n' ∉ cell) :
    '\n' ∉ setOut widths cells := by
  fun_induction setOut widths cells with
  | case1 cells =>
    rw [List.mem_flatten]
    rintro ⟨cell, hCell, hFeed⟩
    exact h cell hCell hFeed
  | case2 => exact List.not_mem_nil
  | case3 width widths cell cells ih =>
    have hRest := ih fun cell hCell => h cell (List.mem_cons_of_mem _ hCell)
    simp [h cell List.mem_cons_self, hRest]

/-- A line, cut at the places. -/
def cutAt : List Nat → List Char → List (List Char)
  | [], _ => []
  | [start], line => [line.drop start]
  | start :: next :: places, line => (line.drop start).take (next - start) :: cutAt (next :: places) line

/-- The places at which words begin in a text that begins at the given place, `isFresh` if no word goes on there. -/
def wordStarts (place : Nat) (isFresh : Bool) : List Char → List Nat
  | [] => []
  | c :: cs =>
    if c = ' ' then wordStarts (place + 1) true cs
    else if isFresh then place :: wordStarts (place + 1) false cs
    else wordStarts (place + 1) false cs

variable {places : List Nat} {cells : List (List Char)} {line : List Char}

/-- Cutting a line at its places and taking the spaces away gives its cells. -/
theorem Aligned.map_trimEnd_cutAt (h : Aligned places cells line)
    (hCells : ∀ cell ∈ cells, cell.getLast? ≠ some ' ') (before : List Char)
    (hStart : places.head? = some before.length) : (cutAt places (before ++ line)).map trimEnd = cells := by
  -- induction on the cells; what was passed goes into `before`
  induction h generalizing before with
  | last start cell =>
    obtain rfl : start = before.length := Option.some.inj hStart
    simp [cutAt, trimEnd_eq_self (hCells cell List.mem_cons_self)]
  | @cons start next places cells line cell gap _ hNext _ ih =>
    obtain rfl : start = before.length := Option.some.inj hStart
    have hPassed : before ++ (cell ++ (List.replicate gap ' ' ++ line)) =
        (before ++ (cell ++ List.replicate gap ' ')) ++ line := by
      simp only [List.append_assoc]
    have hRest := ih (fun cell hCell => hCells cell (List.mem_cons_of_mem _ hCell))
      (before ++ (cell ++ List.replicate gap ' ')) (by simp [hNext, Nat.add_assoc])
    have hFirst : ((before ++ (cell ++ (List.replicate gap ' ' ++ line))).drop before.length).take
        (next - before.length) = cell ++ List.replicate gap ' ' := by
      rw [List.drop_left, ← List.append_assoc]
      apply List.take_left'
      rw [List.length_append, List.length_replicate]
      omega
    rw [cutAt, List.map_cons, hFirst, trimEnd_append_spaces (hCells cell List.mem_cons_self), hPassed, hRest]

theorem wordStarts_spaces {n : Nat} (hn : 0 < n) (place : Nat) (isFresh : Bool) (cs : List Char) :
    wordStarts place isFresh (List.replicate n ' ' ++ cs) = wordStarts (place + n) true cs := by
  induction n generalizing place isFresh with
  | zero => cases hn
  | succ n ih =>
    rw [List.replicate_succ, List.cons_append, wordStarts, if_pos rfl]
    cases n with
    | zero => rfl
    | succ n => rw [ih (Nat.succ_pos n), Nat.add_right_comm, Nat.add_assoc]

theorem wordStarts_inside {word : List Char} (h : ' ' ∉ word) (place : Nat) (cs : List Char) :
    wordStarts place false (word ++ cs) = wordStarts (place + word.length) false cs := by
  induction word generalizing place with
  | nil => rfl
  | cons c word ih =>
    have hc : c ≠ ' ' := fun hSpace => h (hSpace ▸ List.mem_cons_self)
    rw [List.cons_append, wordStarts, if_neg hc, if_neg Bool.false_ne_true,
      ih (fun hMem => h (List.mem_cons_of_mem _ hMem)), List.length_cons, Nat.add_right_comm, Nat.add_assoc]

theorem wordStarts_word {word : List Char} (hWord : word ≠ []) (h : ' ' ∉ word) (place : Nat) (cs : List Char) :
    wordStarts place true (word ++ cs) = place :: wordStarts (place + word.length) false cs := by
  cases word with
  | nil => exact absurd rfl hWord
  | cons c word =>
    have hc : c ≠ ' ' := fun hSpace => h (hSpace ▸ List.mem_cons_self)
    rw [List.cons_append, wordStarts, if_neg hc, if_pos rfl,
      wordStarts_inside (fun hMem => h (List.mem_cons_of_mem _ hMem)), List.length_cons, Nat.add_right_comm,
      Nat.add_assoc]

/-- In a line of single words the cells stand where words begin. -/
theorem Aligned.wordStarts_eq (h : Aligned places cells line) (hWords : ∀ cell ∈ cells, cell ≠ [] ∧ ' ' ∉ cell)
    {start : Nat} (hStart : places.head? = some start) : wordStarts start true line = places := by
  induction h generalizing start with
  | last place cell =>
    obtain rfl : place = start := Option.some.inj hStart
    obtain ⟨hCell, hSpace⟩ := hWords cell List.mem_cons_self
    simpa [wordStarts] using wordStarts_word hCell hSpace place []
  | cons cell gap hGap hNext _ ih =>
    obtain rfl := Option.some.inj hStart
    obtain ⟨hCell, hSpace⟩ := hWords cell List.mem_cons_self
    rw [wordStarts_word hCell hSpace, wordStarts_spaces (by omega), ← hNext,
      ih (fun cell hMem => hWords cell (List.mem_cons_of_mem _ hMem)) rfl]

/-! ## Widths -/

theorem toList_padRight_append (width : Nat) (text : String) (rest : List Char) :
    (padRight width text).toList ++ ' ' :: ' ' :: rest =
      text.toList ++ (List.replicate (width - text.toList.length + 2) ' ' ++ rest) := by
  simp [padRight, spaces, ← List.replicate_append_replicate, String.length_toList]

theorem least_le_widestBytes (least : Nat) (texts : List String) : least ≤ widestBytes least texts := by
  induction texts generalizing least with
  | nil => exact Nat.le_refl least
  | cons text texts ih => exact Nat.le_trans (Nat.le_max_left _ _) (ih _)

theorem le_widestBytes {text : String} {texts : List String} (h : text ∈ texts) (least : Nat) :
    text.utf8ByteSize ≤ widestBytes least texts := by
  induction texts generalizing least with
  | nil => cases h
  | cons head texts ih =>
    rcases List.mem_cons.1 h with rfl | hTexts
    · exact Nat.le_trans (Nat.le_max_right _ _) (least_le_widestBytes _ texts)
    · exact ih hTexts _

/-- The width of the widest of the texts, and at least the given width. -/
def widest (least : Nat) (texts : List String) : Nat :=
  texts.foldl (fun width text => max width text.length) least

/-- Where each character is one byte, it makes no difference what is counted. -/
theorem widestBytes_eq_widest {texts : List String} (h : ∀ text ∈ texts, text.utf8ByteSize = text.length)
    (least : Nat) : widestBytes least texts = widest least texts := by
  induction texts generalizing least with
  | nil => rfl
  | cons text texts ih =>
    have hRest := ih (fun text hText => h text (List.mem_cons_of_mem _ hText)) (max least text.length)
    rwa [widestBytes, List.foldl_cons, h text List.mem_cons_self]

end CompilerDriver.Text
