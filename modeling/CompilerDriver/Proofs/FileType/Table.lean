import CompilerDriver.FileType.Listing
import CompilerDriver.Proofs.FileType.Names
import CompilerDriver.Proofs.Text.Column
import Mathlib.Data.List.Forall2
/-!
# A table of file types can be read back

Every line of the table, the titles included, is set out in columns of the same widths (`toList_formatTable`), and
no cell is wider than its column (`fits_titles`, `fits_cells`). So the cells of all lines stand at the same places.
The titles are single words, which is why the places are known from them alone, and `readTable` cuts the other lines
there.
-/

namespace CompilerDriver.FileType

/-- The titles of the columns. -/
def titles : List String :=
  ["NAME", "RAW", "SWIFT", "TEXTUAL", "AFTER-LLVM", "DESCRIPTION"]

/-- What the table shows of a type. -/
def cells (ty : FileType) : List String :=
  [ty.name, ty.raw, yesNo ty.isCompilationInput, yesNo ty.isTextual, yesNo ty.isGenerated, ty.description]

/-- The widths of all columns but the last. -/
def columnWidths (types : List FileType) : List Nat :=
  [Text.widestBytes 4 (types.map name), Text.widestBytes 3 (types.map raw), 6, 7, 10]

/-- The cells of a line: it is cut where a title begins, and what the cells were filled up with is taken away. -/
def readRow (header row : List Char) : List String :=
  (Text.cutAt (Text.wordStarts 0 true header) row).map (String.ofList ∘ Text.trimEnd)

/-- The rows of a table below its line of titles. -/
def readTable (text : String) : List (List String) :=
  match Text.lines text with
  | [] => []
  | header :: rows => rows.map (readRow header)

/-! ## Cells -/

theorem cell_facts {ty : FileType} {cell : String} (h : cell ∈ ty.cells) :
    '\n' ∉ cell.toList ∧ cell.toList.getLast? ≠ some ' ' := by
  have hAll : ∀ ty ∈ all, ∀ cell ∈ ty.cells, '\n' ∉ cell.toList ∧ cell.toList.getLast? ≠ some ' ' := by
    decide +kernel
  exact hAll ty (mem_all ty) cell h

theorem title_facts {title : String} (h : title ∈ titles) :
    title.toList ≠ [] ∧ ' ' ∉ title.toList ∧ '\n' ∉ title.toList := by
  have hAll : ∀ title ∈ titles, title.toList ≠ [] ∧ ' ' ∉ title.toList ∧ '\n' ∉ title.toList := by decide
  exact hAll title h

/-- Names and raw forms have ASCII characters only. -/
theorem utf8ByteSize_name_raw (ty : FileType) :
    ty.name.utf8ByteSize = ty.name.length ∧ ty.raw.utf8ByteSize = ty.raw.length := by
  have hAll : ∀ ty ∈ all, ty.name.utf8ByteSize = ty.name.length ∧ ty.raw.utf8ByteSize = ty.raw.length := by
    decide +kernel
  exact hAll ty (mem_all ty)

theorem length_yesNo (value : Bool) : (yesNo value).length ≤ 3 := by
  cases value <;> decide

variable {types : List FileType}

theorem fits_titles (types : List FileType) : Text.Fits (columnWidths types) (titles.map String.toList) :=
  .cons (Text.least_le_widestBytes 4 _) (.cons (Text.least_le_widestBytes 3 _)
    (.cons (by decide) (.cons (by decide) (.cons (by decide) (.last _)))))

theorem fits_cells {ty : FileType} (h : ty ∈ types) :
    Text.Fits (columnWidths types) (ty.cells.map String.toList) := by
  -- bytes are counted for the widths and characters for the filling, which is the same here
  obtain ⟨hNameBytes, hRawBytes⟩ := utf8ByteSize_name_raw ty
  have hName : ty.name.length ≤ Text.widestBytes 4 (types.map name) := by
    rw [← hNameBytes]
    exact Text.le_widestBytes (List.mem_map_of_mem h) 4
  have hRaw : ty.raw.length ≤ Text.widestBytes 3 (types.map raw) := by
    rw [← hRawBytes]
    exact Text.le_widestBytes (List.mem_map_of_mem h) 3
  have hYesNo (value : Bool) {width : Nat} (hWidth : 3 ≤ width) : (yesNo value).toList.length ≤ width :=
    Nat.le_trans (length_yesNo value) hWidth
  exact .cons hName (.cons hRaw
    (.cons (hYesNo _ (by decide)) (.cons (hYesNo _ (by decide)) (.cons (hYesNo _ (by decide)) (.last _)))))

/-! ## Lines -/

/-- The line of the cells in a table of the types. -/
def tableRow (types : List FileType) (cells : List String) : List Char :=
  Text.setOut (columnWidths types) (cells.map String.toList)

theorem toList_tableLine (nameWidth rawWidth : Nat) (name raw input textual generated description : String) :
    (tableLine nameWidth rawWidth name raw input textual generated description).toList =
      Text.setOut [nameWidth, rawWidth, 6, 7, 10]
        ([name, raw, input, textual, generated, description].map String.toList) ++ ['\n'] := by
  have hGap : "  ".toList = [' ', ' '] := rfl
  have hFeed : "\n".toList = ['\n'] := rfl
  simp only [tableLine, String.toList_append, hGap, hFeed, List.append_assoc, List.nil_append,
    Text.toList_padRight_append, List.map_cons, List.map_nil, Text.setOut, List.flatten_singleton]

theorem toList_formatTable (types : List FileType) :
    (formatTable types).toList =
      (tableRow types titles :: types.map fun ty => tableRow types ty.cells).flatMap (· ++ ['\n']) := by
  rw [formatTable, String.toList_append, toList_tableLine, String.toList_join, List.flatMap_map, List.flatMap_cons,
    List.flatMap_map]
  simp only [toList_tableLine]
  rfl

theorem newline_not_mem_tableRow (types : List FileType) {cells : List String}
    (h : ∀ cell ∈ cells, '\n' ∉ cell.toList) : '\n' ∉ tableRow types cells := by
  apply Text.newline_not_mem_setOut
  intro cell hCell
  obtain ⟨text, hText, rfl⟩ := List.mem_map.1 hCell
  exact h text hText

theorem lines_formatTable (types : List FileType) :
    Text.lines (formatTable types) = tableRow types titles :: types.map fun ty => tableRow types ty.cells := by
  apply Text.lines_eq (toList_formatTable types)
  intro line hLine
  rcases List.mem_cons.1 hLine with rfl | hRow
  · exact newline_not_mem_tableRow types fun _ hTitle => (title_facts hTitle).2.2
  · obtain ⟨ty, -, rfl⟩ := List.mem_map.1 hRow
    exact newline_not_mem_tableRow types fun _ hCell => (cell_facts hCell).1

/-! ## Columns -/

theorem aligned_titles (types : List FileType) :
    Text.Aligned (Text.places 0 (columnWidths types)) (titles.map String.toList) (tableRow types titles) :=
  (fits_titles types).aligned 0

theorem aligned_cells {ty : FileType} (h : ty ∈ types) :
    Text.Aligned (Text.places 0 (columnWidths types)) (ty.cells.map String.toList) (tableRow types ty.cells) :=
  (fits_cells h).aligned 0

/-- The titles are single words, so they show where the columns begin. -/
theorem wordStarts_titles (types : List FileType) :
    Text.wordStarts 0 true (tableRow types titles) = Text.places 0 (columnWidths types) := by
  apply (aligned_titles types).wordStarts_eq _ rfl
  intro cell hCell
  obtain ⟨title, hTitle, rfl⟩ := List.mem_map.1 hCell
  exact ⟨(title_facts hTitle).1, (title_facts hTitle).2.1⟩

theorem readRow_tableRow {ty : FileType} (h : ty ∈ types) :
    readRow (tableRow types titles) (tableRow types ty.cells) = ty.cells := by
  have hCells : ∀ cell ∈ ty.cells.map String.toList, cell.getLast? ≠ some ' ' := by
    intro cell hCell
    obtain ⟨text, hText, rfl⟩ := List.mem_map.1 hCell
    exact (cell_facts hText).2
  have hCut : (Text.cutAt (Text.places 0 (columnWidths types)) (tableRow types ty.cells)).map Text.trimEnd =
      ty.cells.map String.toList := (aligned_cells h).map_trimEnd_cutAt hCells [] rfl
  rw [readRow, wordStarts_titles, ← List.map_map, hCut, List.map_map]
  exact List.map_id'' (fun _ => String.ofList_toList) _

theorem readTable_formatTable (types : List FileType) : readTable (formatTable types) = types.map cells := by
  rw [readTable, lines_formatTable]
  change (types.map fun ty => tableRow types ty.cells).map (readRow (tableRow types titles)) = types.map cells
  rw [List.map_map]
  exact List.map_congr_left fun ty hTy => readRow_tableRow hTy

/-- The widths would be the same if characters were counted. -/
theorem columnWidths_eq (types : List FileType) :
    columnWidths types = [Text.widest 4 (types.map name), Text.widest 3 (types.map raw), 6, 7, 10] := by
  have hNames : ∀ text ∈ types.map name, text.utf8ByteSize = text.length := by
    intro text hText
    obtain ⟨ty, -, rfl⟩ := List.mem_map.1 hText
    exact (utf8ByteSize_name_raw ty).1
  have hRaws : ∀ text ∈ types.map raw, text.utf8ByteSize = text.length := by
    intro text hText
    obtain ⟨ty, -, rfl⟩ := List.mem_map.1 hText
    exact (utf8ByteSize_name_raw ty).2
  rw [columnWidths, Text.widestBytes_eq_widest hNames, Text.widestBytes_eq_widest hRaws]

/-- The table of any list of types has a line of titles and one line for each type, in order. In all lines the six
cells begin at the same places, two spaces or more apart, and none is cut. The places are those at which the titles
begin, and cutting the lines there gives what the table shows of each type, and so the types. -/
theorem formatTable_aligned_and_read (types : List FileType) :
    ∃ offsets header rows,
      Text.lines (formatTable types) = header :: rows ∧
      (formatTable types).toList = (header :: rows).flatMap (· ++ ['\n']) ∧
      offsets = Text.places 0 [Text.widestBytes 4 (types.map name), Text.widestBytes 3 (types.map raw), 6, 7, 10] ∧
      offsets.length = 6 ∧
      Text.wordStarts 0 true header = offsets ∧
      Text.Aligned offsets (titles.map String.toList) header ∧
      List.Forall₂ (fun ty row => Text.Aligned offsets (ty.cells.map String.toList) row) types rows ∧
      readTable (formatTable types) = types.map cells ∧
      (readTable (formatTable types)).map (fun row => row.head?.bind ofName?) = types.map some := by
  have hRows : List.Forall₂ (fun ty row =>
      Text.Aligned (Text.places 0 (columnWidths types)) (ty.cells.map String.toList) row) types
      (types.map fun ty => tableRow types ty.cells) := by
    rw [List.forall₂_map_right_iff, List.forall₂_same]
    exact fun ty hTy => aligned_cells hTy
  have hNames : (readTable (formatTable types)).map (fun row => row.head?.bind ofName?) = types.map some := by
    rw [readTable_formatTable, List.map_map]
    apply List.map_congr_left
    intro ty _
    exact ofName?_name ty
  exact ⟨_, _, _, lines_formatTable types, toList_formatTable types, rfl, rfl,
    wordStarts_titles types, aligned_titles types, hRows, readTable_formatTable types, hNames⟩

end CompilerDriver.FileType
