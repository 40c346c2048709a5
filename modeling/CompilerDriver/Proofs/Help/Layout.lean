import CompilerDriver.Proofs.Help.Page
/-!
# The columns of a help page

A name stands two places from the left and a help text twenty-five, in whichever of its two layouts a block is set
(`IsInColumns`). What stands before a block matters only in that it ends a line, so the law of one block
(`isInColumns_block`) holds of every block of a page, and the line feeds of a page are those of its blocks
(`count_block`), counted one by one. `page_eq_and_isInColumns` puts the two together.
-/

namespace CompilerDriver.Help

universe u

variable {V : Type u}

/-- What stands between a name and its help text: spaces up to the column of texts, behind a line feed if the name
is too long to share a line. -/
def gap (name : String) : List Char :=
  if name.length ≤ nameWidth then List.replicate (nameWidth + 1 - name.length) ' '
  else '\n' :: List.replicate (nameWidth + 3) ' '

/-- The block that stands behind `before` shows the name and the help text as they are, each at its column. A name of
22 characters or fewer shares a line with the text; a longer one has the line to itself. -/
structure IsInColumns (before : List Char) (name : String) (between : List Char) (text : String)
    (block : List Char) : Prop where
  block_eq : block = [' ', ' '] ++ name.toList ++ between ++ text.toList ++ ['\n']
  name_column : Text.column (before ++ [' ', ' ']) = 2
  text_column : Text.column (before ++ [' ', ' '] ++ name.toList ++ between) = 25
  between_of_short : name.length ≤ 22 → ∀ c ∈ between, c = ' '
  between_of_long : 22 < name.length → ∃ count, between = '\n' :: List.replicate count ' '

/-! ## One block -/

theorem toList_block (name text : String) :
    (block name text).toList = [' ', ' '] ++ name.toList ++ gap name ++ text.toList ++ ['\n'] := by
  unfold block gap Text.padRight Text.spaces
  split
  · next hShort =>
    rw [Nat.succ_sub hShort, List.replicate_succ']
    simp
  · simp [nameWidth, List.replicate_succ]

theorem gap_of_le {name : String} (h : name.length ≤ nameWidth) :
    gap name = List.replicate (nameWidth + 1 - name.length) ' ' :=
  if_pos h

theorem gap_of_lt {name : String} (h : nameWidth < name.length) :
    gap name = '\n' :: List.replicate (nameWidth + 3) ' ' :=
  if_neg (Nat.not_le.2 h)

/-- The gap leads to the column of texts, from wherever the name has ended. -/
theorem column_gap {before : List Char} {name : String} (hBefore : Text.column before = 0)
    (hName : '\n' ∉ name.toList) : Text.column (before ++ [' ', ' '] ++ name.toList ++ gap name) = 25 := by
  rcases Nat.lt_or_ge nameWidth name.length with hLong | hShort
  · have hSpaces : '\n' ∉ List.replicate (nameWidth + 3) ' ' := by simp
    rw [gap_of_lt hLong, Text.column_append_newline hSpaces, List.length_replicate, nameWidth]
  · have hLine : '\n' ∉ [' ', ' '] ++ name.toList ++ gap name := by
      simp [gap_of_le hShort, hName]
    rw [List.append_assoc, List.append_assoc, ← List.append_assoc [' ', ' '], Text.column_append hLine, hBefore,
      gap_of_le hShort]
    simp only [nameWidth, List.length_append, List.length_cons, List.length_nil, String.length_toList,
      List.length_replicate] at hShort ⊢
    omega

theorem isInColumns_block {before : List Char} {name : String} (hBefore : Text.column before = 0)
    (hName : '\n' ∉ name.toList) (text : String) :
    IsInColumns before name (gap name) text (block name text).toList where
  block_eq := toList_block name text
  name_column := by rw [Text.column_append (by decide), hBefore]; rfl
  text_column := column_gap hBefore hName
  between_of_short := fun hShort c hc => by
    rw [gap_of_le hShort] at hc
    exact List.eq_of_mem_replicate hc
  between_of_long := fun hLong => ⟨_, gap_of_lt hLong⟩

/-- A block has a line feed of its own at its end, and another one if the name is too long. -/
theorem count_block (name text : String) :
    (block name text).toList.count '\n' =
      1 + (if 22 < name.length then 1 else 0) + (name.toList.count '\n' + text.toList.count '\n') := by
  have hGap : (gap name).count '\n' = if 22 < name.length then 1 else 0 := by
    split
    · next hLong => simp [gap_of_lt hLong, List.count_replicate]
    · next hShort => simp [gap_of_le (Nat.not_lt.1 hShort), List.count_replicate]
  have hSpaces : [' ', ' '].count '\n' = 0 := rfl
  rw [toList_block, List.count_append, List.count_append, List.count_append, List.count_append, hGap, hSpaces,
    List.count_singleton_self]
  omega

/-! ## All blocks -/

theorem column_block (before : List Char) (name text : String) :
    Text.column (before ++ (block name text).toList) = 0 := by
  rw [toList_block, ← List.append_assoc, Text.column_newline]

/-- A run of blocks that begins with a line ends one. -/
theorem column_blocks {before : List Char} (h : Text.column before = 0) (options : List (Listed V)) :
    Text.column (before ++ (blocks options).toList) = 0 := by
  induction options generalizing before with
  | nil => simpa [blocks] using h
  | cons option options ih =>
    rw [toList_blocks_cons, ← List.append_assoc]
    exact ih (column_block before _ _)

theorem blocks_append (options options' : List (Listed V)) :
    blocks (options ++ options') = blocks options ++ blocks options' := by
  rw [blocks, List.map_append, String.join_append, blocks, blocks]

/-- The line feeds of a run of blocks: one for each, one for each name that is too long, and those of the names and
the texts. -/
theorem count_blocks (options : List (Listed V)) :
    (blocks options).toList.count '\n' =
      options.length + options.countP (fun option => 22 < (displayName option.entry).length) +
        (options.flatMap fun option => (displayName option.entry).toList ++ option.text.toList).count '\n' := by
  induction options with
  | nil => rfl
  | cons option options ih =>
    rw [toList_blocks_cons, List.count_append, count_block, ih, List.length_cons, List.countP_cons,
      List.flatMap_cons, List.count_append, List.count_append]
    simp only [decide_eq_true_eq]
    omega

/-! ## Pages -/

theorem column_banner (settings : Settings) : Text.column (banner settings).toList = 0 := by
  have hLine : (banner settings).toList =
      ("OVERVIEW: " ++ settings.overview ++ "\n\n" ++ "USAGE: " ++ settings.usage ++ "\n\n" ++ "OPTIONS:").toList ++
        ['\n'] := by
    simp [banner]
  rw [hLine, Text.column_newline]

/-- A page is its banner and one block for each listed option, in the order of the listing. Each block shows the name
and the help text of its option as they are and in their columns, and the line feeds of all blocks are accounted
for. -/
theorem page_eq_and_isInColumns (table : Table V) (settings : Settings) (includeHidden : Bool) :
    IsListing table includeHidden (listing table includeHidden) ∧
      page table settings includeHidden =
        "OVERVIEW: " ++ settings.overview ++ "\n\nUSAGE: " ++ settings.usage ++ "\n\nOPTIONS:\n" ++
          String.join ((listing table includeHidden).map fun option =>
            block (displayName option.entry) option.text) ∧
      (∀ earlier option later, listing table includeHidden = earlier ++ option :: later →
        '\n' ∉ (displayName option.entry).toList →
        (page table settings includeHidden).toList =
            (banner settings ++ blocks earlier).toList ++ (block (displayName option.entry) option.text).toList ++
              (blocks later).toList ∧
          ∃ between, IsInColumns (banner settings ++ blocks earlier).toList (displayName option.entry) between
            option.text (block (displayName option.entry) option.text).toList) ∧
      (blocks (listing table includeHidden)).toList.count '\n' =
        (listing table includeHidden).length +
          (listing table includeHidden).countP (fun option => 22 < (displayName option.entry).length) +
          ((listing table includeHidden).flatMap fun option =>
            (displayName option.entry).toList ++ option.text.toList).count '\n' := by
  refine ⟨isListing_listing table includeHidden, ?_, ?_, count_blocks _⟩
  · rw [page, banner, blocks]
    simp [String.append_assoc]
  · intro earlier option later hListing hName
    have hBefore : Text.column (banner settings ++ blocks earlier).toList = 0 := by
      rw [String.toList_append]
      exact column_blocks (column_banner settings) earlier
    refine ⟨?_, gap _, isInColumns_block hBefore hName _⟩
    rw [page, hListing, blocks_append, ← String.append_assoc, String.toList_append, toList_blocks_cons,
      List.append_assoc]

theorem page_sample_columns :
    listing Sample.table false = [⟨Sample.output, ""⟩] ++ ⟨Sample.coverage, "   Größe"⟩ :: [] ∧
      '\n' ∉ (displayName Sample.coverage).toList ∧
      22 < (displayName Sample.coverage).length ∧
      (∃ between, IsInColumns (banner .default ++ blocks [⟨Sample.output, ""⟩]).toList (displayName Sample.coverage)
        between "   Größe" (block (displayName Sample.coverage) "   Größe").toList) ∧
      (blocks (listing Sample.table false)).toList.count '\n' = 3 := by
  obtain ⟨-, -, hBlocks, hCount⟩ := page_eq_and_isInColumns Sample.table .default false
  have hName : '\n' ∉ (displayName Sample.coverage).toList := by decide
  obtain ⟨-, hColumns⟩ :=
    hBlocks [⟨Sample.output, ""⟩] ⟨Sample.coverage, "   Größe"⟩ [] Sample.listing_table hName
  refine ⟨Sample.listing_table, hName, by decide, hColumns, ?_⟩
  rw [hCount, Sample.listing_table]
  decide

end CompilerDriver.Help
