import CompilerDriver.Help.Page
import CompilerDriver.Proofs.Help.Listing
import CompilerDriver.Proofs.Text.Column
/-!
# A help page can be read back

The page shows every listed option by a block, which is one line or two. A name that starts with a dash
marks where a block begins, for the second line of a block starts with spaces only. `blocks_inj`: the names
and help texts of the options can be had from their blocks. `map_view_listing_of_page_eq`: so two pages with
one banner differ as soon as they list different names or texts.
-/

namespace CompilerDriver.Help

universe u v

variable {V : Type u} {W : Type v}

/-! ## Blocks -/

/-- A name that a block can be told by. -/
structure IsPlainName (name : String) : Prop where
  dashed : name.toList.head? = some '-'
  trimmed : name.toList.getLast? ≠ some ' '
  unbroken : '\n' ∉ name.toList

/-- The line of a name that fits its column. -/
def shortLine (name text : String) : List Char :=
  ' ' :: ' ' :: (name.toList ++ List.replicate (nameWidth - name.length) ' ') ++ ' ' :: text.toList

/-- The line of a name that does not. -/
def nameLine (name : String) : List Char :=
  ' ' :: ' ' :: name.toList

/-- The line below it. -/
def textLine (text : String) : List Char :=
  ' ' :: ' ' :: List.replicate nameWidth ' ' ++ ' ' :: text.toList

theorem toList_block_append (name text : String) (rest : List Char) :
    (block name text).toList ++ rest =
      if name.length ≤ nameWidth then shortLine name text ++ '\n' :: rest
      else nameLine name ++ '\n' :: (textLine text ++ '\n' :: rest) := by
  unfold block Text.padRight Text.spaces shortLine nameLine textLine
  split <;> simp

theorem newline_not_mem_shortLine {name text : String} (hName : IsPlainName name)
    (hText : '\n' ∉ text.toList) : '\n' ∉ shortLine name text := by
  simp [shortLine, hName.unbroken, hText]

theorem newline_not_mem_nameLine {name : String} (hName : IsPlainName name) : '\n' ∉ nameLine name := by
  simp [nameLine, hName.unbroken]

theorem newline_not_mem_textLine {text : String} (hText : '\n' ∉ text.toList) : '\n' ∉ textLine text := by
  simp [textLine, hText]

/-- Where a block ends, the page ends or another block begins, which shows by the dash of its name. -/
def StartsBlock (cs : List Char) : Prop :=
  cs = [] ∨ ∃ rest, cs = ' ' :: ' ' :: '-' :: rest

theorem startsBlock_block {name : String} (hName : IsPlainName name) (text : String) (rest : List Char) :
    StartsBlock ((block name text).toList ++ rest) := by
  obtain ⟨cs, hcs⟩ := List.head?_eq_some_iff.1 hName.dashed
  right
  rw [toList_block_append]
  split
  · exact ⟨_, by rw [shortLine, hcs]; rfl⟩
  · exact ⟨_, by rw [nameLine, hcs]; rfl⟩

/-- The second line of a block is no start of another one. -/
theorem textLine_not_startsBlock (text : String) (rest : List Char) :
    ¬ StartsBlock (textLine text ++ rest) := by
  rintro (h | ⟨more, h⟩) <;> simp [textLine, nameWidth, List.replicate_succ] at h

theorem length_padded {name : String} (h : name.length ≤ nameWidth) :
    (name.toList ++ List.replicate (nameWidth - name.length) ' ').length = nameWidth := by
  rw [List.length_append, List.length_replicate, String.length_toList]
  omega

theorem shortLine_inj {name name' text text' : String} (hName : IsPlainName name)
    (hName' : IsPlainName name') (hShort : name.length ≤ nameWidth) (hShort' : name'.length ≤ nameWidth)
    (h : shortLine name text = shortLine name' text') : name = name' ∧ text = text' := by
  obtain ⟨hPadded, hText⟩ := List.append_inj h (by
    rw [List.length_cons, List.length_cons, List.length_cons, List.length_cons, length_padded hShort,
      length_padded hShort'])
  simp only [List.cons.injEq, true_and] at hPadded hText
  exact ⟨String.toList_inj.1 (Text.padding_inj hName.trimmed hName'.trimmed hPadded), String.toList_inj.1 hText⟩

/-- The first block of a page gives its name, its help text and what follows. -/
theorem block_inj {name name' text text' : String} {rest rest' : List Char} (hName : IsPlainName name)
    (hName' : IsPlainName name') (hText : '\n' ∉ text.toList) (hText' : '\n' ∉ text'.toList)
    (hRest : StartsBlock rest) (hRest' : StartsBlock rest')
    (h : (block name text).toList ++ rest = (block name' text').toList ++ rest') :
    name = name' ∧ text = text' ∧ rest = rest' := by
  rw [toList_block_append, toList_block_append] at h
  -- Each of the two blocks has one line or two; if they differ in that, what follows tells.
  split at h <;> split at h
  · next hShort hShort' =>
    obtain ⟨hLine, rfl⟩ := Text.cut_inj (newline_not_mem_shortLine hName hText)
      (newline_not_mem_shortLine hName' hText') h
    obtain ⟨rfl, rfl⟩ := shortLine_inj hName hName' hShort hShort' hLine
    exact ⟨rfl, rfl, rfl⟩
  · obtain ⟨-, rfl⟩ := Text.cut_inj (newline_not_mem_shortLine hName hText) (newline_not_mem_nameLine hName') h
    exact absurd hRest (textLine_not_startsBlock text' _)
  · obtain ⟨-, rfl⟩ := Text.cut_inj (newline_not_mem_nameLine hName) (newline_not_mem_shortLine hName' hText') h
    exact absurd hRest' (textLine_not_startsBlock text _)
  · obtain ⟨hNames, hBelow⟩ := Text.cut_inj (newline_not_mem_nameLine hName) (newline_not_mem_nameLine hName') h
    obtain ⟨hTexts, rfl⟩ := Text.cut_inj (newline_not_mem_textLine hText) (newline_not_mem_textLine hText') hBelow
    simp only [nameLine, List.cons.injEq, true_and] at hNames
    have hSame := List.append_cancel_left hTexts
    exact ⟨String.toList_inj.1 hNames, String.toList_inj.1 (List.cons.inj hSame).2, rfl⟩

/-! ## Pages -/

/-- What help shows of an option. -/
def Listed.view (option : Listed V) : String × String :=
  (displayName option.entry, option.text)

/-- An option whose name and help text can be read back. -/
def Listed.IsReadable (option : Listed V) : Prop :=
  IsPlainName (displayName option.entry) ∧ '\n' ∉ option.text.toList

theorem toList_blocks_cons (option : Listed V) (options : List (Listed V)) :
    (blocks (option :: options)).toList =
      (block (displayName option.entry) option.text).toList ++ (blocks options).toList := by
  simp [blocks]

theorem startsBlock_blocks {options : List (Listed V)} (h : ∀ option ∈ options, option.IsReadable) :
    StartsBlock (blocks options).toList := by
  cases options with
  | nil => exact .inl (by simp [blocks])
  | cons option options =>
    rw [toList_blocks_cons]
    exact startsBlock_block (h option List.mem_cons_self).1 _ _

/-- The blocks of readable options give what help shows of each. -/
theorem blocks_inj {options : List (Listed V)} {options' : List (Listed W)}
    (h : ∀ option ∈ options, option.IsReadable) (h' : ∀ option ∈ options', option.IsReadable)
    (hBlocks : (blocks options).toList = (blocks options').toList) :
    options.map Listed.view = options'.map Listed.view := by
  induction options generalizing options' with
  | nil =>
    cases options' with
    | nil => rfl
    | cons option' options' =>
      rw [toList_blocks_cons, toList_block_append] at hBlocks
      split at hBlocks <;> simp [blocks, shortLine, nameLine] at hBlocks
  | cons option options ih =>
    cases options' with
    | nil =>
      rw [toList_blocks_cons, toList_block_append] at hBlocks
      split at hBlocks <;> simp [blocks, shortLine, nameLine] at hBlocks
    | cons option' options' =>
      have hMore : ∀ o ∈ options, o.IsReadable := fun o ho => h o (List.mem_cons_of_mem _ ho)
      have hMore' : ∀ o ∈ options', o.IsReadable := fun o ho => h' o (List.mem_cons_of_mem _ ho)
      obtain ⟨hName, hText⟩ := h option List.mem_cons_self
      obtain ⟨hName', hText'⟩ := h' option' List.mem_cons_self
      rw [toList_blocks_cons, toList_blocks_cons] at hBlocks
      obtain ⟨hNames, hTexts, hRest⟩ := block_inj hName hName' hText hText' (startsBlock_blocks hMore)
        (startsBlock_blocks hMore') hBlocks
      rw [List.map_cons, List.map_cons, ih hMore hMore' hRest, Listed.view, Listed.view, hNames, hTexts]

/-- Two pages with the same banner that list readable options only are the same only if they show the
same names with the same texts in the same order. -/
theorem map_view_listing_of_page_eq {table : Table V} {table' : Table W} {settings : Settings}
    {includeHidden includeHidden' : Bool}
    (h : ∀ option ∈ listing table includeHidden, option.IsReadable)
    (h' : ∀ option ∈ listing table' includeHidden', option.IsReadable)
    (hPage : page table settings includeHidden = page table' settings includeHidden') :
    (listing table includeHidden).map Listed.view = (listing table' includeHidden').map Listed.view := by
  apply blocks_inj h h'
  have hChars := congrArg String.toList hPage
  rw [page, page, String.toList_append, String.toList_append] at hChars
  exact List.append_cancel_left hChars

/-! ## Two tables with one page -/

namespace Sample

def output : Entry Unit :=
  .ofOption "-o" ⟨.separate, fun _ => (), .made 0⟩ false (some "<file>") (some "")

/-- An option with a name that is too long for its column, and help text that starts with spaces. -/
def coverage : Entry Unit :=
  .ofOption "-sanitize-coverage" ⟨.separate, fun _ => (), .made 1⟩ false none (some "   Größe")

def table : Table Unit :=
  ⟨[output, coverage]⟩

def aliased : Table Unit :=
  ⟨[output, .ofAlias "--output" output.generator false, coverage]⟩

theorem listing_table : listing table false = [⟨output, ""⟩, ⟨coverage, "   Größe"⟩] := by
  have hListed : table.entries.filterMap (listed? false) = [⟨output, ""⟩, ⟨coverage, "   Größe"⟩] := rfl
  have hKeys : sortKey output.spelling ≤ sortKey coverage.spelling := by decide +kernel
  rw [listing, hListed]
  apply List.mergeSort_of_pairwise
  rw [List.pairwise_pair]
  exact decide_eq_true hKeys

theorem listing_aliased : listing aliased false = listing table false :=
  congrArg sort rfl

theorem isReadable {option : Listed Unit} (h : option ∈ listing table false) : option.IsReadable := by
  rw [listing_table, List.mem_cons, List.mem_singleton] at h
  rcases h with rfl | rfl
  · exact ⟨⟨by decide, by decide, by decide⟩, by decide⟩
  · exact ⟨⟨by decide, by decide, by decide⟩, by decide⟩

end Sample

theorem page_sample :
    (∀ option ∈ listing Sample.table false, option.IsReadable) ∧
      (∀ option ∈ listing Sample.aliased false, option.IsReadable) ∧
      page Sample.table .default false = page Sample.aliased .default false ∧
      (listing Sample.table false).map Listed.view = (listing Sample.aliased false).map Listed.view := by
  have h : ∀ option ∈ listing Sample.table false, option.IsReadable := fun _ => Sample.isReadable
  have h' : ∀ option ∈ listing Sample.aliased false, option.IsReadable := by
    rw [Sample.listing_aliased]
    exact h
  have hPage : page Sample.table .default false = page Sample.aliased .default false := by
    rw [page, page, Sample.listing_aliased]
  exact ⟨h, h', hPage, map_view_listing_of_page_eq h h' hPage⟩

end CompilerDriver.Help
