import CompilerDriver.Proofs.Help.Page
/-!
# Help of a table that is extended

Listing passes over the entries one by one and then sorts, and sorting merges: so the listing of a table
that is extended by the entries of another one is the merge of both listings (`listing_extend`). The blocks
of the page are merged in the same way, for each block goes with one option (`keyedBlocks_extend`).
-/

namespace CompilerDriver.Help

universe u

variable {V : Type u}

/-- The blocks of the help page in their order, each with the key of its option. -/
def keyedBlocks (table : Table V) (includeHidden : Bool) : List (String × String) :=
  (listing table includeHidden).map
    (fun option => (option.key, block (displayName option.entry) option.text))

theorem page_eq_join_keyedBlocks (table : Table V) (settings : Settings) (includeHidden : Bool) :
    page table settings includeHidden =
      banner settings ++ String.join ((keyedBlocks table includeHidden).map (·.2)) := by
  rw [page, blocks, keyedBlocks, List.map_map]
  rfl

theorem keyedBlocks_ordered (table : Table V) (includeHidden : Bool) :
    (keyedBlocks table includeHidden).Pairwise (fun a b => a.1 ≤ b.1) := by
  rw [keyedBlocks, List.pairwise_map]
  exact listing_ordered table includeHidden

/-! ## Two tables -/

theorem listing_extend (table more : Table V) (includeHidden : Bool) :
    listing (table.extend more.entries) includeHidden =
      (listing table includeHidden).merge (listing more includeHidden) (fun a b => a.key ≤ b.key) := by
  rw [listing, Table.extend, List.filterMap_append]
  exact mergeSort_append _ _

theorem filter_listing_extend (table more : Table V) (includeHidden : Bool) (key : String) :
    (listing (table.extend more.entries) includeHidden).filter (fun option => option.key = key) =
      (listing table includeHidden).filter (fun option => option.key = key) ++
        (listing more includeHidden).filter (fun option => option.key = key) := by
  rw [listing_extend, filter_merge (listing_ordered table includeHidden)]

theorem keyedBlocks_extend (table more : Table V) (includeHidden : Bool) :
    keyedBlocks (table.extend more.entries) includeHidden =
      (keyedBlocks table includeHidden).merge (keyedBlocks more includeHidden) (fun a b => a.1 ≤ b.1) := by
  rw [keyedBlocks, listing_extend]
  apply List.map_merge
  intro a _ b _
  rfl

/-! ## One more entry -/

theorem keyedBlocks_singleton {includeHidden : Bool} {entry : Entry V} {text : String}
    (hShown : IsShown includeHidden entry) (hText : entry.helpText = some text) :
    keyedBlocks ⟨[entry]⟩ includeHidden = [(entryKey entry, block (displayName entry) text)] := by
  obtain ⟨text', hText', hListed⟩ := listed?_of_isShown hShown
  obtain rfl : text = text' := Option.some.inj (hText.symm.trans hText')
  have hListing : listing ⟨[entry]⟩ includeHidden = [⟨entry, text⟩] := by
    rw [listing, List.filterMap_cons_some hListed]
    exact List.mergeSort_singleton _
  rw [keyedBlocks, hListing]
  rfl

/-- A shown entry that is registered last has its block behind all blocks whose key is not greater. -/
theorem keyedBlocks_push (table : Table V) {includeHidden : Bool} {entry : Entry V} {text : String}
    (hShown : IsShown includeHidden entry) (hText : entry.helpText = some text) :
    ∃ before after, keyedBlocks table includeHidden = before ++ after ∧
      (∀ b ∈ before, b.1 ≤ entryKey entry) ∧ (∀ b ∈ after, entryKey entry < b.1) ∧
      keyedBlocks (table.push entry) includeHidden =
        before ++ (entryKey entry, block (displayName entry) text) :: after := by
  have hPush := keyedBlocks_extend table ⟨[entry]⟩ includeHidden
  rw [keyedBlocks_singleton hShown hText] at hPush
  obtain ⟨before, after, hBlocks, hBefore, hAfter, hMerge⟩ :=
    exists_merge_singleton (keyedBlocks_ordered table includeHidden)
      (entryKey entry, block (displayName entry) text)
  exact ⟨before, after, hBlocks, hBefore, hAfter, hPush.trans hMerge⟩

/-- The listing of a table that is extended by another one is the merge of both listings, where on equal
keys the options of the first table stand first and each side keeps its order. The blocks of the page are
those of both pages, merged in the same way; one more shown entry puts its block right behind the last one
whose key is not greater. -/
theorem listing_extend_eq_merge_and_blocks (table more : Table V) (includeHidden : Bool) :
    listing (table.extend more.entries) includeHidden =
        (listing table includeHidden).merge (listing more includeHidden) (fun a b => a.key ≤ b.key) ∧
      (∀ key, (listing (table.extend more.entries) includeHidden).filter (fun option => option.key = key) =
        (listing table includeHidden).filter (fun option => option.key = key) ++
          (listing more includeHidden).filter (fun option => option.key = key)) ∧
      (∀ (t : Table V) (settings : Settings), page t settings includeHidden =
        banner settings ++ String.join ((keyedBlocks t includeHidden).map (·.2))) ∧
      keyedBlocks (table.extend more.entries) includeHidden =
        (keyedBlocks table includeHidden).merge (keyedBlocks more includeHidden) (fun a b => a.1 ≤ b.1) ∧
      ∀ (entry : Entry V) (text : String), IsShown includeHidden entry → entry.helpText = some text →
        ∃ before after, keyedBlocks table includeHidden = before ++ after ∧
          (∀ b ∈ before, b.1 ≤ entryKey entry) ∧ (∀ b ∈ after, entryKey entry < b.1) ∧
          keyedBlocks (table.push entry) includeHidden =
            before ++ (entryKey entry, block (displayName entry) text) :: after := by
  refine ⟨listing_extend table more includeHidden, filter_listing_extend table more includeHidden, ?_,
    keyedBlocks_extend table more includeHidden, ?_⟩
  · intro t settings
    exact page_eq_join_keyedBlocks t settings includeHidden
  · intro entry text hShown hText
    exact keyedBlocks_push table hShown hText

/-! ## A table with two options of one key -/

namespace Sample

/-- An option with the key of `output`. -/
def optimize : Entry Unit :=
  .ofOption "-O" ⟨.flag, fun _ => (), .made 6⟩ false none (some "Compile with optimizations")

end Sample

theorem listing_sample_extended :
    listing (Sample.table.extend [Sample.optimize]) false =
        (listing Sample.table false).merge (listing ⟨[Sample.optimize]⟩ false) (fun a b => a.key ≤ b.key) ∧
      entryKey Sample.optimize = entryKey Sample.output ∧
      IsShown false Sample.optimize ∧ Sample.optimize.helpText = some "Compile with optimizations" ∧
      ∃ before after, keyedBlocks Sample.table false = before ++ after ∧
        (∀ b ∈ before, b.1 ≤ "o") ∧ (∀ b ∈ after, "o" < b.1) ∧
        keyedBlocks (Sample.table.push Sample.optimize) false =
          before ++ ("o", "  -O                     Compile with optimizations\n") :: after := by
  obtain ⟨hListing, -, -, -, hPush⟩ :=
    listing_extend_eq_merge_and_blocks Sample.table ⟨[Sample.optimize]⟩ false
  have hShown : IsShown false Sample.optimize := by decide
  have hKey : entryKey Sample.optimize = "o" := by decide +kernel
  have hBlock : block (displayName Sample.optimize) "Compile with optimizations" =
      "  -O                     Compile with optimizations\n" := by decide +kernel
  obtain ⟨before, after, hBlocks, hBefore, hAfter, hPushed⟩ := hPush Sample.optimize _ hShown rfl
  rw [hKey] at hBefore hAfter hPushed
  rw [hBlock] at hPushed
  exact ⟨hListing, by decide +kernel, hShown, rfl, before, after, hBlocks, hBefore, hAfter, hPushed⟩

end CompilerDriver.Help
