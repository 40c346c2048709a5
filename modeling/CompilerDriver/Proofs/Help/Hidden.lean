import CompilerDriver.Proofs.Help.Extension
import CompilerDriver.Registry.Session
/-!
# Hidden options in help

Asking for hidden options adds blocks to the help page and moves none. Hidden entries are left out before
the options are sorted, which is the same as leaving them out of the sorted listing
(`listing_false_eq_filter`) or out of the table (`listing_shown`).
-/

namespace CompilerDriver.Help

universe u

variable {V : Type u}

/-- Whether an option is listed even if hidden ones are not asked for. -/
def Listed.isOpen (option : Listed V) : Bool :=
  !option.entry.isHidden

/-- Entries that are not hidden are listed alike with and without the hidden ones. -/
theorem listed?_false (entry : Entry V) :
    listed? false entry = if !entry.isHidden then listed? true entry else none := by
  cases h : entry.isHidden <;> simp [listed?, h]

theorem entry_of_listed {includeHidden : Bool} {entry : Entry V} {option : Listed V}
    (h : listed? includeHidden entry = some option) : option.entry = entry := by
  unfold listed? at h
  split at h
  · obtain ⟨text, -, rfl⟩ := Option.map_eq_some_iff.1 h
    rfl
  · cases h

theorem filter_isOpen_listed (entries : List (Entry V)) :
    (entries.filterMap (listed? true)).filter Listed.isOpen = entries.filterMap (listed? false) := by
  rw [List.filter_filterMap]
  congr 1
  funext entry
  rw [listed?_false]
  cases h : listed? true entry with
  | none => simp
  | some option => simp [Option.filter, Listed.isOpen, entry_of_listed h]

/-! ## The listing and the page -/

theorem listing_false_eq_filter (table : Table V) :
    listing table false = (listing table true).filter Listed.isOpen := by
  rw [listing, listing, ← filter_isOpen_listed]
  exact mergeSort_filter Listed.isOpen _

theorem listing_shown (table : Table V) :
    listing ⟨Selection.shown.entries table⟩ true = listing table false := by
  have hEntries : (Selection.shown.entries table).filterMap (listed? true) =
      table.entries.filterMap (listed? false) := by
    rw [Selection.entries, List.filterMap_filter]
    congr 1
    funext entry
    rw [listed?_false]
  rw [listing, hEntries, listing]

theorem keyedBlocks_false_sublist (table : Table V) :
    (keyedBlocks table false).Sublist (keyedBlocks table true) := by
  rw [keyedBlocks, keyedBlocks, listing_false_eq_filter]
  exact List.filter_sublist.map _

/-- Without hidden options help lists what it lists with them but for the hidden ones, in the same order, and
its page is the full page of the table that is collected from the other entries. So the blocks of the one
page are blocks of the other, whole and in their order. -/
theorem listing_false_eq_filter_and_page (table : Table V) (settings : Settings) :
    listing table false = (listing table true).filter (fun option => !option.entry.isHidden) ∧
      page table settings false = page ⟨Selection.shown.entries table⟩ settings true ∧
      (keyedBlocks table false).Sublist (keyedBlocks table true) ∧
      ∀ includeHidden, page table settings includeHidden =
        banner settings ++ String.join ((keyedBlocks table includeHidden).map (·.2)) := by
  refine ⟨listing_false_eq_filter table, ?_, keyedBlocks_false_sublist table, ?_⟩
  · rw [page, page, listing_shown]
  · intro includeHidden
    exact page_eq_join_keyedBlocks table settings includeHidden

end CompilerDriver.Help
