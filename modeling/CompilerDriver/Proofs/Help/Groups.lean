import CompilerDriver.Proofs.Help.Page
import Mathlib.Logic.Relation
/-!
# What a help page depends on

The shown entries of a table fall into groups with one key each, and a page is made of what it shows of
these groups. `page_eq_of_group_eq`: where that is the same for two tables, so are their pages, whatever
else the tables hold. `Edit` names changes of a table that leave its groups alone, and a run of them leaves
the page alone (`page_eq_of_edits`).
-/

namespace CompilerDriver.Help

universe u v

variable {V : Type u} {W : Type v}

/-- The name and the help text that help shows of an entry, if the entry has help text. -/
def entryView? (entry : Entry V) : Option (String × String) :=
  entry.helpText.map (fun text => (displayName entry, text))

/-- What help shows of the entries with one key, in the order of their registration. -/
def group (table : Table V) (includeHidden : Bool) (key : String) : List (String × String) :=
  ((shown table includeHidden).filter (fun entry => entryKey entry = key)).filterMap entryView?

/-! ## Groups and pages -/

theorem filterMap_entryView {options : List (Listed V)}
    (h : ∀ option ∈ options, option.entry.helpText = some option.text) :
    (options.map (·.entry)).filterMap entryView? = options.map Listed.view := by
  induction options with
  | nil => rfl
  | cons option options ih =>
    have hView : entryView? option.entry = some option.view := by
      rw [entryView?, h option List.mem_cons_self]
      rfl
    rw [List.map_cons, List.filterMap_cons_some hView, List.map_cons,
      ih (fun o ho => h o (List.mem_cons_of_mem _ ho))]

/-- The listing has the groups of its table, which sorting has not touched. -/
theorem map_view_filter_listing (table : Table V) (includeHidden : Bool) (key : String) :
    ((listing table includeHidden).filter (fun option => option.key = key)).map Listed.view =
      group table includeHidden key := by
  have hListing := isListing_listing table includeHidden
  rw [group, ← hListing.stable, map_entry_filter]
  exact (filterMap_entryView (fun option ho => hListing.texts option (List.mem_filter.1 ho).1)).symm

/-- What help shows of an option, together with its key. -/
def Listed.keyedView (option : Listed V) : String × String × String :=
  (option.key, option.view)

theorem pairwise_keyedView (table : Table V) (includeHidden : Bool) :
    ((listing table includeHidden).map Listed.keyedView).Pairwise (fun a b => a.1 ≤ b.1) := by
  rw [List.pairwise_map]
  exact listing_ordered table includeHidden

theorem filter_map_keyedView (options : List (Listed V)) (key : String) :
    (options.map Listed.keyedView).filter (fun shown => shown.1 = key) =
      ((options.filter (fun option => option.key = key)).map Listed.view).map (fun view => (key, view)) := by
  induction options with
  | nil => rfl
  | cons option options ih =>
    rw [List.map_cons, List.filter_cons, List.filter_cons, ih]
    change (if decide (option.key = key) = true then _ else _) = _
    split
    · next h => rw [List.map_cons, List.map_cons, Listed.keyedView, of_decide_eq_true h]
    · rfl

theorem map_snd_keyedView (options : List (Listed V)) :
    (options.map Listed.keyedView).map Prod.snd = options.map Listed.view := by
  rw [List.map_map]
  rfl

/-- Two listings show the same in the same order if their groups show the same. -/
theorem map_view_listing_of_group_eq {table : Table V} {table' : Table W} {includeHidden includeHidden' : Bool}
    (h : ∀ key, group table includeHidden key = group table' includeHidden' key) :
    (listing table includeHidden).map Listed.view = (listing table' includeHidden').map Listed.view := by
  have hKeyed : (listing table includeHidden).map Listed.keyedView =
      (listing table' includeHidden').map Listed.keyedView := by
    apply eq_of_groups_eq (pairwise_keyedView table includeHidden) (pairwise_keyedView table' includeHidden')
    intro key
    rw [filter_map_keyedView, filter_map_keyedView, map_view_filter_listing, map_view_filter_listing, h]
  rw [← map_snd_keyedView, ← map_snd_keyedView, hKeyed]

theorem blocks_eq_of_map_view_eq {options : List (Listed V)} {options' : List (Listed W)}
    (h : options.map Listed.view = options'.map Listed.view) : blocks options = blocks options' := by
  have hBlocks := congrArg (List.map (fun view => block view.1 view.2)) h
  rw [List.map_map, List.map_map] at hBlocks
  exact congrArg String.join hBlocks

theorem page_eq_of_group_eq {table : Table V} {table' : Table W} {includeHidden includeHidden' : Bool}
    (settings : Settings) (h : ∀ key, group table includeHidden key = group table' includeHidden' key) :
    page table settings includeHidden = page table' settings includeHidden' := by
  rw [page, page, blocks_eq_of_map_view_eq (map_view_listing_of_group_eq h)]

/-! ## Changes that do not show -/

/-- The entries that help does not list. -/
inductive IsUnlisted (includeHidden : Bool) (entry : Entry V) : Prop
  | isAlias : entry.isAlias = true → IsUnlisted includeHidden entry
  | input : entry.kind = .input → IsUnlisted includeHidden entry
  | unexplained : entry.helpText = none → IsUnlisted includeHidden entry
  | hidden : entry.isHidden = true → includeHidden = false → IsUnlisted includeHidden entry

/-- A change of a table that does not show in its help. -/
inductive Edit (includeHidden : Bool) : Table V → Table V → Prop
  /-- Entries change places, but none with another one of its key. -/
  | reorder {entries entries' : List (Entry V)} :
      (∀ key, entries.filter (fun entry => entryKey entry = key) =
        entries'.filter (fun entry => entryKey entry = key)) →
      Edit includeHidden ⟨entries⟩ ⟨entries'⟩
  /-- Entries that are not listed, of any number, are added, removed or changed. -/
  | replace (before old new after : List (Entry V)) :
      (∀ entry ∈ old, IsUnlisted includeHidden entry) → (∀ entry ∈ new, IsUnlisted includeHidden entry) →
      Edit includeHidden ⟨before ++ old ++ after⟩ ⟨before ++ new ++ after⟩
  /-- An entry, listed or not, gets a generator of the same kind with any transform. -/
  | retransform (before after : List (Entry V)) {entry : Entry V} (generator : Generator V) :
      generator.kind = entry.kind →
      Edit includeHidden ⟨before ++ entry :: after⟩ ⟨before ++ { entry with generator } :: after⟩

theorem IsUnlisted.not_isShown {includeHidden : Bool} {entry : Entry V}
    (h : IsUnlisted includeHidden entry) : ¬ IsShown includeHidden entry := by
  rintro ⟨hAlias, hHidden, hKind, hText⟩
  cases h with
  | isAlias h => exact Bool.false_ne_true (hAlias.symm.trans h)
  | input h => exact hKind h
  | unexplained h => exact hText h
  | hidden h hAsked => simp [h, hAsked] at hHidden

theorem filter_shown (table : Table V) (includeHidden : Bool) (key : String) :
    (shown table includeHidden).filter (fun entry => entryKey entry = key) =
      (table.entries.filter (fun entry => entryKey entry = key)).filter
        (fun entry => IsShown includeHidden entry) := by
  rw [shown, List.filter_filter, List.filter_filter]
  simp only [Bool.and_comm]

theorem group_append (entries entries' : List (Entry V)) (includeHidden : Bool) (key : String) :
    group ⟨entries ++ entries'⟩ includeHidden key =
      group ⟨entries⟩ includeHidden key ++ group ⟨entries'⟩ includeHidden key := by
  simp only [group, shown, List.filter_append, List.filterMap_append]

theorem group_cons (entry : Entry V) (entries : List (Entry V)) (includeHidden : Bool) (key : String) :
    group ⟨entry :: entries⟩ includeHidden key =
      group ⟨[entry]⟩ includeHidden key ++ group ⟨entries⟩ includeHidden key :=
  group_append [entry] entries includeHidden key

theorem group_eq_nil_of_unlisted {entries : List (Entry V)} {includeHidden : Bool}
    (h : ∀ entry ∈ entries, IsUnlisted includeHidden entry) (key : String) :
    group ⟨entries⟩ includeHidden key = [] := by
  have hNone : shown ⟨entries⟩ includeHidden = [] := by
    rw [shown, List.filter_eq_nil_iff]
    intro entry hEntry
    simpa using (h entry hEntry).not_isShown
  rw [group, hNone]
  rfl

theorem group_singleton (entry : Entry V) (includeHidden : Bool) (key : String) :
    group ⟨[entry]⟩ includeHidden key =
      if IsShown includeHidden entry ∧ entryKey entry = key then (entryView? entry).toList else [] := by
  unfold group shown
  cases hView : entryView? entry <;> by_cases hShown : IsShown includeHidden entry <;>
    by_cases hKey : entryKey entry = key <;> simp [hShown, hKey, hView]

/-- Help reads nothing of a generator but its kind. -/
theorem group_retransform {entry : Entry V} {generator : Generator V} (h : generator.kind = entry.kind)
    (includeHidden : Bool) (key : String) :
    group ⟨[{ entry with generator }]⟩ includeHidden key = group ⟨[entry]⟩ includeHidden key := by
  have hShown : IsShown includeHidden { entry with generator } ↔ IsShown includeHidden entry := by
    rw [IsShown, Entry.kind, h]
    rfl
  have hView : entryView? { entry with generator } = entryView? entry := by
    rw [entryView?, displayName, Entry.kind, h]
    rfl
  rw [group_singleton, group_singleton, hView]
  simp only [hShown]
  rfl

theorem Edit.group_eq {includeHidden : Bool} {table table' : Table V} (h : Edit includeHidden table table')
    (key : String) : group table includeHidden key = group table' includeHidden key := by
  cases h with
  | reorder hSame =>
    rw [group, group, filter_shown, filter_shown]
    dsimp only
    rw [hSame]
  | replace before old new after hOld hNew =>
    rw [group_append, group_append before, group_eq_nil_of_unlisted hOld, group_append, group_append before,
      group_eq_nil_of_unlisted hNew]
  | retransform before after generator hKind =>
    rw [group_append, group_append, group_cons, ← group_retransform hKind, ← group_cons]

theorem page_eq_of_edits {includeHidden : Bool} {table table' : Table V} (settings : Settings)
    (h : Relation.ReflTransGen (Edit includeHidden) table table') :
    page table settings includeHidden = page table' settings includeHidden := by
  induction h with
  | refl => rfl
  | tail _ hEdit ih => exact ih.trans (page_eq_of_group_eq settings hEdit.group_eq)

/-- Tables whose groups show the same have the same page, also with values of other types and with another
choice about hidden entries. So no change that passes over what is listed ever changes the page. -/
theorem page_eq_of_groups_and_edits (table : Table V) (includeHidden : Bool) (settings : Settings) :
    (∀ (table' : Table W) (includeHidden' : Bool),
      (∀ key, group table includeHidden key = group table' includeHidden' key) →
        page table settings includeHidden = page table' settings includeHidden') ∧
    ∀ table' : Table V, Relation.ReflTransGen (Edit includeHidden) table table' →
      page table settings includeHidden = page table' settings includeHidden := by
  constructor
  · intro table' includeHidden' h
    exact page_eq_of_group_eq settings h
  · intro table' h
    exact page_eq_of_edits settings h

/-! ## Tables with one page -/

namespace Sample

def swapped : Table Unit :=
  ⟨[coverage, output]⟩

def swappedAliased : Table Unit :=
  ⟨[coverage, .ofAlias "--output" output.generator false, output]⟩

/-- The options of `table` with values of another type, among entries that are not listed. -/
def texts : Table String :=
  ⟨[.ofOption "<input>" ⟨.input, fun path => path, .made 2⟩ false none (some "Input file"),
    .ofOption "-o" ⟨.separate, fun path : String => "to " ++ path, .made 5⟩ false (some "<file>") (some ""),
    .ofOption "-dump" ⟨.flag, fun _ => "dump", .made 4⟩ true none (some "Dump"),
    .ofOption "-sanitize-coverage" ⟨.separate, fun text => text, .made 3⟩ false none (some "   Größe")]⟩

theorem group_texts (key : String) : group table false key = group texts false key := by
  have hTable : shown table false = [output, coverage] := rfl
  have hTexts : shown texts false =
      [.ofOption "-o" ⟨.separate, fun path : String => "to " ++ path, .made 5⟩ false (some "<file>") (some ""),
        .ofOption "-sanitize-coverage" ⟨.separate, fun text => text, .made 3⟩ false none (some "   Größe")] :=
    rfl
  rw [group, group, hTable, hTexts]
  by_cases hOutput : sortKey "-o" = key <;> by_cases hCoverage : sortKey "-sanitize-coverage" = key <;>
    simp [entryKey, output, coverage, Entry.ofOption, hOutput, hCoverage, entryView?, displayName, Entry.kind]

theorem edit_swapped : Edit false table swapped := by
  have hKeys : entryKey output ≠ entryKey coverage := by decide +kernel
  apply Edit.reorder
  intro key
  by_cases hOutput : entryKey output = key <;> by_cases hCoverage : entryKey coverage = key
  · exact absurd (hOutput.trans hCoverage.symm) hKeys
  all_goals simp [hOutput, hCoverage]

theorem edits_swappedAliased : Relation.ReflTransGen (Edit false) table swappedAliased :=
  .tail (.single edit_swapped)
    (.replace [coverage] [] [.ofAlias "--output" output.generator false] [output] (by simp)
      (by simpa using .isAlias rfl))

end Sample

theorem page_sample_edits :
    (∀ key, group Sample.table false key = group Sample.texts false key) ∧
      page Sample.table .default false = page Sample.texts .default false ∧
      Relation.ReflTransGen (Edit false) Sample.table Sample.swappedAliased ∧
      page Sample.table .default false = page Sample.swappedAliased .default false := by
  obtain ⟨hGroups, hEdits⟩ := page_eq_of_groups_and_edits (W := String) Sample.table false .default
  exact ⟨Sample.group_texts, hGroups Sample.texts false Sample.group_texts, Sample.edits_swappedAliased,
    hEdits Sample.swappedAliased Sample.edits_swappedAliased⟩

end CompilerDriver.Help
