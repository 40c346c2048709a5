import CompilerDriver.Help.Listing
import CompilerDriver.Proofs.Help.Sorting
import CompilerDriver.Proofs.Text.ByteOrder
/-!
# What help lists, and in which order

`IsListing` says what the listing of a table has to be: the shown entries, each as often as it is
registered and with its own help text, ordered by key, and in the order of registration where keys are
equal. `isListing_iff_and_byte_order`: there is one such list, and help lists it.
-/

namespace CompilerDriver.Help

universe u

variable {V : Type u}

/-- Whether help shows an entry: a canonical option, hidden only if hidden ones are asked for, that is no
positional input and has help text, which may be empty. -/
def IsShown (includeHidden : Bool) (entry : Entry V) : Prop :=
  entry.isAlias = false ∧ (entry.isHidden = false ∨ includeHidden = true) ∧ entry.kind ≠ .input ∧
    entry.helpText ≠ none

instance (includeHidden : Bool) : DecidablePred (IsShown (V := V) includeHidden) :=
  fun _ => inferInstanceAs (Decidable (_ ∧ _ ∧ _ ∧ _))

/-- The shown entries of a table in the order of their registration. -/
def shown (table : Table V) (includeHidden : Bool) : List (Entry V) :=
  table.entries.filter (fun entry => IsShown includeHidden entry)

/-- The key that an entry is ordered by. -/
def entryKey (entry : Entry V) : String :=
  sortKey entry.spelling

/-- The listing of a table. -/
structure IsListing (table : Table V) (includeHidden : Bool) (options : List (Listed V)) : Prop where
  /-- It has the shown entries, each as often as the table. -/
  entries : (options.map (·.entry)).Perm (shown table includeHidden)
  /-- Each stands beside its own help text. -/
  texts : ∀ option ∈ options, option.entry.helpText = some option.text
  /-- No option comes after one whose key is greater, character by character. -/
  ordered : options.Pairwise (fun a b => ¬ Text.scalars b.key < Text.scalars a.key)
  /-- Options with equal keys keep their order. -/
  stable : ∀ key, (options.map (·.entry)).filter (fun entry => entryKey entry = key) =
    (shown table includeHidden).filter (fun entry => entryKey entry = key)

/-! ## The listed options -/

theorem listed?_of_isShown {includeHidden : Bool} {entry : Entry V} (h : IsShown includeHidden entry) :
    ∃ text, entry.helpText = some text ∧ listed? includeHidden entry = some ⟨entry, text⟩ := by
  obtain ⟨hAlias, hHidden, hKind, hText⟩ := h
  obtain ⟨text, hText⟩ := Option.ne_none_iff_exists'.1 hText
  refine ⟨text, hText, ?_⟩
  -- Every kind but that of positional inputs is listed.
  have hListed : entry.kind.isListed = true := by
    cases hk : entry.kind <;> first | rfl | exact absurd hk hKind
  simp [listed?, hAlias, hListed, hText, Or.comm.1 hHidden]

theorem listed?_of_not_isShown {includeHidden : Bool} {entry : Entry V}
    (h : ¬ IsShown includeHidden entry) : listed? includeHidden entry = none := by
  unfold listed?
  split
  · next hShown =>
    simp only [Bool.and_eq_true, Bool.not_eq_true', Bool.or_eq_true] at hShown
    rw [Option.map_eq_none_iff]
    by_cases hText : entry.helpText = none
    · exact hText
    refine absurd ⟨hShown.1.1, hShown.1.2.symm, ?_, hText⟩ h
    intro hKind
    simp [hKind, Kind.isListed] at hShown
  · rfl

theorem map_entry_listed (includeHidden : Bool) (entries : List (Entry V)) :
    (entries.filterMap (listed? includeHidden)).map (·.entry) =
      entries.filter (fun entry => IsShown includeHidden entry) := by
  induction entries with
  | nil => rfl
  | cons entry rest ih =>
    by_cases h : IsShown includeHidden entry
    · obtain ⟨text, -, hListed⟩ := listed?_of_isShown h
      rw [List.filterMap_cons_some hListed, List.filter_cons_of_pos (by simpa using h), List.map_cons, ih]
    · rw [List.filterMap_cons_none (listed?_of_not_isShown h), List.filter_cons_of_neg (by simpa using h),
        ih]

theorem helpText_of_listed {includeHidden : Bool} {entry : Entry V} {option : Listed V}
    (h : listed? includeHidden entry = some option) : option.entry.helpText = some option.text := by
  unfold listed? at h
  split at h
  · obtain ⟨text, hText, rfl⟩ := Option.map_eq_some_iff.1 h
    exact hText
  · cases h

theorem sort_perm (options : List (Listed V)) : (sort options).Perm options := by
  unfold sort
  exact List.mergeSort_perm _ _

theorem mem_sort {options : List (Listed V)} {option : Listed V} :
    option ∈ sort options ↔ option ∈ options :=
  (sort_perm options).mem_iff

theorem sort_ordered (options : List (Listed V)) :
    (sort options).Pairwise (fun a b => a.key ≤ b.key) := by
  unfold sort
  exact pairwise_mergeSort_key Listed.key options

theorem filter_sort (options : List (Listed V)) (key : String) :
    (sort options).filter (fun option => option.key = key) =
      options.filter (fun option => option.key = key) := by
  unfold sort
  exact filter_mergeSort Listed.key options key

theorem entryKey_entry (option : Listed V) : entryKey option.entry = option.key :=
  rfl

theorem map_entry_filter (options : List (Listed V)) (key : String) :
    (options.map (·.entry)).filter (fun entry => entryKey entry = key) =
      (options.filter (fun option => option.key = key)).map (·.entry) := by
  have hSame : ∀ option ∈ options, ((fun entry => decide (entryKey entry = key)) ∘ Listed.entry) option =
      decide (option.key = key) := by
    intro option _
    rw [Function.comp_apply, entryKey_entry]
  rw [List.filter_map, List.filter_congr hSame]

/-! ## The listing -/

theorem listing_ordered (table : Table V) (includeHidden : Bool) :
    (listing table includeHidden).Pairwise (fun a b => a.key ≤ b.key) :=
  sort_ordered _

theorem isListing_listing (table : Table V) (includeHidden : Bool) :
    IsListing table includeHidden (listing table includeHidden) where
  entries := by
    rw [shown, ← map_entry_listed, listing]
    exact (sort_perm _).map _
  texts := by
    intro option hOption
    rw [listing, mem_sort] at hOption
    obtain ⟨entry, -, hListed⟩ := List.mem_filterMap.1 hOption
    exact helpText_of_listed hListed
  ordered := by
    apply (listing_ordered table includeHidden).imp
    intro a b hab
    rw [← Text.lt_iff_scalars_lt]
    exact String.not_lt.2 hab
  stable := by
    intro key
    rw [map_entry_filter, listing, filter_sort, ← map_entry_filter, map_entry_listed, shown]

theorem eq_of_map_entry_eq {options options' : List (Listed V)}
    (h : options.map (·.entry) = options'.map (·.entry))
    (hTexts : ∀ option ∈ options, option.entry.helpText = some option.text)
    (hTexts' : ∀ option ∈ options', option.entry.helpText = some option.text) : options = options' := by
  induction options generalizing options' with
  | nil => exact (List.map_eq_nil_iff.1 h.symm).symm
  | cons option rest ih =>
    obtain ⟨option', rest', rfl, hEntry, hRest⟩ := List.map_eq_cons_iff.1 h.symm
    have hText : option'.text = option.text := by
      have h1 := hTexts option List.mem_cons_self
      have h2 := hTexts' option' List.mem_cons_self
      rw [hEntry, h1] at h2
      exact (Option.some.inj h2).symm
    obtain ⟨entry, text⟩ := option
    obtain ⟨entry', text'⟩ := option'
    cases hEntry
    cases hText
    rw [ih hRest.symm (fun o ho => hTexts o (List.mem_cons_of_mem _ ho))
      (fun o ho => hTexts' o (List.mem_cons_of_mem _ ho))]

theorem IsListing.unique {table : Table V} {includeHidden : Bool} {options options' : List (Listed V)}
    (h : IsListing table includeHidden options) (h' : IsListing table includeHidden options') :
    options = options' := by
  have hSorted : ∀ {options : List (Listed V)}, IsListing table includeHidden options →
      (options.map (·.entry)).Pairwise (fun a b => entryKey a ≤ entryKey b) := by
    intro options h
    apply List.pairwise_map.2
    apply h.ordered.imp
    intro a b hab
    rw [← Text.lt_iff_scalars_lt] at hab
    exact String.not_lt.1 hab
  apply eq_of_map_entry_eq _ h.texts h'.texts
  exact eq_of_groups_eq (hSorted h) (hSorted h') (fun key => (h.stable key).trans (h'.stable key).symm)

/-- Help lists the one list that is a listing of the table. The order of its keys by character is also the
order of the bytes of their UTF-8 forms. -/
theorem isListing_iff_and_byte_order (table : Table V) (includeHidden : Bool) :
    (∀ options, IsListing table includeHidden options ↔ options = listing table includeHidden) ∧
      ∀ s t : String, Text.octets s < Text.octets t ↔ Text.scalars s < Text.scalars t := by
  constructor
  · intro options
    constructor
    · intro h
      exact h.unique (isListing_listing table includeHidden)
    · rintro rfl
      exact isListing_listing table includeHidden
  · intro s t
    exact Text.octets_lt_iff

end CompilerDriver.Help
