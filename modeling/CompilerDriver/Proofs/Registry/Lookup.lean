import CompilerDriver.Registry.Table
/-!
# Looking up a spelling

`Table.ResolvesTo` says which entry a spelling stands for, and where that entry is registered: the first canonical
one with the spelling, or the first alias if there is no canonical one. A look-up finds this entry and nothing else
(`find?_eq_some_iff`), and so does a single pass over the entries with the spelling (`find?_eq_searchOnce?`).

A table that is extended keeps a canonical entry where it is, and gives an alias up only for the first canonical
entry of the extension (`ResolvesTo.extend_of_option`, `ResolvesTo.extend_of_alias`); this goes on over any number of
registrations (`find?_iff_and_registerAll`).
-/

namespace CompilerDriver

universe u

variable {V : Type u}

/-- One way to register entries. -/
inductive Registration (V : Type u) where
  /-- A canonical option. -/
  | option (spelling : String) (generator : Generator V) (isHidden : Bool)
      (metaVariable helpText : Option String)
  /-- An alias. -/
  | alias (spelling : String) (generator : Generator V) (isHidden : Bool)
  /-- Entries as they are. -/
  | extend (more : List (Entry V))

/-- The registered entries. -/
def Registration.entries : Registration V → List (Entry V)
  | .option spelling generator isHidden metaVariable helpText =>
    [.ofOption spelling generator isHidden metaVariable helpText]
  | .alias spelling generator isHidden => [.ofAlias spelling generator isHidden]
  | .extend more => more

namespace Table

/-- The table after a registration. -/
def register (table : Table V) : Registration V → Table V
  | .option spelling generator isHidden metaVariable helpText =>
    table.addOption spelling generator isHidden metaVariable helpText
  | .alias spelling generator isHidden => table.addAlias spelling generator isHidden
  | .extend more => table.extend more

/-- The table after one registration after the other. -/
def registerAll (table : Table V) (steps : List (Registration V)) : Table V :=
  steps.foldl register table

theorem register_eq_extend (table : Table V) (step : Registration V) :
    table.register step = table.extend step.entries := by
  cases step <;> rfl

/-- The spelling stands for the entry, which is registered behind the entries `before`. -/
structure ResolvesTo (table : Table V) (spelling : String) (before : List (Entry V)) (entry : Entry V) :
    Prop where
  registered : before ++ [entry] <+: table.entries
  named : entry.spelling = spelling
  /-- A canonical entry may have aliases of its spelling before it, an alias has nothing of its spelling there. -/
  earlier : ∀ e ∈ before, e.spelling = spelling → e.isAlias = true ∧ entry.isAlias = false
  /-- For an alias there is no canonical entry in the whole table. -/
  alone : entry.isAlias = true → ∀ e ∈ table.entries, e.spelling = spelling → e.isAlias = true

/-- The entry for the spelling in one pass: the first one with the spelling, unless that is an alias and a canonical
one comes later. -/
def searchOnce? (spelling : String) (entries : List (Entry V)) : Option (Entry V) :=
  match entries.filter (fun entry => entry.spelling == spelling) with
  | [] => none
  | first :: rest =>
    if first.isAlias then (rest.find? (fun entry => !entry.isAlias)).or (some first) else some first

/-- What two look-ups in a row find: a canonical entry before an alias, and of two of a sort the first. -/
def prefer (first second : Option (Entry V)) : Option (Entry V) :=
  if first.any (!·.isAlias) then first
  else if second.any (!·.isAlias) then second
  else first.or second

/-! ## One table -/

section Find

variable {table : Table V} {spelling : String}

/-- The two searches of the table in one pass each. -/
theorem find?_eq_or (table : Table V) (spelling : String) :
    table.find? spelling =
      (table.entries.find? (fun entry => !entry.isAlias && entry.spelling == spelling)).or
        (table.entries.find? (fun entry => entry.isAlias && entry.spelling == spelling)) := by
  unfold find? canonical aliases
  simp only [List.find?_filter, Bool.decide_and, Bool.decide_eq_true]
  cases table.entries.find? (fun entry => !entry.isAlias && entry.spelling == spelling) <;> rfl

theorem find?_eq_searchOnce? (table : Table V) (spelling : String) :
    table.find? spelling = searchOnce? spelling table.entries := by
  have hSwap (p : Entry V → Bool) : table.entries.find? (fun entry => p entry && entry.spelling == spelling) =
      (table.entries.filter (fun entry => entry.spelling == spelling)).find? p := by
    rw [List.find?_filter]
    congr 1
    funext entry
    rw [Bool.and_comm, Bool.decide_and, Bool.decide_eq_true, Bool.decide_eq_true]
  rw [find?_eq_or, hSwap, hSwap, searchOnce?]
  cases table.entries.filter (fun entry => entry.spelling == spelling) with
  | nil => rfl
  | cons first rest => cases hAlias : first.isAlias <;> simp [hAlias]

theorem resolvesTo_of_find {entry : Entry V} (h : table.find? spelling = some entry) :
    ∃ before, table.ResolvesTo spelling before entry := by
  rw [find?_eq_or, Option.or_eq_some_iff] at h
  rcases h with hOption | ⟨hNone, hAlias⟩
  · obtain ⟨hEntry, before, after, hEntries, hBefore⟩ := List.find?_eq_some_iff_append.1 hOption
    simp only [Bool.and_eq_true, Bool.not_eq_true', beq_iff_eq] at hEntry
    refine ⟨before, ⟨after, by simp [hEntries]⟩, hEntry.2, ?_, ?_⟩
    · intro e he hSame
      exact ⟨by simpa [hSame] using hBefore e he, hEntry.1⟩
    · intro hAlias
      simp [hEntry.1] at hAlias
  · obtain ⟨hEntry, before, after, hEntries, hBefore⟩ := List.find?_eq_some_iff_append.1 hAlias
    simp only [Bool.and_eq_true, beq_iff_eq] at hEntry
    have hAll : ∀ e ∈ table.entries, e.spelling = spelling → e.isAlias = true := by
      intro e he hSame
      simpa [hSame] using List.find?_eq_none.1 hNone e he
    refine ⟨before, ⟨after, by simp [hEntries]⟩, hEntry.2, ?_, fun _ => hAll⟩
    -- the first alias has no alias of its spelling before it, and the table has no canonical entry of it
    intro e he hSame
    have hOption : e.isAlias = false := by simpa [hSame] using hBefore e he
    have hMem : e ∈ table.entries := by simp [hEntries, he]
    simp [hAll e hMem hSame] at hOption

theorem ResolvesTo.find {before : List (Entry V)} {entry : Entry V} (h : table.ResolvesTo spelling before entry) :
    table.find? spelling = some entry := by
  obtain ⟨after, hEntries⟩ := h.registered
  rw [List.append_assoc, List.singleton_append] at hEntries
  rw [find?_eq_or, Option.or_eq_some_iff]
  cases hAlias : entry.isAlias with
  | false =>
    left
    refine List.find?_eq_some_iff_append.2 ⟨by simp [hAlias, h.named], before, after, hEntries.symm, ?_⟩
    intro e he
    cases hSame : e.spelling == spelling with
    | false => simp
    | true => simp [(h.earlier e he (eq_of_beq hSame)).1]
  | true =>
    refine .inr ⟨?_, ?_⟩
    · rw [List.find?_eq_none]
      intro e he hOption
      simp only [Bool.and_eq_true, Bool.not_eq_true', beq_iff_eq] at hOption
      simp [h.alone hAlias e he hOption.2] at hOption
    · refine List.find?_eq_some_iff_append.2 ⟨by simp [hAlias, h.named], before, after, hEntries.symm, ?_⟩
      intro e he
      cases hSame : e.spelling == spelling with
      | false => simp
      | true => simp [(h.earlier e he (eq_of_beq hSame)).2] at hAlias

theorem find?_eq_some_iff {entry : Entry V} :
    table.find? spelling = some entry ↔ ∃ before, table.ResolvesTo spelling before entry := by
  refine ⟨resolvesTo_of_find, ?_⟩
  rintro ⟨before, h⟩
  exact h.find

theorem find?_eq_none_iff :
    table.find? spelling = none ↔ ∀ entry ∈ table.entries, entry.spelling ≠ spelling := by
  rw [find?_eq_or, Option.or_eq_none_iff, List.find?_eq_none, List.find?_eq_none]
  constructor
  · rintro ⟨hOption, hAlias⟩ entry hEntry hSame
    have := hOption entry hEntry
    have := hAlias entry hEntry
    simp_all
  · intro h
    exact ⟨fun entry hEntry => by simp [h entry hEntry], fun entry hEntry => by simp [h entry hEntry]⟩

section Unique

variable {before before' : List (Entry V)} {entry entry' : Entry V}

theorem ResolvesTo.mem (h : table.ResolvesTo spelling before entry) : entry ∈ table.entries :=
  h.registered.subset (by simp)

theorem ResolvesTo.length_le (h : table.ResolvesTo spelling before entry)
    (h' : table.ResolvesTo spelling before' entry') : before'.length ≤ before.length := by
  refine Nat.le_of_not_lt fun hLonger => ?_
  have hFront : before' <+: table.entries := (List.prefix_append _ _).trans h'.registered
  have hBefore : before ++ [entry] <+: before' :=
    List.prefix_of_prefix_length_le h.registered hFront (by simp; omega)
  -- an entry of the spelling before another one is an alias, and the other one is canonical
  obtain ⟨hAlias, hOption⟩ := h'.earlier entry (hBefore.subset (by simp)) h.named
  simp [h.alone hAlias entry' h'.mem h'.named] at hOption

/-- A spelling stands for one entry at one place. -/
theorem ResolvesTo.unique (h : table.ResolvesTo spelling before entry)
    (h' : table.ResolvesTo spelling before' entry') : before = before' ∧ entry = entry' := by
  have hLength : (before ++ [entry]).length = (before' ++ [entry']).length := by
    simp [Nat.le_antisymm (h'.length_le h) (h.length_le h')]
  have hSame : before ++ [entry] = before' ++ [entry'] :=
    (List.prefix_of_prefix_length_le h.registered h'.registered (Nat.le_of_eq hLength)).eq_of_length hLength
  simpa using List.append_inj' hSame rfl

end Unique

end Find

/-! ## A table that is extended -/

section Extend

variable {table : Table V} {spelling : String} {before : List (Entry V)} {entry : Entry V}

theorem find?_extend (table more : Table V) (spelling : String) :
    (table.extend more.entries).find? spelling = prefer (table.find? spelling) (more.find? spelling) := by
  have hOption {t : Table V} {e : Entry V}
      (h : t.entries.find? (fun e => !e.isAlias && e.spelling == spelling) = some e) : e.isAlias = false := by
    have := List.find?_some h
    simp_all
  have hAlias (t : Table V) :
      (t.entries.find? (fun e => e.isAlias && e.spelling == spelling)).any (!·.isAlias) = false := by
    cases h : t.entries.find? (fun e => e.isAlias && e.spelling == spelling) with
    | none => rfl
    | some e =>
      have := List.find?_some h
      simp_all
  rw [find?_eq_or, find?_eq_or, find?_eq_or, extend, List.find?_append, List.find?_append]
  cases hFirst : table.entries.find? (fun e => !e.isAlias && e.spelling == spelling) with
  | some e => simp [prefer, hOption hFirst]
  | none =>
    cases hSecond : more.entries.find? (fun e => !e.isAlias && e.spelling == spelling) with
    | some e => simp [prefer, hAlias table, hOption hSecond]
    | none => simp [prefer, hAlias table, hAlias more]

/-- A canonical entry stays. -/
theorem ResolvesTo.extend_of_option (h : table.ResolvesTo spelling before entry) (hOption : entry.isAlias = false)
    (more : List (Entry V)) : (table.extend more).ResolvesTo spelling before entry := by
  refine ⟨h.registered.trans (List.prefix_append _ _), h.named, h.earlier, ?_⟩
  intro hAlias
  simp [hOption] at hAlias

/-- An alias stays, or gives way to the first canonical entry behind the table. -/
theorem ResolvesTo.extend_of_alias (h : table.ResolvesTo spelling before entry) (hAlias : entry.isAlias = true)
    (more : List (Entry V)) :
    (table.extend more).ResolvesTo spelling before entry ∨
      ∃ new option, option.isAlias = false ∧
        (table.extend more).ResolvesTo spelling (table.entries ++ new) option := by
  cases hFound : more.find? (fun e => !e.isAlias && e.spelling == spelling) with
  | none =>
    left
    refine ⟨h.registered.trans (List.prefix_append _ _), h.named, h.earlier, ?_⟩
    intro _ e he hSame
    rcases List.mem_append.1 he with he | he
    · exact h.alone hAlias e he hSame
    · simpa [hSame] using List.find?_eq_none.1 hFound e he
  | some option =>
    right
    obtain ⟨hOption, new, later, hMore, hNew⟩ := List.find?_eq_some_iff_append.1 hFound
    simp only [Bool.and_eq_true, Bool.not_eq_true', beq_iff_eq] at hOption
    refine ⟨new, option, hOption.1, ⟨later, by simp [extend, hMore]⟩, hOption.2, ?_, ?_⟩
    · intro e he hSame
      refine ⟨?_, hOption.1⟩
      rcases List.mem_append.1 he with he | he
      · exact h.alone hAlias e he hSame
      · simpa [hSame] using hNew e he
    · intro hOther
      simp [hOption.1] at hOther

end Extend

/-! ## Any number of registrations -/

section Register

variable {table : Table V} {spelling : String} {before : List (Entry V)} {entry : Entry V}

theorem registerAll_cons (table : Table V) (step : Registration V) (steps : List (Registration V)) :
    table.registerAll (step :: steps) = (table.extend step.entries).registerAll steps := by
  rw [registerAll, List.foldl_cons, register_eq_extend]
  rfl

theorem ResolvesTo.registerAll_of_option (h : table.ResolvesTo spelling before entry)
    (hOption : entry.isAlias = false) (steps : List (Registration V)) :
    (table.registerAll steps).ResolvesTo spelling before entry := by
  induction steps generalizing table with
  | nil => exact h
  | cons step steps ih =>
    rw [registerAll_cons]
    exact ih (h.extend_of_option hOption step.entries)

theorem ResolvesTo.registerAll_of_alias (h : table.ResolvesTo spelling before entry)
    (hAlias : entry.isAlias = true) (steps : List (Registration V)) :
    (table.registerAll steps).ResolvesTo spelling before entry ∨
      ∃ new option, option.isAlias = false ∧
        (table.registerAll steps).ResolvesTo spelling (table.entries ++ new) option := by
  induction steps generalizing table with
  | nil => exact .inl h
  | cons step steps ih =>
    rw [registerAll_cons]
    rcases h.extend_of_alias hAlias step.entries with hStays | ⟨new, option, hOption, hTaken⟩
    · rcases ih hStays with hStays | ⟨new, option, hOption, hTaken⟩
      · exact .inl hStays
      · refine .inr ⟨step.entries ++ new, option, hOption, ?_⟩
        rwa [← List.append_assoc]
    · -- once a canonical entry has taken the place of the alias, it keeps it
      exact .inr ⟨new, option, hOption, hTaken.registerAll_of_option hOption steps⟩

end Register

/-- A look-up gives the first canonical entry with the spelling, or else the first alias, or nothing if no entry has
the spelling; one pass over the table gives the same. In a table that is extended by another one, what the first
finds comes before what the second finds, unless only that is canonical. Over any registrations a canonical entry
keeps its spelling, and an alias loses it to the first canonical entry that is added after it, if there is one. -/
theorem find?_iff_and_registerAll (table : Table V) (spelling : String) :
    (∀ entry, table.find? spelling = some entry ↔ ∃ before, table.ResolvesTo spelling before entry) ∧
      (table.find? spelling = none ↔ ∀ entry ∈ table.entries, entry.spelling ≠ spelling) ∧
      (∀ before entry before' entry', table.ResolvesTo spelling before entry →
        table.ResolvesTo spelling before' entry' → before = before' ∧ entry = entry') ∧
      table.find? spelling = searchOnce? spelling table.entries ∧
      (∀ more : Table V,
        (table.extend more.entries).find? spelling = prefer (table.find? spelling) (more.find? spelling)) ∧
      ∀ (steps : List (Registration V)) (before : List (Entry V)) (entry : Entry V),
        table.ResolvesTo spelling before entry →
          (entry.isAlias = false → (table.registerAll steps).ResolvesTo spelling before entry) ∧
          (entry.isAlias = true →
            (table.registerAll steps).ResolvesTo spelling before entry ∨
              ∃ new option, option.isAlias = false ∧
                (table.registerAll steps).ResolvesTo spelling (table.entries ++ new) option) := by
  refine ⟨fun _ => find?_eq_some_iff, find?_eq_none_iff, fun _ _ _ _ h h' => h.unique h',
    find?_eq_searchOnce? table spelling, fun more => find?_extend table more spelling, ?_⟩
  intro steps before entry h
  exact ⟨fun hOption => h.registerAll_of_option hOption steps, fun hAlias => h.registerAll_of_alias hAlias steps⟩

/-! ## Four entries of one spelling -/

namespace Sample

def short : Entry Unit :=
  .ofAlias "-x" ⟨.flag, fun _ => (), .made 0⟩ false

def optimize : Entry Unit :=
  .ofOption "-x" ⟨.flag, fun _ => (), .made 1⟩ false none (some "Optimize")

/-- Another alias of the spelling, and another canonical entry. -/
def later : List (Registration Unit) :=
  [.alias "-x" ⟨.flag, fun _ => (), .made 2⟩ true,
   .extend [.ofOption "-x" ⟨.flag, fun _ => (), .made 3⟩ true none none]]

theorem resolvesTo_short : (Table.mk [short]).ResolvesTo "-x" [] short :=
  ⟨List.prefix_rfl, rfl, by simp, by simp [short, Entry.ofAlias]⟩

theorem resolvesTo_optimize : (Table.mk [short, optimize]).ResolvesTo "-x" [short] optimize :=
  ⟨List.prefix_rfl, rfl, by simp [short, optimize, Entry.ofAlias, Entry.ofOption],
    by simp [optimize, Entry.ofOption]⟩

end Sample

theorem find?_sample_history :
    (Table.mk [Sample.short]).ResolvesTo "-x" [] Sample.short ∧
      ((Table.registerAll ⟨[Sample.short]⟩ Sample.later).ResolvesTo "-x" [] Sample.short ∨
        ∃ new option, option.isAlias = false ∧
          (Table.registerAll ⟨[Sample.short]⟩ Sample.later).ResolvesTo "-x" ([Sample.short] ++ new) option) ∧
      (Table.mk [Sample.short, Sample.optimize]).find? "-x" = some Sample.optimize ∧
      (Table.registerAll ⟨[Sample.short, Sample.optimize]⟩ Sample.later).ResolvesTo "-x" [Sample.short]
        Sample.optimize := by
  obtain ⟨-, -, -, -, -, hShort⟩ := find?_iff_and_registerAll (Table.mk [Sample.short]) "-x"
  obtain ⟨hFind, -, -, -, -, hOptimize⟩ :=
    find?_iff_and_registerAll (Table.mk [Sample.short, Sample.optimize]) "-x"
  refine ⟨Sample.resolvesTo_short, ?_, ?_, ?_⟩
  · exact (hShort Sample.later [] Sample.short Sample.resolvesTo_short).2 rfl
  · exact (hFind Sample.optimize).2 ⟨_, Sample.resolvesTo_optimize⟩
  · exact (hOptimize Sample.later _ Sample.optimize Sample.resolvesTo_optimize).1 rfl

end Table

end CompilerDriver
