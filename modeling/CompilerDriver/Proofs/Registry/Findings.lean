import CompilerDriver.Registry.Finding
/-!
# Tables without findings

The scan for findings remembers the spellings it has passed. A run of entries has no finding just when
each of its entries is sound on its own and no spelling repeats, neither in the run nor from before it.
-/

namespace CompilerDriver

universe u

variable {V : Type u}

/-- What the rules ask of an entry on its own, given the canonical options of its table. -/
structure Entry.Sound (entry : Entry V) (canonical : List (Entry V)) : Prop where
  spelled : entry.spelling ≠ ""
  dashed : entry.lacksDash = false
  bare : entry.isAlias = true → entry.hasHelp = false
  owned : entry.isAlias = true →
    ∃ option ∈ canonical, option.generator.sharesTransform entry.generator = true

/-- An entry passes the scan if it is sound and its spelling is new. -/
theorem Entry.findings_eq_nil_iff {entry : Entry V} {earlier : List String}
    {canonical : List (Entry V)} :
    entry.findings earlier canonical = [] ↔ entry.Sound canonical ∧ entry.spelling ∉ earlier := by
  unfold findings
  split
  · -- The rule on empty spellings is tried before all others.
    next hEmpty =>
    constructor
    · intro h
      cases h
    · intro h
      exact absurd hEmpty h.1.spelled
  · next hEmpty =>
    simp only [List.append_eq_nil_iff, ite_eq_right_iff, List.cons_ne_self, imp_false,
      Bool.and_eq_true, not_and, Bool.not_eq_true, Bool.not_eq_true']
    constructor
    · rintro ⟨⟨⟨hDash, hNew⟩, hBare⟩, hOwned⟩
      refine ⟨⟨hEmpty, hDash, hBare, ?_⟩, hNew⟩
      intro hAlias
      have hAny := hOwned hAlias
      rwa [Bool.not_eq_false, List.any_eq_true] at hAny
    · rintro ⟨hSound, hNew⟩
      refine ⟨⟨⟨hSound.dashed, hNew⟩, hSound.bare⟩, ?_⟩
      intro hAlias
      rw [Bool.not_eq_false, List.any_eq_true]
      exact hSound.owned hAlias

namespace Table

theorem findingsFrom_eq_nil_iff {canonical entries : List (Entry V)} {earlier : List String} :
    findingsFrom canonical earlier entries = [] ↔
      (∀ e ∈ entries, e.Sound canonical) ∧ (entries.map (·.spelling)).Nodup ∧
        ∀ e ∈ entries, e.spelling ∉ earlier := by
  induction entries generalizing earlier with
  | nil => simp [findingsFrom]
  | cons entry rest ih =>
    rw [findingsFrom, List.append_eq_nil_iff, Entry.findings_eq_nil_iff, ih]
    simp only [List.mem_cons, List.map_cons, List.nodup_cons, List.mem_map, forall_eq_or_imp, not_or]
    constructor
    · rintro ⟨⟨hSound, hNew⟩, hRest, hDistinct, hLater⟩
      refine ⟨⟨hSound, hRest⟩, ⟨?_, hDistinct⟩, hNew, fun e he => (hLater e he).2⟩
      rintro ⟨e, he, hSame⟩
      exact (hLater e he).1 hSame
    · rintro ⟨⟨hSound, hRest⟩, ⟨hOther, hDistinct⟩, hNew, hLater⟩
      exact ⟨⟨hSound, hNew⟩, hRest, hDistinct,
        fun e he => ⟨fun hSame => hOther ⟨e, he, hSame⟩, hLater e he⟩⟩

/-- The whole scan, which starts with no spelling remembered. -/
theorem findings_eq_nil_iff {table : Table V} :
    table.findings = [] ↔
      (∀ e ∈ table.entries, e.Sound table.canonical) ∧ (table.entries.map (·.spelling)).Nodup := by
  simp [findings, findingsFrom_eq_nil_iff]

end Table

end CompilerDriver
