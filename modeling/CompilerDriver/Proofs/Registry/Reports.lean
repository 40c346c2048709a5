import CompilerDriver.Proofs.Registry.Assembly
import CompilerDriver.Proofs.Registry.Findings
/-!
# What the findings about a table say

`Table.IsWellFormed` states the rules for tables, and `Table.IsReport` what is to be found about one entry,
given the entries before it. The scan reports every entry in turn (`findingsFrom_eq_flatten`), and it is
silent about the well-formed tables only (`findings_eq_nil_iff_isWellFormed`).
-/

namespace CompilerDriver

universe u

variable {V : Type u}

/-! ## The rules -/

/-- The spelling starts with a dash. -/
def Entry.IsDashed (entry : Entry V) : Prop :=
  ∃ name, entry.spelling = "-" ++ name

/-- Some canonical option of the table, before or after the entry, has its kind and its very transform. -/
def Entry.IsOwned (entry : Entry V) (table : Table V) : Prop :=
  ∃ option ∈ table.entries, option.isAlias = false ∧ option.kind = entry.kind ∧
    option.generator.origin = entry.generator.origin

structure Table.IsWellFormed (table : Table V) : Prop where
  spelled : ∀ entry ∈ table.entries, entry.spelling ≠ ""
  dashed : ∀ entry ∈ table.entries, entry.kind ≠ .input → entry.IsDashed
  distinct : (table.entries.map (·.spelling)).Nodup
  bare : ∀ entry ∈ table.entries, entry.isAlias = true →
    entry.metaVariable = none ∧ entry.helpText = none
  owned : ∀ entry ∈ table.entries, entry.isAlias = true → entry.IsOwned table

/-- The findings about an entry that follows the earlier ones in its table. -/
structure Table.IsReport (table : Table V) (earlier : List (Entry V)) (entry : Entry V)
    (findings : List Finding) : Prop where
  unspelled : entry.spelling = "" → findings = [.emptySpelling]
  /-- There is at most one finding of each sort, always in this order, and each names the spelling. -/
  ordered : entry.spelling ≠ "" → findings.Sublist
    [.missingPrefix entry.spelling, .duplicateSpelling entry.spelling, .aliasWithHelp entry.spelling,
      .orphanAlias entry.spelling]
  missingPrefix : entry.spelling ≠ "" →
    (Finding.missingPrefix entry.spelling ∈ findings ↔ entry.kind ≠ .input ∧ ¬ entry.IsDashed)
  duplicateSpelling : entry.spelling ≠ "" →
    (Finding.duplicateSpelling entry.spelling ∈ findings ↔ ∃ e ∈ earlier, e.spelling = entry.spelling)
  aliasWithHelp : entry.spelling ≠ "" →
    (Finding.aliasWithHelp entry.spelling ∈ findings ↔
      entry.isAlias = true ∧ (entry.metaVariable ≠ none ∨ entry.helpText ≠ none))
  orphanAlias : entry.spelling ≠ "" →
    (Finding.orphanAlias entry.spelling ∈ findings ↔ entry.isAlias = true ∧ ¬ entry.IsOwned table)

/-! ## The tests of the scan -/

theorem head?_eq_dash_iff {s : String} : s.toList.head? = some '-' ↔ ∃ name, s = "-" ++ name := by
  constructor
  · intro h
    obtain ⟨cs, hcs⟩ := List.head?_eq_some_iff.1 h
    exact ⟨String.ofList cs, String.toList_inj.1 (by simp [hcs])⟩
  · rintro ⟨name, rfl⟩
    rw [String.toList_append]
    rfl

theorem Entry.lacksDash_iff {entry : Entry V} :
    entry.lacksDash = true ↔ entry.kind ≠ .input ∧ ¬ entry.IsDashed := by
  rw [lacksDash, Bool.and_eq_true, bne_iff_ne, bne_iff_ne, IsDashed, ← head?_eq_dash_iff]

theorem Entry.lacksDash_eq_false_iff {entry : Entry V} :
    entry.lacksDash = false ↔ (entry.kind ≠ .input → entry.IsDashed) := by
  rw [Bool.eq_false_iff, ne_eq, lacksDash_iff, not_and, Classical.not_not]

theorem Entry.hasHelp_iff {entry : Entry V} :
    entry.hasHelp = true ↔ entry.metaVariable ≠ none ∨ entry.helpText ≠ none := by
  rw [hasHelp, Bool.or_eq_true, Option.isSome_iff_ne_none, Option.isSome_iff_ne_none]

theorem Entry.hasHelp_eq_false_iff {entry : Entry V} :
    entry.hasHelp = false ↔ entry.metaVariable = none ∧ entry.helpText = none := by
  rw [hasHelp, Bool.or_eq_false_iff, Option.isSome_eq_false_iff, Option.isSome_eq_false_iff,
    Option.isNone_iff_eq_none, Option.isNone_iff_eq_none]

theorem Entry.isOwned_iff {entry : Entry V} {table : Table V} :
    entry.IsOwned table ↔
      ∃ option ∈ table.canonical, option.generator.sharesTransform entry.generator = true := by
  constructor
  · rintro ⟨option, hOption, hCanonical, hSame⟩
    exact ⟨option, List.mem_filter.2 ⟨hOption, by simp [hCanonical]⟩, Generator.sharesTransform_iff.2 hSame⟩
  · rintro ⟨option, hOption, hShares⟩
    obtain ⟨hOption, hCanonical⟩ := List.mem_filter.1 hOption
    exact ⟨option, hOption, by simpa using hCanonical, Generator.sharesTransform_iff.1 hShares⟩

theorem Table.findings_eq_nil_iff_isWellFormed {table : Table V} :
    table.findings = [] ↔ table.IsWellFormed := by
  rw [findings_eq_nil_iff]
  constructor
  · rintro ⟨hSound, hDistinct⟩
    refine ⟨fun e he => (hSound e he).spelled, ?_, hDistinct, ?_, ?_⟩
    · intro e he hKind
      exact Entry.lacksDash_eq_false_iff.1 (hSound e he).dashed hKind
    · intro e he hAlias
      exact Entry.hasHelp_eq_false_iff.1 ((hSound e he).bare hAlias)
    · intro e he hAlias
      exact Entry.isOwned_iff.2 ((hSound e he).owned hAlias)
  · intro h
    refine ⟨fun e he => ⟨h.spelled e he, ?_, ?_, ?_⟩, h.distinct⟩
    · exact Entry.lacksDash_eq_false_iff.2 (h.dashed e he)
    · intro hAlias
      exact Entry.hasHelp_eq_false_iff.2 (h.bare e he hAlias)
    · intro hAlias
      exact Entry.isOwned_iff.1 (h.owned e he hAlias)

/-! ## Reports -/

theorem ite_sublist {α : Type} (c : Prop) [Decidable c] (a : α) : (if c then [a] else []).Sublist [a] := by
  split
  · exact List.Sublist.refl _
  · exact List.nil_sublist _

theorem Table.isReport_findings (table : Table V) {earlier : List (Entry V)} {spellings : List String}
    (hEarlier : ∀ s, s ∈ spellings ↔ ∃ e ∈ earlier, e.spelling = s) (entry : Entry V) :
    table.IsReport earlier entry (entry.findings spellings table.canonical) where
  unspelled h := by rw [Entry.findings, if_pos h]
  ordered h := by
    rw [Entry.findings, if_neg h]
    exact (((ite_sublist _ _).append (ite_sublist _ _)).append (ite_sublist _ _)).append (ite_sublist _ _)
  missingPrefix h := by
    rw [Entry.findings, if_neg h]
    simp [Entry.lacksDash_iff]
  duplicateSpelling h := by
    rw [Entry.findings, if_neg h]
    simp [hEarlier]
  aliasWithHelp h := by
    rw [Entry.findings, if_neg h]
    simp [Entry.hasHelp_iff]
  orphanAlias h := by
    rw [Entry.findings, if_neg h]
    simp [Entry.isOwned_iff]

/-- What the scan remembers at an entry is just the spellings of the entries it has passed. -/
theorem Table.findingsFrom_eq_flatten (canonical entries : List (Entry V)) (earlier : List String) :
    findingsFrom canonical earlier entries =
      (List.ofFn (fun i : Fin entries.length =>
        entries[i].findings (((entries.take i).map (·.spelling)).reverse ++ earlier) canonical)).flatten := by
  induction entries generalizing earlier with
  | nil => rfl
  | cons entry rest ih =>
    rw [findingsFrom, ih, List.ofFn_succ]
    simp

/-- There is nothing to find about a table just when it is well-formed. Otherwise its findings are one report
about each entry after the other, in the order of their registration. -/
theorem Table.findings_eq_nil_iff_and_isReport (table : Table V) :
    (table.findings = [] ↔ table.IsWellFormed) ∧
      ∃ report : Fin table.entries.length → List Finding,
        table.findings = (List.ofFn report).flatten ∧
          ∀ i : Fin table.entries.length,
            table.IsReport (table.entries.take i) table.entries[i] (report i) := by
  refine ⟨findings_eq_nil_iff_isWellFormed, _, findingsFrom_eq_flatten _ _ _, ?_⟩
  intro i
  apply table.isReport_findings
  intro s
  rw [List.append_nil, List.mem_reverse, List.mem_map]

end CompilerDriver
