import CompilerDriver.Proofs.Registry.Findings
import Mathlib.Data.List.Count
/-!
# Findings and the order of registration

Which of two entries with one spelling is at fault depends on which of them comes first, but nothing else in
a finding does. So the findings about a table are those about each entry by itself together with one for
each spelling that was met before (`findingsFrom_perm`), and how many of the latter there are is a matter of
counting (`count_repeats`).
-/

namespace CompilerDriver

universe u

variable {V : Type u}

/-! ## Spellings that repeat -/

/-- The spellings that were met before, in a run that follows the earlier ones. Empty ones do not count. -/
def repeats : List String → List String → List String
  | _, [] => []
  | earlier, spelling :: rest =>
    (if spelling ≠ "" ∧ spelling ∈ earlier then [spelling] else []) ++ repeats (spelling :: earlier) rest

/-- All occurrences of a spelling are repeats, but for the first one if the spelling is new. -/
theorem count_repeats {spelling : String} (hSpelled : spelling ≠ "") (earlier spellings : List String) :
    (repeats earlier spellings).count spelling =
      if spelling ∈ earlier then spellings.count spelling else spellings.count spelling - 1 := by
  induction spellings generalizing earlier with
  | nil => simp [repeats]
  | cons s rest ih =>
    rw [repeats, List.count_append, ih]
    by_cases hs : s = spelling
    · subst hs
      by_cases hMet : s ∈ earlier
      · simp [hSpelled, hMet, Nat.add_comm]
      · simp [hMet]
    · have hOther : (if s ≠ "" ∧ s ∈ earlier then [s] else []).count spelling = 0 := by
        split <;> simp [hs]
      rw [hOther, List.count_cons_of_ne hs]
      simp [Ne.symm hs]

theorem empty_not_mem_repeats (earlier spellings : List String) : "" ∉ repeats earlier spellings := by
  induction spellings generalizing earlier with
  | nil => simp [repeats]
  | cons s rest ih =>
    rw [repeats, List.mem_append]
    rintro (h | h)
    · split at h
      · next hs => exact hs.1 (List.mem_singleton.1 h).symm
      · cases h
    · exact ih _ h

theorem repeats_perm {spellings spellings' : List String} (h : spellings.Perm spellings') :
    (repeats [] spellings).Perm (repeats [] spellings') := by
  rw [List.perm_iff_count]
  intro s
  by_cases hs : s = ""
  · rw [hs, List.count_eq_zero.2 (empty_not_mem_repeats _ _), List.count_eq_zero.2 (empty_not_mem_repeats _ _)]
  · rw [count_repeats hs, count_repeats hs, h.count_eq]

/-! ## Findings about entries by themselves -/

/-- An entry has the findings that it has as the first entry, and one more if its spelling repeats. -/
theorem Entry.findings_perm (entry : Entry V) (earlier : List String) (canonical : List (Entry V)) :
    (entry.findings earlier canonical).Perm
      ((if entry.spelling ≠ "" ∧ entry.spelling ∈ earlier then [.duplicateSpelling entry.spelling] else [])
        ++ entry.findings [] canonical) := by
  by_cases h : entry.spelling = ""
  · simp [findings, h]
  · simp only [findings, ne_eq, h, not_false_eq_true, true_and, List.not_mem_nil, if_false,
      List.append_nil, List.append_assoc]
    exact List.perm_append_comm_assoc _ _ _

theorem Table.findingsFrom_perm (canonical entries : List (Entry V)) (earlier : List String) :
    (findingsFrom canonical earlier entries).Perm
      ((repeats earlier (entries.map (·.spelling))).map .duplicateSpelling
        ++ entries.flatMap (fun entry => entry.findings [] canonical)) := by
  induction entries generalizing earlier with
  | nil => simp [findingsFrom, repeats]
  | cons entry rest ih =>
    have hRepeat : (if entry.spelling ≠ "" ∧ entry.spelling ∈ earlier then [entry.spelling] else []).map
        Finding.duplicateSpelling =
          if entry.spelling ≠ "" ∧ entry.spelling ∈ earlier then [.duplicateSpelling entry.spelling]
          else [] := by
      split <;> rfl
    rw [findingsFrom, List.map_cons, repeats, List.map_append, List.flatMap_cons, hRepeat]
    refine ((entry.findings_perm earlier canonical).append (ih _)).trans ?_
    -- The findings of the entry by itself go behind the repeats of the rest.
    rw [List.append_assoc, List.append_assoc]
    exact (List.perm_append_comm_assoc _ _ _).append_left _

theorem Entry.findings_eq_of_perm {canonical canonical' : List (Entry V)} (h : canonical.Perm canonical')
    (entry : Entry V) (earlier : List String) :
    entry.findings earlier canonical = entry.findings earlier canonical' := by
  unfold findings
  rw [h.any_eq]

theorem Entry.duplicateSpelling_not_mem_findings (entry : Entry V) (canonical : List (Entry V)) (s : String) :
    Finding.duplicateSpelling s ∉ entry.findings [] canonical := by
  unfold findings
  split <;> simp

namespace Table

theorem findings_perm {table table' : Table V} (h : table.entries.Perm table'.entries) :
    table.findings.Perm table'.findings := by
  have hCanonical : table.canonical.Perm table'.canonical := h.filter _
  have hOwn : (table.entries.flatMap (fun entry => entry.findings [] table.canonical)).Perm
      (table'.entries.flatMap (fun entry => entry.findings [] table'.canonical)) := by
    simp only [Entry.findings_eq_of_perm hCanonical]
    exact h.flatMap_right _
  have hRepeats := (repeats_perm (h.map (·.spelling))).map Finding.duplicateSpelling
  exact (findingsFrom_perm _ _ _).trans ((hRepeats.append hOwn).trans (findingsFrom_perm _ _ _).symm)

theorem count_duplicateSpelling (table : Table V) {s : String} (hs : s ≠ "") :
    table.findings.count (.duplicateSpelling s) = (table.entries.map (·.spelling)).count s - 1 := by
  have hOwn : (table.entries.flatMap (fun entry => entry.findings [] table.canonical)).count
      (.duplicateSpelling s) = 0 := by
    rw [List.count_eq_zero, List.mem_flatMap]
    rintro ⟨entry, -, hEntry⟩
    exact entry.duplicateSpelling_not_mem_findings _ s hEntry
  have hInjective : Function.Injective Finding.duplicateSpelling := by
    intro s t h
    cases h
    rfl
  rw [findings, (findingsFrom_perm _ _ _).count_eq, List.count_append, hOwn,
    List.count_map_of_injective _ _ hInjective, count_repeats hs]
  simp

/-- Tables with the same entries have the same findings, each as often in one order of registration as in any
other. So a spelling repeats as often as it occurs, but for one time, whichever entries are at fault. -/
theorem findings_perm_and_count_duplicateSpelling {table table' : Table V}
    (h : table.entries.Perm table'.entries) :
    table.findings.Perm table'.findings ∧
      ∀ s, s ≠ "" →
        table.findings.count (.duplicateSpelling s) = (table.entries.map (·.spelling)).count s - 1 ∧
          table'.findings.count (.duplicateSpelling s) = (table.entries.map (·.spelling)).count s - 1 := by
  refine ⟨findings_perm h, ?_⟩
  intro s hs
  rw [count_duplicateSpelling table hs, count_duplicateSpelling table' hs, (h.map (·.spelling)).count_eq]
  exact ⟨rfl, rfl⟩

/-! ## A table with every sort of finding -/

namespace Sample

def path : Generator Unit :=
  ⟨.separate, fun _ => (), .made 0⟩

/-- Each entry but the first is at fault, and in the other order the first one is as well. -/
def crowded : Table Unit :=
  ⟨[.ofOption "-o" path false none none, .ofAlias "-o" path false,
    { Entry.ofAlias "out" path false with helpText := some "Output" }, .ofAlias "" path false,
    .ofAlias "-o" ⟨.joined, fun _ => (), .made 0⟩ true]⟩

def reversed : Table Unit :=
  ⟨crowded.entries.reverse⟩

theorem perm_reversed : crowded.entries.Perm reversed.entries :=
  (List.reverse_perm _).symm

end Sample

theorem findings_sample_reversed :
    Sample.crowded.entries.Perm Sample.reversed.entries ∧
      Sample.crowded.findings = [.duplicateSpelling "-o", .missingPrefix "out", .aliasWithHelp "out",
        .emptySpelling, .duplicateSpelling "-o", .orphanAlias "-o"] ∧
      Sample.crowded.findings.Perm Sample.reversed.findings ∧
      Sample.crowded.findings.count (.duplicateSpelling "-o") = 2 ∧
      Sample.reversed.findings.count (.duplicateSpelling "-o") = 2 := by
  obtain ⟨hFindings, hCount⟩ := findings_perm_and_count_duplicateSpelling Sample.perm_reversed
  obtain ⟨hCount, hCount'⟩ := hCount "-o" (by decide)
  exact ⟨Sample.perm_reversed, by decide, hFindings, hCount, hCount'⟩

end Table

end CompilerDriver
