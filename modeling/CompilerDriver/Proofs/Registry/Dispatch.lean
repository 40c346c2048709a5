import CompilerDriver.Proofs.Basic
import CompilerDriver.Proofs.Registry.Assembly
import CompilerDriver.Proofs.Registry.Findings
import Mathlib.Data.List.Nodup
/-!
# A table without findings can be relied on

`Table.dispatch_of_findings_eq_nil`: in a table without findings every entry is found under its spelling,
and an alias makes the same values, with the same refusals, as a canonical option of its kind. It is
derived from the scan (`Findings`), which compares origins only, and from how generators come about
(`Assembly`), which makes one origin mean one transform.
-/

namespace CompilerDriver

universe u

variable {V : Type u}

namespace Table

/-- Where no spelling repeats, looking up the spelling of an entry gives the entry. -/
theorem find?_spelling {table : Table V} {entry : Entry V} (hEntry : entry ∈ table.entries)
    (hDistinct : (table.entries.map (·.spelling)).Nodup) :
    table.find? entry.spelling = some entry := by
  have hUnique : ∀ b ∈ table.entries, b.spelling = entry.spelling → b = entry :=
    fun b hb hSame => List.inj_on_of_nodup_map hDistinct hb hEntry hSame
  unfold find?
  dsimp only
  -- The canonical options are tried first, so for an alias they have to fail.
  cases hAlias : entry.isAlias with
  | false =>
    have hFound : table.canonical.find? (fun e => e.spelling == entry.spelling) = some entry := by
      refine find?_of_unique (List.mem_filter.2 ⟨hEntry, by simp [hAlias]⟩) (beq_self_eq_true _) ?_
      intro b hb hSame
      exact hUnique b (List.mem_filter.1 hb).1 (eq_of_beq hSame)
    rw [hFound]
  | true =>
    have hCanonical : table.canonical.find? (fun e => e.spelling == entry.spelling) = none := by
      rw [List.find?_eq_none]
      intro b hb hSame
      obtain ⟨hb, hOption⟩ := List.mem_filter.1 hb
      rw [hUnique b hb (eq_of_beq hSame), hAlias] at hOption
      cases hOption
    rw [hCanonical]
    refine find?_of_unique (List.mem_filter.2 ⟨hEntry, hAlias⟩) (beq_self_eq_true _) ?_
    intro b hb hSame
    exact hUnique b (List.mem_filter.1 hb).1 (eq_of_beq hSame)

/-- In a table without findings an alias stands for a canonical option that does what it does. -/
theorem exists_option_of_alias {pool : List (Generator V)} {table : Table V} {entry : Entry V}
    (hPool : Obtained pool) (hTable : Assembled pool table) (hEntry : entry ∈ table.entries)
    (hAlias : entry.isAlias = true) (hSound : entry.Sound table.canonical) :
    ∃ option ∈ table.entries, option.isAlias = false ∧ option.kind = entry.kind ∧
      (∀ material, entry.generator.generate material = option.generator.generate material) ∧
      ∀ token, entry.generator.generateFromCommas token = option.generator.generateFromCommas token := by
  obtain ⟨option, hOption, hShares⟩ := hSound.owned hAlias
  obtain ⟨hOption, hCanonical⟩ := List.mem_filter.1 hOption
  have hPooled := assembled_iff.1 hTable
  obtain ⟨hGenerate, hCommas⟩ := hPool.generate_eq (hPooled option hOption) (hPooled entry hEntry) hShares
  exact ⟨option, hOption, by simpa using hCanonical, (Generator.sharesTransform_iff.1 hShares).1,
    fun material => (hGenerate material).symm, fun token => (hCommas token).symm⟩

/-- A table without findings, whatever registrations made it, gives every entry under its spelling, and
has for every alias a canonical option of its kind with the same results and errors on everything. -/
theorem dispatch_of_findings_eq_nil {pool : List (Generator V)} {table : Table V}
    (hPool : Obtained pool) (hTable : Assembled pool table) (hNone : table.findings = []) :
    (∀ (i : Nat) (hi : i < table.entries.length),
      table.find? table.entries[i].spelling = some table.entries[i] ∧
        ∀ (j : Nat) (hj : j < table.entries.length),
          table.entries[j].spelling = table.entries[i].spelling → j = i) ∧
    ∀ a ∈ table.entries, a.isAlias = true →
      ∃ c ∈ table.entries, c.isAlias = false ∧ c.kind = a.kind ∧
        (∀ material, a.generator.generate material = c.generator.generate material) ∧
        ∀ token, a.generator.generateFromCommas token = c.generator.generateFromCommas token := by
  obtain ⟨hSound, hDistinct⟩ := findings_eq_nil_iff.1 hNone
  constructor
  · intro i hi
    refine ⟨find?_spelling (List.getElem_mem hi) hDistinct, ?_⟩
    intro j hj hSame
    have hi' : i < (table.entries.map (·.spelling)).length := by simpa using hi
    have hj' : j < (table.entries.map (·.spelling)).length := by simpa using hj
    have hSpellings : (table.entries.map (·.spelling))[j] = (table.entries.map (·.spelling))[i] := by
      simpa using hSame
    exact hDistinct.getElem_inj_iff.1 hSpellings
  · intro a ha hAlias
    exact exists_option_of_alias hPool hTable ha hAlias (hSound a ha)

/-! ## A table of three entries -/

namespace Sample

def output : Generator String :=
  Recipe.make ⟨.separate, fun path : String => "output to " ++ path⟩ (.made 0)

/-- The transform of `output` for a path that follows the spelling at once. -/
def suffixed : Generator String :=
  { kind := .joined, transform := output.transform, origin := .made 0 }

def table : Table String :=
  ((Table.empty.addOption "-o" output false (some "<file>") (some "Write output to <file>")).addAlias
    "--output" output true).addOption "-o=" suffixed false none none

theorem obtained : Obtained [suffixed, output] :=
  .rekinded .joined (.constructed _ _ .nothing (by simp)) List.mem_cons_self rfl

theorem assembled : Assembled [suffixed, output] table :=
  .addOption _ _ _ _ (.addAlias _ _ (.addOption _ _ _ _ .empty (by simp)) (by simp)) (by simp)

end Sample

theorem dispatch_sample :
    Obtained [Sample.suffixed, Sample.output] ∧ Assembled [Sample.suffixed, Sample.output] Sample.table ∧
      Sample.table.findings = [] ∧
      Sample.table.find? "--output" = some (.ofAlias "--output" Sample.output true) ∧
      ∃ c ∈ Sample.table.entries, c.isAlias = false ∧ c.kind = .separate ∧
        ∀ material, Sample.output.generate material = c.generator.generate material := by
  have hNone : Sample.table.findings = [] := by decide
  obtain ⟨hFound, hOptions⟩ := dispatch_of_findings_eq_nil Sample.obtained Sample.assembled hNone
  refine ⟨Sample.obtained, Sample.assembled, hNone, (hFound 1 (by decide)).1, ?_⟩
  obtain ⟨c, hc, hCanonical, hKind, hGenerate, -⟩ :=
    hOptions (.ofAlias "--output" Sample.output true) (by simp [Sample.table, addOption, addAlias, push]) rfl
  exact ⟨c, hc, hCanonical, hKind, hGenerate⟩

end Table

end CompilerDriver
