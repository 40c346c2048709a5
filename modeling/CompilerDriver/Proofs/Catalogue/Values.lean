import CompilerDriver.Proofs.Catalogue.Rows
import CompilerDriver.Proofs.Registry.Dispatch
import CompilerDriver.Proofs.Registry.Generator
/-!
# What the options of the catalogue make

An entry of the catalogue makes values that name the canonical option its line goes back to. Where no spelling
repeats, such a value leads back to the option: its name finds the canonical entry, which makes the same value
(`canonical_of_generate`). The spellings of the driver's own options are distinct and their rows regular, so
all of this holds of them (`driverOptions_canonical`).
-/

namespace CompilerDriver

/-- The argument has just the given material, in the form that belongs to the kind of the option. -/
inductive Argument.Holds : Kind → Material → Argument → Prop
  | flag : Holds .flag .absent .flag
  | joined (text : String) : Holds .joined (.text text) (.value text)
  | separate (text : String) : Holds .separate (.text text) (.value text)
  | joinedOrSeparate (text : String) : Holds .joinedOrSeparate (.text text) (.value text)
  | remaining (tokens : List String) : Holds .remaining (.tokens tokens) (.values tokens)
  | commaJoined (tokens : List String) : Holds .commaJoined (.tokens tokens) (.values tokens)
  | input (path : String) : Holds .input (.text path) (.input path)

/-! ## Naming generators -/

section Naming

variable {kind : Kind} {option : String} {origin : Origin}

theorem generate_naming_iff {material : Material} {occurrence : Occurrence} :
    ((Recipe.naming kind option).make origin).generate material = .ok occurrence ↔
      occurrence.option = option ∧ Argument.Holds kind material occurrence.argument := by
  constructor
  · intro h
    cases kind <;> cases material <;> cases h <;> exact ⟨rfl, by constructor⟩
  · rintro ⟨rfl, h⟩
    obtain ⟨option, argument⟩ := occurrence
    cases h <;> rfl

/-- A generator takes the material of its kind's shape, and no other. -/
theorem exists_generate_naming_iff {material : Material} :
    (∃ occurrence, ((Recipe.naming kind option).make origin).generate material = .ok occurrence) ↔
      material.shape = kind.shape :=
  Generator.exists_generate_iff

theorem generateFromCommas_naming (h : kind = .commaJoined) (token : String) :
    ((Recipe.naming kind option).make origin).generateFromCommas token =
      .ok ⟨option, .values (Text.splitCommas token)⟩ := by
  subst h
  rfl

end Naming

/-! ## Lines -/

namespace Catalogue

/-- The value of an entry names the option that the entry's line goes back to, which makes the same value. -/
theorem canonical_of_generate {lines : List Line} (hDistinct : ((tableOf lines).entries.map (·.spelling)).Nodup)
    {option line : Line} (hMem : option ∈ lines) (hOption : option.IsOptionOf line) {material : Material}
    {occurrence : Occurrence} (h : line.entry.generator.generate material = .ok occurrence) :
    (∃ c, (tableOf lines).find? occurrence.option = some c ∧ c.isAlias = false ∧ c.kind = line.entry.kind ∧
        (line.entry.isAlias = false → c = line.entry) ∧ c.generator.generate material = .ok occurrence) ∧
      Argument.Holds line.entry.kind material occurrence.argument := by
  obtain ⟨hName, hHolds⟩ := generate_naming_iff.1 h
  have hGenerator : option.entry.generator = line.entry.generator :=
    congrArg Construction.generator hOption.construction
  refine ⟨⟨option.entry, ?_, hOption.canonical, congrArg Generator.kind hGenerator, ?_, ?_⟩, hHolds⟩
  · rw [hName, hOption.naming]
    exact Table.find?_spelling (mem_tableOf.2 ⟨option, hMem, rfl⟩) hDistinct
  · intro hCanonical
    exact congrArg Line.entry (hOption.self hCanonical)
  · rw [hGenerator, h]

end Catalogue

/-! ## The driver's own options -/

/-- Every entry among the driver's own options takes the material of its kind, and no other. The value it
makes of it has just that material and names a canonical option of the same kind, the entry itself unless it
is an alias, which makes the same value. A comma-joined option keeps all of a token, cut at its commas. -/
theorem driverOptions_canonical :
    (driverOptions.entries.map (·.spelling)).Nodup ∧
      ∀ e ∈ driverOptions.entries,
        (∀ material, (∃ occurrence, e.generator.generate material = .ok occurrence) ↔
          material.shape = e.kind.shape) ∧
        (∀ material occurrence, e.generator.generate material = .ok occurrence →
          (∃ c, driverOptions.find? occurrence.option = some c ∧ c.isAlias = false ∧ c.kind = e.kind ∧
              (e.isAlias = false → c = e) ∧ c.generator.generate material = .ok occurrence) ∧
            Argument.Holds e.kind material occurrence.argument) ∧
        (e.kind = .commaJoined → ∀ token, ∃ occurrence parts,
          e.generator.generateFromCommas token = .ok occurrence ∧ occurrence.argument = .values parts ∧
            Text.IsCut token parts) := by
  refine ⟨nodup_spellings_driverOptions, ?_⟩
  intro e he
  obtain ⟨line, hLine, rfl⟩ := Catalogue.mem_tableOf.1 he
  refine ⟨fun material => exists_generate_naming_iff, ?_, ?_⟩
  · intro material occurrence h
    obtain ⟨option, hMem, hOption⟩ := Catalogue.exists_option_of_mem_lines hLine
    exact Catalogue.canonical_of_generate nodup_spellings_driverOptions hMem hOption h
  · intro hKind token
    exact ⟨_, _, generateFromCommas_naming hKind token, rfl, Text.isCut_splitCommas token⟩

theorem driverOptions_canonical_samples :
    (∃ e ∈ driverOptions.entries, e.spelling = "-wmo" ∧ e.isAlias = true ∧
      e.generator.generate .absent = .ok ⟨"-whole-module-optimization", .flag⟩ ∧
      ∃ c, driverOptions.find? "-whole-module-optimization" = some c ∧ c.isAlias = false ∧ c.kind = .flag ∧
        c.generator.generate .absent = .ok ⟨"-whole-module-optimization", .flag⟩) ∧
    ∃ e ∈ driverOptions.entries, e.spelling = "-sanitize=" ∧ e.kind = .commaJoined ∧
      ∃ occurrence parts, e.generator.generateFromCommas "address,,thread" = .ok occurrence ∧
        occurrence.argument = .values parts ∧ Text.IsCut "address,,thread" parts := by
  obtain ⟨-, hEntries⟩ := driverOptions_canonical
  constructor
  · obtain ⟨e, he, hSpelling, hAlias, hKind, hValue⟩ : ∃ e ∈ driverOptions.entries,
        e.spelling = "-wmo" ∧ e.isAlias = true ∧ e.kind = .flag ∧
        e.generator.generate .absent = .ok ⟨"-whole-module-optimization", .flag⟩ := by
      decide +kernel
    obtain ⟨⟨c, hFound, hCanonical, hSame, -, hGenerate⟩, -⟩ := (hEntries e he).2.1 _ _ hValue
    exact ⟨e, he, hSpelling, hAlias, hValue, c, hFound, hCanonical, hSame.trans hKind, hGenerate⟩
  · obtain ⟨e, he, hSpelling, hKind⟩ : ∃ e ∈ driverOptions.entries, e.spelling = "-sanitize=" ∧
        e.kind = .commaJoined := by
      decide +kernel
    exact ⟨e, he, hSpelling, hKind, (hEntries e he).2.2 hKind _⟩

end CompilerDriver
