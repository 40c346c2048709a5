import CompilerDriver.Help.Loading
import CompilerDriver.Proofs.Files.Writing
import CompilerDriver.Proofs.Yaml.Record
import Mathlib
/-!
# Saved settings can be loaded

Settings are written as a mapping with three entries, each of which is read as it is written, whatever its
text (`ofYaml_toYaml`). A file that was written can be read, so saved settings are loaded as they were
(`load_of_save`).
-/

namespace CompilerDriver.Help.Settings

/-- The entries that settings are written as. -/
def entries (settings : Settings) : List Yaml.Entry :=
  [.ofText "overview" settings.overview, .ofText "usage" settings.usage,
    .ofBoolean "include_hidden" settings.includeHidden]

theorem toList_toYaml (settings : Settings) :
    settings.toYaml.toList = settings.entries.flatMap Yaml.Entry.chars := by
  simp [toYaml, entries, Yaml.Entry.toList_writeText, Yaml.Entry.toList_writeBoolean]

theorem isReadable_of_mem_entries (settings : Settings) :
    ∀ entry ∈ settings.entries, entry.IsReadable := by
  have hOverview : Yaml.Scanner.IsKey "overview".toList :=
    Yaml.Scanner.isKey_of_allowsPlain rfl rfl rfl (by decide)
  have hUsage : Yaml.Scanner.IsKey "usage".toList :=
    Yaml.Scanner.isKey_of_allowsPlain rfl rfl rfl (by decide)
  have hHidden : Yaml.Scanner.IsKey "include_hidden".toList :=
    Yaml.Scanner.isKey_of_allowsPlain rfl rfl rfl (by decide)
  simp only [entries, List.forall_mem_cons]
  exact ⟨Yaml.Entry.isReadable_ofText hOverview settings.overview,
    Yaml.Entry.isReadable_ofText hUsage settings.usage,
    Yaml.Entry.isReadable_ofBoolean hHidden settings.includeHidden, by simp⟩

theorem isPrintable_toYaml (settings : Settings) :
    ∀ c ∈ settings.toYaml.toList, Yaml.isPrintable c = true := by
  rw [toList_toYaml]
  intro c hc
  obtain ⟨entry, hEntry, hc⟩ := List.mem_flatMap.1 hc
  simp only [entries, List.mem_cons, List.not_mem_nil, or_false] at hEntry
  rcases hEntry with rfl | rfl | rfl
  · exact Yaml.Entry.isPrintable_ofText (List.all_eq_true.1 rfl) settings.overview c hc
  · exact Yaml.Entry.isPrintable_ofText (List.all_eq_true.1 rfl) settings.usage c hc
  · exact Yaml.Entry.isPrintable_ofBoolean (List.all_eq_true.1 rfl) settings.includeHidden c hc

/-- Each key is known, and none of them comes twice. -/
theorem foldlM_leaves (settings : Settings) :
    (settings.entries.map Yaml.Entry.leaves).foldlM Fields.add? Fields.none =
      some ⟨some settings.overview, some settings.usage, some settings.includeHidden⟩ := by
  have hWord : Yaml.boolean? (Yaml.Entry.word settings.includeHidden) = some settings.includeHidden := by
    cases settings.includeHidden <;> rfl
  simp [entries, Yaml.Entry.leaves, Yaml.Entry.ofText, Yaml.Entry.ofBoolean, Fields.add?, Fields.none,
    Yaml.Leaf.text?, Yaml.Leaf.boolean?, hWord]

/-- The settings are had from their text. -/
theorem ofYaml_toYaml (settings : Settings) : ofYaml settings.toYaml.toUTF8 = .ok settings := by
  have hChars := Yaml.characters?_toUTF8 settings.isPrintable_toYaml
  have hSome : settings.entries ≠ [] := List.cons_ne_nil _ _
  have hRecord := Yaml.recordOfText?_entries hSome settings.isReadable_of_mem_entries
  rw [ofYaml, Fields.ofYaml?, hChars, toList_toYaml]
  simp only [Option.bind_eq_bind, Option.bind_some]
  rw [hRecord, Option.bind_some, foldlM_leaves]
  rfl

/-- Settings are loaded as they were saved: their text gives them back, and so does the file that it was
written to. -/
theorem load_of_save (settings : Settings) :
    ofYaml settings.toYaml.toUTF8 = .ok settings ∧
      ∀ files path saved, settings.save files path = .ok saved → load saved path = .ok settings := by
  refine ⟨settings.ofYaml_toYaml, ?_⟩
  intro files path saved hSave
  -- What is saved is the text, written to the path.
  have hWrite : files.write path settings.toYaml.toUTF8 = .ok saved := by
    unfold save at hSave
    cases hWritten : files.write path settings.toYaml.toUTF8 with
    | error error =>
      rw [hWritten] at hSave
      cases hSave
    | ok written =>
      rw [hWritten] at hSave
      exact congrArg Except.ok (Except.ok.inj hSave)
  rw [load, Files.read_of_write hWrite, ofReading, ofYaml_toYaml]
  rfl

/-! ## Settings with texts that have to be escaped or quoted -/

namespace Sample

def settings : Settings :=
  { overview := "\n\tSwift compiler\r\n ", usage := "true", includeHidden := true }

/-- One directory with nothing in it. -/
def folder : Files :=
  ⟨[["a"]], [], []⟩

theorem save_settings :
    settings.save folder "a/b" = .ok (folder.push ["a", "b"] settings.toYaml.toUTF8) := by
  have hParts : "a/b".splitOn "/" = ["a", "b"] := by cbv
  have hRoute : folder.route "a/b" = .ok ⟨[], ["a", "b"]⟩ := by
    rw [Files.route, if_neg (by decide), if_neg (by decide), if_neg (by decide), hParts]
    rfl
  rw [save, Files.write, hRoute]
  rfl

end Sample

theorem load_sample : ∃ saved, Sample.settings.save Sample.folder "a/b" = .ok saved ∧
    load saved "a/b" = .ok Sample.settings :=
  ⟨_, Sample.save_settings, (load_of_save Sample.settings).2 _ _ _ Sample.save_settings⟩

end CompilerDriver.Help.Settings
