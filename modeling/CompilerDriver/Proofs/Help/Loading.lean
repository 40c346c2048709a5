import CompilerDriver.Help.Loading
import CompilerDriver.Proofs.Files.Reading
import CompilerDriver.Proofs.Help.SettingsYaml
import Mathlib
/-!
# How loading settings ends

What is loaded depends on what the path gives, in one of four ways (`LoadsAs`). An error of the files is reported as
one just if nothing could be opened. A directory is opened and gives no bytes, which counts as an error of the
content, as does a file that holds no settings. So the end of loading tells whether there were bytes for all paths
but those of directories (`tellsApart_iff`).
-/

namespace CompilerDriver.Help.Settings

/-- How loading ends, told from what opening and reading gave. -/
inductive LoadsAs : Except IoError Reading → Except FileError Settings → Prop
  | unopened {error : IoError} : LoadsAs (.error error) (.error (.io error))
  | unread : LoadsAs (.ok .failed) (.error (.yaml .unreadable))
  | decoded {content : ByteArray} {fields : Fields} (isYaml : fields.IsYamlOf content) :
      LoadsAs (.ok (.bytes content)) (.ok fields.settings)
  | refused {content : ByteArray} (noYaml : ∀ fields : Fields, ¬ fields.IsYamlOf content) :
      LoadsAs (.ok (.bytes content)) (.error (.yaml .notSettings))

variable {reading : Except IoError Reading} {outcome : Except FileError Settings} {files : Files} {path : String}

theorem LoadsAs.ofReading_eq (h : LoadsAs reading outcome) : ofReading reading = outcome := by
  cases h with
  | unopened => rfl
  | unread => rfl
  | decoded isYaml =>
    rw [ofReading, ofYaml_eq_ok_iff.2 ⟨_, isYaml, rfl⟩]
    rfl
  | refused noYaml =>
    rw [ofReading, ofYaml_eq_error_iff.2 ⟨noYaml, rfl⟩]
    rfl

theorem exists_loadsAs (reading : Except IoError Reading) : ∃ outcome, LoadsAs reading outcome := by
  match reading with
  | .error _ => exact ⟨_, .unopened⟩
  | .ok .failed => exact ⟨_, .unread⟩
  | .ok (.bytes content) =>
    by_cases h : ∃ fields : Fields, fields.IsYamlOf content
    · obtain ⟨fields, isYaml⟩ := h
      exact ⟨_, .decoded isYaml⟩
    · exact ⟨_, .refused (not_exists.1 h)⟩

theorem ofReading_eq_iff : ofReading reading = outcome ↔ LoadsAs reading outcome := by
  constructor
  · rintro rfl
    obtain ⟨outcome, h⟩ := exists_loadsAs reading
    rwa [h.ofReading_eq]
  · exact LoadsAs.ofReading_eq

theorem load_eq_iff : load files path = outcome ↔ ∃ reading, files.Gives path reading ∧ LoadsAs reading outcome := by
  rw [load, ofReading_eq_iff]
  simp only [← Files.read_eq_iff, exists_eq_left']

/-! ## The three ends -/

theorem load_eq_ok_iff {settings : Settings} : load files path = .ok settings ↔
    ∃ content, ∃ fields : Fields, files.Gives path (.ok (.bytes content)) ∧ fields.IsYamlOf content ∧
      settings = fields.settings := by
  rw [load_eq_iff]
  constructor
  · rintro ⟨reading, hGives, hLoads⟩
    cases hLoads with
    | decoded isYaml => exact ⟨_, _, hGives, isYaml, rfl⟩
  · rintro ⟨content, fields, hGives, isYaml, rfl⟩
    exact ⟨_, hGives, .decoded isYaml⟩

theorem load_eq_io_iff {error : IoError} :
    load files path = .error (.io error) ↔ files.Gives path (.error error) := by
  rw [load_eq_iff]
  constructor
  · rintro ⟨reading, hGives, hLoads⟩
    cases hLoads with
    | unopened => exact hGives
  · intro hGives
    exact ⟨_, hGives, .unopened⟩

theorem load_eq_unreadable_iff :
    load files path = .error (.yaml .unreadable) ↔ files.Gives path (.ok .failed) := by
  rw [load_eq_iff]
  constructor
  · rintro ⟨reading, hGives, hLoads⟩
    cases hLoads with
    | unread => exact hGives
  · intro hGives
    exact ⟨_, hGives, .unread⟩

theorem load_eq_notSettings_iff : load files path = .error (.yaml .notSettings) ↔
    ∃ content, files.Gives path (.ok (.bytes content)) ∧ ∀ fields : Fields, ¬ fields.IsYamlOf content := by
  rw [load_eq_iff]
  constructor
  · rintro ⟨reading, hGives, hLoads⟩
    cases hLoads with
    | refused noYaml => exact ⟨_, hGives, noYaml⟩
  · rintro ⟨content, hGives, noYaml⟩
    exact ⟨_, hGives, .refused noYaml⟩

/-! ## Directories -/

/-- Loading tells whether the bytes at the path could be had and whether they hold settings: it ends with an error
of the files just if there are no bytes, with an error of the content just if there are bytes that hold no settings,
and else with the settings that they hold. -/
structure TellsApart (files : Files) (path : String) : Prop where
  io : (∃ error, load files path = .error (.io error)) ↔
    ∀ content, ¬ files.Gives path (.ok (.bytes content))
  yaml : (∃ error, load files path = .error (.yaml error)) ↔
    ∃ content, files.Gives path (.ok (.bytes content)) ∧ ∀ fields : Fields, ¬ fields.IsYamlOf content
  ok : ∀ settings, load files path = .ok settings ↔ ∃ content, ∃ fields : Fields,
    files.Gives path (.ok (.bytes content)) ∧ fields.IsYamlOf content ∧ settings = fields.settings

/-- A path that gives no directory gives bytes, or there is nothing to open. -/
theorem exists_gives_error_iff (h : ¬ files.Gives path (.ok .failed)) :
    (∃ error, files.Gives path (.error error)) ↔ ∀ content, ¬ files.Gives path (.ok (.bytes content)) := by
  simp only [← Files.read_eq_iff] at h ⊢
  cases hRead : files.read path with
  | error error => simp
  | ok reading =>
    cases reading with
    | bytes content => simp
    | failed => exact absurd hRead h

theorem tellsApart_of_not_directory (h : ¬ files.Gives path (.ok .failed)) : TellsApart files path where
  io := by
    simp only [load_eq_io_iff]
    exact exists_gives_error_iff h
  yaml := by
    rw [← load_eq_notSettings_iff]
    constructor
    · rintro ⟨error, hLoad⟩
      cases error with
      | notSettings => exact hLoad
      | unreadable => exact absurd (load_eq_unreadable_iff.1 hLoad) h
    · intro hLoad
      exact ⟨_, hLoad⟩
  ok := fun _ => load_eq_ok_iff

/-- No bytes can be had from a directory, and yet loading it does not end with an error of the files. -/
theorem not_tellsApart_of_directory (h : files.Gives path (.ok .failed)) : ¬ TellsApart files path := by
  rintro ⟨hIo, -, -⟩
  have hNoBytes : ∀ content, ¬ files.Gives path (.ok (.bytes content)) := by
    intro content hBytes
    have hRead := hBytes.read_eq
    rw [h.read_eq] at hRead
    cases hRead
  obtain ⟨error, hLoad⟩ := hIo.2 hNoBytes
  rw [load_eq_unreadable_iff.2 h] at hLoad
  cases hLoad

/-- Loading tells apart whether there are bytes and whether they hold settings just if the path is not that of a
directory, which is an error of the content. An error of the files has its reason from the path, and settings are
those of the document at the path. For files of any kind loading ends as opening and reading say. -/
theorem tellsApart_iff (files : Files) (path : String) (reading : Except IoError Reading)
    (outcome : Except FileError Settings) :
    (TellsApart files path ↔ ¬ files.Gives path (.ok .failed)) ∧
      (load files path = .error (.yaml .unreadable) ↔ files.Gives path (.ok .failed)) ∧
      (load files path = .error (.yaml .notSettings) ↔ ∃ content, files.Gives path (.ok (.bytes content)) ∧
        ∀ fields : Fields, ¬ fields.IsYamlOf content) ∧
      (∀ error, load files path = .error (.io error) ↔ files.Gives path (.error error)) ∧
      (∀ settings, load files path = .ok settings ↔ ∃ content, ∃ fields : Fields,
        files.Gives path (.ok (.bytes content)) ∧ fields.IsYamlOf content ∧ settings = fields.settings) ∧
      (ofReading reading = outcome ↔ LoadsAs reading outcome) := by
  refine ⟨⟨?_, tellsApart_of_not_directory⟩, load_eq_unreadable_iff, load_eq_notSettings_iff,
    fun _ => load_eq_io_iff, fun _ => load_eq_ok_iff, ofReading_eq_iff⟩
  intro hTells hDirectory
  exact not_tellsApart_of_directory hDirectory hTells

/-- A tree with one directory and no file. -/
def oneDirectory : Files :=
  ⟨[["dir"]], [], []⟩

theorem gives_oneDirectory : oneDirectory.Gives "dir" (.ok .failed) := by
  have hParts : "dir".splitOn "/" = ["dir"] := by cbv
  have hRoute : oneDirectory.route "dir" = .ok ⟨[], ["dir"]⟩ := by
    rw [Files.route, if_neg (by decide), if_neg (by decide), if_neg (by decide), hParts]
    rfl
  exact .directory hRoute (.cons (.down ⟨by decide, by decide, by decide, rfl⟩ (by decide)) .nil)

/-- What cannot be read because it is a directory is reported as an error of the content, where an error of the
files is due. -/
theorem not_tellsApart_oneDirectory : load oneDirectory "dir" = .error (.yaml .unreadable) ∧
    (∀ content, oneDirectory.read "dir" ≠ .ok (.bytes content)) ∧ ¬ TellsApart oneDirectory "dir" := by
  refine ⟨load_eq_unreadable_iff.2 gives_oneDirectory, ?_, not_tellsApart_of_directory gives_oneDirectory⟩
  intro content
  rw [gives_oneDirectory.read_eq]
  exact nofun

end CompilerDriver.Help.Settings
