import CompilerDriver.CommandLine.Run
import CompilerDriver.Proofs.Catalogue.Rows
import CompilerDriver.Proofs.CommandLine.Command
import CompilerDriver.Proofs.CommandLine.Lookup
import CompilerDriver.Proofs.FileType.Names
import CompilerDriver.Proofs.Output.Sink
/-!
# Runs are all or nothing

A run that succeeds writes the whole result of its command and nothing else (`run_of_yields`). One that fails
writes why and nothing else (`run_of_isRefused`), and only a settings file that does not load or an unknown name
makes it fail. The table of the driver's options breaks no rule, so to validate it never fails.
-/

namespace CompilerDriver.CommandLine.Command

/-- The result of a command that succeeds, where `read` opens and reads a file. -/
inductive Yields (read : String → Except IoError Reading) : Command → String → Prop
  | standard {includeHidden : Bool} :
      Yields read (.options includeHidden none)
        (Help.page driverOptions .default (includeHidden || Help.Settings.default.includeHidden))
  | options {includeHidden : Bool} {path : String} {settings : Help.Settings} :
      Help.Settings.ofReading (read path) = .ok settings →
      Yields read (.options includeHidden (some path))
        (Help.page driverOptions settings (includeHidden || settings.includeHidden))
  | fileTypes {format : FileType.Format} :
      Yields read (.fileTypes format) (FileType.list format FileType.all)
  | lookup {ty : FileType} {format : FileType.Format} :
      Yields read (.lookup ty.name format) (FileType.list format [ty])
  | validate :
      Yields read .validate
        ("Validated " ++ toString driverOptions.canonical.length ++ " option(s) ("
          ++ toString driverOptions.aliases.length ++ " alias(es)).\n")

/-- The settings file of the command gives no settings, or the name that it looks up is not one of a file type. -/
def IsRefused (read : String → Except IoError Reading) : Command → Prop
  | options _ (some path) => ∀ settings, Help.Settings.ofReading (read path) ≠ .ok settings
  | lookup name _ => ∀ ty : FileType, name ≠ ty.name
  | _ => False

variable {read : String → Except IoError Reading} {command : Command} {output : String}

theorem result_options_none {includeHidden : Bool} : (options includeHidden none).result read =
    .ok (Help.page driverOptions .default (includeHidden || Help.Settings.default.includeHidden)) := by
  unfold result
  -- both sides are the same text: to compute the page would take too long
  exact pure_eq_ok_iff.2 (Eq.refl _)

theorem result_options_some {includeHidden : Bool} {path : String} :
    (options includeHidden (some path)).result read =
      (Help.Settings.ofReading (read path)).mapError (.settings path) >>= fun settings =>
        pure (Help.page driverOptions settings (includeHidden || settings.includeHidden)) := by
  unfold result
  exact Eq.refl _

theorem result_of_yields (h : command.Yields read output) : command.result read = .ok output := by
  cases h with
  | standard => exact result_options_none
  | options hLoaded =>
    rw [result_options_some, hLoaded]
    exact Eq.refl _
  | fileTypes =>
    unfold result
    exact pure_eq_ok_iff.2 (Eq.refl _)
  | lookup =>
    rw [result_lookup, FileType.ofName?_name]
  | validate =>
    rw [result.eq_def, findings_driverOptions]
    exact pure_eq_ok_iff.2 (Eq.refl _)

theorem exists_yields (h : ¬ command.IsRefused read) : ∃ output, command.Yields read output := by
  cases command with
  | options includeHidden settingsPath =>
    cases settingsPath with
    | none => exact ⟨_, .standard⟩
    | some path =>
      cases hLoaded : Help.Settings.ofReading (read path) with
      | ok settings => exact ⟨_, .options hLoaded⟩
      | error error => exact absurd (fun settings => hLoaded ▸ nofun) h
  | fileTypes format => exact ⟨_, .fileTypes⟩
  | lookup name format =>
    cases hName : FileType.ofName? name with
    | some ty =>
      obtain rfl := FileType.ofName?_eq_some_iff.1 hName
      exact ⟨_, .lookup⟩
    | none => exact absurd (FileType.ofName?_eq_none_iff.1 hName) h
  | validate => exact ⟨_, .validate⟩

theorem run_of_yields (h : command.Yields read output) : command.run read = ⟨0, output, ""⟩ := by
  rw [run, result_of_yields h]
  rfl

theorem failure_of_details {failure : Failure} (h : failure.details = "") :
    Outcome.failure failure = ⟨1, "", "error: " ++ failure.message ++ "\n"⟩ := by
  rw [Outcome.failure, h, String.empty_append]

/-- Only the report about a table has lines before the message, and no command that is refused gives it. -/
theorem run_of_isRefused (h : command.IsRefused read) :
    ∃ reason, command.run read = ⟨1, "", "error: " ++ reason ++ "\n"⟩ := by
  cases command with
  | options includeHidden settingsPath =>
    cases settingsPath with
    | none => exact h.elim
    | some path =>
      cases hLoaded : Help.Settings.ofReading (read path) with
      | ok settings => exact absurd hLoaded (h settings)
      | error error =>
        have hResult : (options includeHidden (some path)).result read = .error (.settings path error) := by
          rw [result_options_some, hLoaded]
          rfl
        rw [run, hResult]
        exact ⟨_, failure_of_details rfl⟩
  | lookup name format =>
    have hResult : (lookup name format).result read = .error (.unknownFileType name) := by
      rw [result_lookup, FileType.ofName?_eq_none_iff.2 h]
    rw [run, hResult]
    exact ⟨_, failure_of_details rfl⟩
  | fileTypes _ | validate => exact h.elim

theorem exitCode_eq_one_iff : (command.run read).exitCode = 1 ↔ command.IsRefused read := by
  by_cases h : command.IsRefused read
  · obtain ⟨reason, hRun⟩ := run_of_isRefused h
    simp [hRun, h]
  · obtain ⟨output, hYields⟩ := exists_yields h
    simp [run_of_yields hYields, h]

/-- A command line is accepted just if it says a command in parts, and the run of a command is all or nothing. It
ends with status 0, nothing on the standard error and the whole result on a standard output that takes all bytes,
or with status 1, nothing on the standard output and an error message. The second happens just if the settings
file does not load or the name looked up is not one of a file type. To load settings from files is to take those
that the reading of the file gives. -/
theorem parse_iff_and_run (arguments : List String) (command : Command)
    (read : String → Except IoError Reading) :
    (parse arguments = .ok command ↔ IsSaid arguments command) ∧
      ((∃ output, command.Yields read output ∧ command.run read = ⟨0, output, ""⟩ ∧
          ∀ sink : Output.Sink, sink.room = none →
            (sink.deliver output).1.taken = sink.taken ++ output.toUTF8.data.toList ∧
              (sink.deliver output).2 = none) ∨
        ∃ reason, command.run read = ⟨1, "", "error: " ++ reason ++ "\n"⟩) ∧
      ((command.run read).exitCode = 1 ↔ command.IsRefused read) ∧
      ∀ files : Files, Help.Settings.load files = fun path => Help.Settings.ofReading (files.read path) := by
  refine ⟨parse_eq_ok_iff, ?_, exitCode_eq_one_iff, fun _ => rfl⟩
  by_cases h : command.IsRefused read
  · exact .inr (run_of_isRefused h)
  · obtain ⟨output, hYields⟩ := exists_yields h
    refine .inl ⟨output, hYields, run_of_yields hYields, ?_⟩
    intro sink hRoom
    obtain ⟨hTaken, -, hError⟩ :=
      Output.Sink.deliver_of_capacity (Output.Sink.capacity_of_room_eq_none hRoom _)
    exact ⟨hTaken, hError⟩

/-- Behind the two dashes a text that looks like an option is a name, and it is no type's. A settings file that is
not there makes the run fail, and to validate succeeds. -/
theorem parse_iff_and_run_samples :
    (IsSaid ["lookup", "--", "--format=json"] (.lookup "--format=json" .table) ∧
        ((lookup "--format=json" .table).run fun _ => .error .notFound).exitCode = 1) ∧
      (IsSaid ["options", "--config", "-", "--hidden"] (.options true (some "-")) ∧
        ((options true (some "-")).run fun _ => .error .notFound).exitCode = 1) ∧
      IsSaid ["validate"] .validate ∧
        ∃ output, validate.run (fun _ => .error .notFound) = ⟨0, output, ""⟩ ∧
          (Output.Sink.deliver {} output).1.taken = output.toUTF8.data.toList := by
  obtain ⟨hLookup, -, hUnknown, -⟩ := parse_iff_and_run ["lookup", "--", "--format=json"]
    (.lookup "--format=json" .table) fun _ => .error .notFound
  obtain ⟨hOptions, -, hMissing, -⟩ := parse_iff_and_run ["options", "--config", "-", "--hidden"]
    (.options true (some "-")) fun _ => .error .notFound
  obtain ⟨hValidate, hRun, hExit, -⟩ := parse_iff_and_run ["validate"] .validate fun _ => .error .notFound
  refine ⟨⟨hLookup.1 rfl, hUnknown.2 ?_⟩, ⟨hOptions.1 rfl, hMissing.2 nofun⟩, hValidate.1 rfl, ?_⟩
  · intro ty
    cases ty <;> decide
  · rcases hRun with ⟨output, -, hRun, hSink⟩ | ⟨reason, hRun⟩
    · exact ⟨output, hRun, (hSink {} rfl).1⟩
    · exact (hExit.1 (by rw [hRun])).elim

end CompilerDriver.CommandLine.Command
