import CompilerDriver.CommandLine.Run
import CompilerDriver.Proofs.FileType.Listing
/-!
# Naming a file type

A file type can be looked up in the table of names, parsed, decoded from JSON, and looked up on the command
line. `ofName?_parse_ofJson_lookup`: each of these takes the name of the type, and nothing but the name.
-/

namespace CompilerDriver.CommandLine.Command

/-- Behind two dashes any text is a name to look up, also one that starts with a dash. -/
theorem parse_lookup (s : String) (format : FileType.Format) :
    parse ["lookup", "--format", format.name, "--", s] = .ok (.lookup s format) := by
  cases format <;> rfl

variable {read : String → Except IoError Reading} {s : String} {format : FileType.Format}

theorem result_lookup : (lookup s format).result read =
    match FileType.ofName? s with
    | some ty => .ok (FileType.list format [ty])
    | none => .error (.unknownFileType s) :=
  rfl

theorem run_lookup_name (ty : FileType) :
    (lookup ty.name format).run read = ⟨0, FileType.list format [ty], ""⟩ := by
  rw [run, result_lookup, FileType.ofName?_name]
  rfl

theorem run_lookup_unknown (h : ∀ ty : FileType, s ≠ ty.name) :
    (lookup s format).run read = ⟨1, "", "error: No file type named '" ++ s ++ "'\n"⟩ := by
  rw [run, result_lookup, FileType.ofName?_eq_none_iff.2 h]
  dsimp only [Outcome.failure, Failure.details, Failure.message]
  -- the report is put together from shorter texts than the line that is printed
  have hFront : "error: " ++ "No file type named '" = "error: No file type named '" := by decide
  have hBack : "'" ++ "\n" = "'\n" := by decide
  rw [String.empty_append, ← String.append_assoc, ← String.append_assoc, hFront, String.append_assoc,
    hBack]

theorem run_lookup_iff {ty : FileType} :
    (lookup s format).run read = ⟨0, FileType.list format [ty], ""⟩ ↔ s = ty.name := by
  constructor
  · intro h
    by_cases hNamed : ∃ ty' : FileType, s = ty'.name
    · obtain ⟨ty', rfl⟩ := hNamed
      rw [run_lookup_name, Outcome.mk.injEq] at h
      rw [FileType.list_singleton_injective format h.2.1]
    · rw [run_lookup_unknown (fun ty' hs => hNamed ⟨ty', hs⟩)] at h
      cases h
  · rintro rfl
    exact run_lookup_name ty

end CompilerDriver.CommandLine.Command

namespace CompilerDriver.FileType

open CommandLine (Command)

/-- All ways to name a file type agree. The table of names gives the type for its name alone, and has every
type. Parsing, decoding a JSON value and a look-up on the command line succeed with the type just for its
name too; where a text is no name, parsing gives the text back in its error, and the look-up prints no
listing and ends with status 1. -/
theorem ofName?_parse_ofJson_lookup (s : String) (ty : FileType) :
    (ofName? s = some ty ↔ s = ty.name) ∧
      (byName.length = all.length ∧ (byName.map (·.1)).Nodup) ∧
      (parse s = .ok ty ↔ s = ty.name) ∧ ((∀ ty : FileType, s ≠ ty.name) → parse s = .error ⟨s⟩) ∧
      (∀ value, ofJson value = .ok ty ↔ value = .text ty.name) ∧ ofJson ty.toJson = .ok ty ∧
      (∀ format : Format,
        Command.parse ["lookup", "--format", format.name, "--", s] = .ok (.lookup s format)) ∧
      ∀ arguments format read, Command.parse arguments = .ok (.lookup s format) →
        ((Command.parse arguments).map (·.run read) = .ok ⟨0, list format [ty], ""⟩ ↔ s = ty.name) ∧
        ((∀ ty : FileType, s ≠ ty.name) → (Command.parse arguments).map (·.run read) =
          .ok ⟨1, "", "error: No file type named '" ++ s ++ "'\n"⟩) := by
  refine ⟨ofName?_eq_some_iff, ⟨rfl, nodup_byName⟩, parse_eq_ok_iff, parse_eq_error,
    fun _ => ofJson_eq_ok_iff, ofJson_eq_ok_iff.2 rfl, Command.parse_lookup s, ?_⟩
  intro arguments format read hArguments
  rw [hArguments, Except.map, Except.ok.injEq]
  refine ⟨Command.run_lookup_iff, ?_⟩
  intro hUnknown
  rw [Command.run_lookup_unknown hUnknown]

/-- The word `object` names a type, and its raw form `o` names none. -/
theorem ofName?_parse_ofJson_lookup_object :
    (Command.parse ["lookup", "object"]).map (·.run fun _ => .error .notFound) =
        .ok ⟨0, list .table [.object], ""⟩ ∧
      (∀ ty : FileType, "o" ≠ ty.name) ∧ parse "o" = .error ⟨"o"⟩ ∧
      (Command.parse ["lookup", "o"]).map (·.run fun _ => .error .notFound) =
        .ok ⟨1, "", "error: No file type named '" ++ "o" ++ "'\n"⟩ := by
  have hUnknown : ∀ ty : FileType, "o" ≠ ty.name := by
    intro ty
    cases ty <;> decide
  obtain ⟨-, -, -, -, -, -, -, hObject⟩ := ofName?_parse_ofJson_lookup "object" .object
  obtain ⟨-, -, -, hParse, -, -, -, hRaw⟩ := ofName?_parse_ofJson_lookup "o" .object
  exact ⟨(hObject ["lookup", "object"] .table _ rfl).1.2 rfl, hUnknown, hParse hUnknown,
    (hRaw ["lookup", "o"] .table _ rfl).2 hUnknown⟩

end CompilerDriver.FileType
