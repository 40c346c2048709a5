import CompilerDriver.CommandLine.Command
import CompilerDriver.Proofs.CommandLine.Arguments
/-!
# The command that a command line says

The first argument names the command, and the others are cut into parts for it. `IsSaid` says which command
the parts make, and `parse_eq_ok_iff` that the program runs this command and accepts no other command line.
-/

namespace CompilerDriver.CommandLine

variable {arguments texts : List String} {parts : List Part} {format : FileType.Format}

/-- The parts ask for the form of a listing, which is a table where none is named. -/
def AskFor (parts : List Part) (format : FileType.Format) : Prop :=
  .value "format" format.name ∈ parts ∨ format = .table ∧ ∀ value, .value "format" value ∉ parts

namespace Command

/-- The command that the arguments of the program say. -/
inductive IsSaid : List String → Command → Prop
  | options {texts : List String} {parts : List Part} {includeHidden : Bool} {settingsPath : Option String} :
      Declaration.Takes ⟨["hidden"], [configOption], 0⟩ texts parts →
      (includeHidden = true ↔ .flag "hidden" ∈ parts) →
      (∀ path, settingsPath = some path ↔ .value "config" path ∈ parts) →
      IsSaid ("options" :: texts) (.options includeHidden settingsPath)
  | fileTypes {texts : List String} {parts : List Part} {format : FileType.Format} :
      Declaration.Takes ⟨[], [formatOption], 0⟩ texts parts → AskFor parts format →
      IsSaid ("file-types" :: texts) (.fileTypes format)
  | lookup {texts : List String} {parts : List Part} {name : String} {format : FileType.Format} :
      Declaration.Takes ⟨[], [formatOption], 1⟩ texts parts → .positional name ∈ parts →
      AskFor parts format → IsSaid ("lookup" :: texts) (.lookup name format)
  | validate {texts : List String} {parts : List Part} :
      Declaration.Takes ⟨[], [], 0⟩ texts parts → IsSaid ("validate" :: texts) .validate

/-! ## Declarations -/

variable {positionals : Nat}

theorem isName_hidden : IsName "hidden" := by
  rw [IsName]
  decide

theorem wellFormed_options : Declaration.WellFormed ⟨["hidden"], [configOption], 0⟩ where
  flags := by
    intro name hName
    obtain rfl := List.mem_singleton.1 hName
    refine ⟨isName_hidden, ?_, by decide⟩
    rintro ⟨option, hOption, heq⟩
    obtain rfl := List.mem_singleton.1 hOption
    revert heq
    decide
  options := by
    intro option hOption
    obtain rfl := List.mem_singleton.1 hOption
    exact ⟨by decide, by decide⟩

theorem wellFormed_format : Declaration.WellFormed ⟨[], [formatOption], positionals⟩ where
  flags := nofun
  options := by
    intro option hOption
    obtain rfl := List.mem_singleton.1 hOption
    exact ⟨by decide, by decide⟩

theorem wellFormed_empty : Declaration.WellFormed ⟨[], [], positionals⟩ :=
  ⟨nofun, nofun⟩

/-! ## The form of a listing -/

theorem format_ofName?_eq_some_iff {value : String} :
    FileType.Format.ofName? value = some format ↔ value = format.name := by
  constructor
  · intro h
    unfold FileType.Format.ofName? at h
    have hName := List.find?_some h
    exact (beq_iff_eq.1 hName).symm
  · rintro rfl
    cases format <;> rfl

theorem formatOf_ofParts {flags : List String}
    (h : Declaration.Takes ⟨flags, [formatOption], positionals⟩ texts parts) :
    formatOf (Arguments.ofParts parts) = format ↔ AskFor parts format := by
  have hValue : ∀ value, (Arguments.ofParts parts).value? "format" = some value ↔
      .value "format" value ∈ parts :=
    fun _ => Arguments.value?_ofParts h.fits
  unfold formatOf AskFor
  simp only [← hValue]
  cases hGiven : (Arguments.ofParts parts).value? "format" with
  | none => simp [eq_comm]
  | some value =>
    obtain ⟨option, hOption, -, hAccepts⟩ := h.reads.accepts ((hValue value).1 hGiven)
    obtain rfl := List.mem_singleton.1 hOption
    obtain ⟨given, hName⟩ := Option.isSome_iff_exists.1 hAccepts
    rw [Option.bind_some, hName, Option.getD_some, Option.some.injEq, ← format_ofName?_eq_some_iff, hName]
    simp

/-! ## Names of commands -/

/-- The text that names the command. -/
def Name.text : Name → String
  | options => "options"
  | fileTypes => "file-types"
  | lookup => "lookup"
  | validate => "validate"
  | help => "help"

theorem Name.ofText?_eq_some_iff {text : String} {name : Name} :
    ofText? text = some name ↔ text = name.text := by
  unfold ofText?
  split <;> cases name <;> simp_all [Name.text]

variable {command : Command}

theorem parse_cons (name : Name) (texts : List String) : parse (name.text :: texts) = parseNamed name texts := by
  cases name <;> rfl

/-- Where the first argument names no command, the command line is not accepted. -/
theorem exists_name_of_parse (h : parse arguments = .ok command) :
    ∃ name texts, arguments = Name.text name :: texts ∧ parseNamed name texts = .ok command := by
  cases arguments with
  | nil => cases h
  | cons text texts =>
    cases hName : Name.ofText? text with
    | some name =>
      obtain rfl := Name.ofText?_eq_some_iff.1 hName
      exact ⟨name, texts, rfl, parse_cons name texts ▸ h⟩
    | none =>
      simp only [parse, hName] at h
      split at h <;> (try split at h) <;> (try split at h) <;> cases h

theorem positionals_ofParts {declaration : Declaration} {name : String} (h : declaration.Takes texts parts)
    (hOne : declaration.positionals = 1) :
    (Arguments.ofParts parts).positionals.headD "" = name ↔ .positional name ∈ parts := by
  obtain ⟨only, hOnly⟩ := List.length_eq_one_iff.1 (h.positionals.trans hOne)
  rw [← Arguments.positional_mem_ofParts, hOnly, List.headD_cons, List.mem_singleton, eq_comm]

theorem isSaid_of_parse (h : parse arguments = .ok command) : IsSaid arguments command := by
  obtain ⟨name, texts, rfl, h⟩ := exists_name_of_parse h
  cases name with
  | options =>
    obtain ⟨said, hParse, heq⟩ := bind_eq_ok_iff.1 h
    obtain ⟨parts, hTakes, rfl⟩ := (Arguments.parse_eq_ok_iff wellFormed_options).1 hParse
    cases heq
    exact .options hTakes Arguments.hasFlag_ofParts fun path => Arguments.value?_ofParts hTakes.fits
  | fileTypes =>
    obtain ⟨said, hParse, heq⟩ := bind_eq_ok_iff.1 h
    obtain ⟨parts, hTakes, rfl⟩ := (Arguments.parse_eq_ok_iff wellFormed_format).1 hParse
    cases heq
    exact .fileTypes hTakes ((formatOf_ofParts hTakes).1 rfl)
  | lookup =>
    obtain ⟨said, hParse, heq⟩ := bind_eq_ok_iff.1 h
    obtain ⟨parts, hTakes, rfl⟩ := (Arguments.parse_eq_ok_iff wellFormed_format).1 hParse
    cases heq
    exact .lookup hTakes ((positionals_ofParts hTakes rfl).1 rfl) ((formatOf_ofParts hTakes).1 rfl)
  | validate =>
    obtain ⟨said, hParse, heq⟩ := bind_eq_ok_iff.1 h
    obtain ⟨parts, hTakes, rfl⟩ := (Arguments.parse_eq_ok_iff wellFormed_empty).1 hParse
    cases heq
    exact .validate hTakes
  | help => exact absurd h throw_ne_ok

theorem parse_of_isSaid (h : IsSaid arguments command) : parse arguments = .ok command := by
  cases h with
  | @options texts parts includeHidden settingsPath hTakes hHidden hPath =>
    have hParse := (Arguments.parse_eq_ok_iff wellFormed_options).2 ⟨_, hTakes, rfl⟩
    have hHidden : (Arguments.ofParts parts).hasFlag "hidden" = includeHidden :=
      Bool.eq_iff_iff.2 (Arguments.hasFlag_ofParts.trans hHidden.symm)
    have hPath : (Arguments.ofParts parts).value? "config" = settingsPath :=
      Option.ext fun path => (Arguments.value?_ofParts hTakes.fits).trans (hPath path).symm
    refine bind_eq_ok_iff.2 ⟨_, hParse, ?_⟩
    rw [pure_eq_ok_iff, hHidden, hPath]
  | fileTypes hTakes hFormat =>
    have hParse := (Arguments.parse_eq_ok_iff wellFormed_format).2 ⟨_, hTakes, rfl⟩
    refine bind_eq_ok_iff.2 ⟨_, hParse, ?_⟩
    rw [pure_eq_ok_iff, (formatOf_ofParts hTakes).2 hFormat]
  | lookup hTakes hName hFormat =>
    have hParse := (Arguments.parse_eq_ok_iff wellFormed_format).2 ⟨_, hTakes, rfl⟩
    refine bind_eq_ok_iff.2 ⟨_, hParse, ?_⟩
    rw [pure_eq_ok_iff, (formatOf_ofParts hTakes).2 hFormat, (positionals_ofParts hTakes rfl).2 hName]
  | validate hTakes =>
    have hParse := (Arguments.parse_eq_ok_iff wellFormed_empty).2 ⟨_, hTakes, rfl⟩
    exact bind_eq_ok_iff.2 ⟨_, hParse, rfl⟩

theorem parse_eq_ok_iff : parse arguments = .ok command ↔ IsSaid arguments command :=
  ⟨isSaid_of_parse, parse_of_isSaid⟩

end Command

end CompilerDriver.CommandLine
