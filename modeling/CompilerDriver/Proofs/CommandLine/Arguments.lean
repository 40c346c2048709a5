import CompilerDriver.CommandLine.Arguments
import CompilerDriver.Proofs.Basic
import Mathlib.Data.List.Nodup
import Mathlib.Tactic.SplitIfs
/-!
# What an accepted command line says

A command line says something in parts: flags, options with their values, and positional arguments. `Reads` says
how texts are cut into parts, without the order in which they are checked. The reader holds back what it has
not checked yet; what it holds counts as said (`Reader.said`), so that each step adds one part at most
(`step_eq_ok_iff`). So a command line is accepted just if it can be cut into parts of which no flag and no option
is given twice, and which have all positional arguments (`parse_eq_ok_iff`).
-/

namespace CompilerDriver.CommandLine

/-! ## Words -/

/-- A text that can be a value apart from its option, or a positional argument before the two dashes. -/
def IsPlain (text : String) : Prop :=
  text = "-" ∨ text.toList.head? ≠ some '-'

/-- A text that can be the name of a flag or an option. -/
def IsName (name : String) : Prop :=
  name ≠ "" ∧ '=' ∉ name.toList

namespace Word

variable {text name value : String}

theorem ofText_of_toList {rest : List Char} (hText : text.toList = '-' :: '-' :: rest) (hRest : rest ≠ []) :
    ofText text =
      match rest.dropWhile (· ≠ '=') with
      | [] => .long (String.ofList (rest.takeWhile (· ≠ '='))) none
      | _ :: value => .long (String.ofList (rest.takeWhile (· ≠ '='))) (some (String.ofList value)) := by
  unfold ofText
  rw [hText]
  cases rest with
  | nil => exact absurd rfl hRest
  | cons c rest => rfl

theorem ne_mark {cs : List Char} (h : '=' ∉ cs) : ∀ c ∈ cs, decide (c ≠ '=') = true := by
  intro c hc
  exact decide_eq_true (fun heq => h (heq ▸ hc))

theorem ofText_name (h : IsName name) : ofText ("--" ++ name) = .long name none := by
  have hText : ("--" ++ name).toList = '-' :: '-' :: name.toList := by simp
  rw [ofText_of_toList hText (by simpa using h.1), ← name.toList.append_nil,
    List.dropWhile_append_of_pos (ne_mark h.2), List.takeWhile_append_of_pos (ne_mark h.2)]
  simp

theorem ofText_joined (h : '=' ∉ name.toList) :
    ofText ("--" ++ name ++ "=" ++ value) = .long name (some value) := by
  have hText : ("--" ++ name ++ "=" ++ value).toList = '-' :: '-' :: (name.toList ++ '=' :: value.toList) := by
    simp
  rw [ofText_of_toList hText (by simp), List.dropWhile_append_of_pos (ne_mark h),
    List.takeWhile_append_of_pos (ne_mark h)]
  simp

theorem ofText_plain (h : IsPlain text) : ofText text = .plain text := by
  unfold ofText
  rcases h with rfl | h
  · decide
  · split <;> simp_all

/-- The texts that are seen as the word. -/
def IsText (text : String) : Word → Prop
  | .separator => text = "--"
  | .long name none => text = "--" ++ name ∧ IsName name
  | .long name (some value) => text = "--" ++ name ++ "=" ++ value ∧ '=' ∉ name.toList
  | .short _ => True
  | .plain shown => shown = text ∧ IsPlain text

theorem isText_ofText_of_dashes {rest : List Char} (h : text.toList = '-' :: '-' :: rest) :
    IsText text (ofText text) := by
  by_cases hRest : rest = []
  · obtain rfl : text = "--" := by
      rw [← String.toList_inj, h, hRest]
      rfl
    exact (show IsText "--" separator from rfl)
  by_cases hMark : '=' ∈ rest
  · obtain ⟨name, value, rfl, hName⟩ := List.eq_append_cons_of_mem hMark
    obtain rfl : text = "--" ++ String.ofList name ++ "=" ++ String.ofList value := by
      rw [← String.toList_inj, h]
      simp
    have hName : '=' ∉ (String.ofList name).toList := by rwa [String.toList_ofList]
    rw [ofText_joined hName]
    exact ⟨rfl, hName⟩
  · obtain rfl : text = "--" ++ String.ofList rest := by
      rw [← String.toList_inj, h]
      simp
    have hName : IsName (String.ofList rest) := ⟨by simpa using hRest, by rwa [String.toList_ofList]⟩
    rw [ofText_name hName]
    exact ⟨rfl, hName⟩

theorem isText_ofText (text : String) : IsText text (ofText text) := by
  by_cases hDashes : ∃ rest, text.toList = '-' :: '-' :: rest
  · obtain ⟨rest, h⟩ := hDashes
    exact isText_ofText_of_dashes h
  · unfold ofText
    split
    · next h => exact absurd ⟨_, h⟩ hDashes
    · next h => exact absurd ⟨_, h⟩ hDashes
    · trivial
    · next hShort =>
      refine ⟨rfl, ?_⟩
      rw [IsPlain, ← String.toList_inj]
      cases hText : text.toList with
      | nil => exact .inr nofun
      | cons first rest =>
        by_cases hFirst : first = '-'
        · subst hFirst
          cases rest with
          | nil => exact .inl rfl
          | cons second rest => exact absurd hText (hShort second rest)
        · exact .inr (by simpa using hFirst)

end Word

/-! ## Parts -/

/-- What a part of a command line says. -/
inductive Part where
  | flag (name : String)
  | value (name value : String)
  | positional (text : String)
  deriving DecidableEq, Repr

namespace Declaration

/-- There is an option with the name. -/
def HasOption (declaration : Declaration) (name : String) : Prop :=
  ∃ option ∈ declaration.options, option.name = name

/-- There is an option with the name that accepts the value. -/
def Accepts (declaration : Declaration) (name value : String) : Prop :=
  ∃ option ∈ declaration.options, option.name = name ∧ option.accepts value = true

theorem Accepts.hasOption {declaration : Declaration} {name value : String} (h : declaration.Accepts name value) :
    declaration.HasOption name := by
  obtain ⟨option, hOption, hName, -⟩ := h
  exact ⟨option, hOption, hName⟩

/-- Every name can be one, and no flag has the name of an option or asks for help. -/
structure WellFormed (declaration : Declaration) : Prop where
  flags : ∀ name ∈ declaration.flags, IsName name ∧ ¬ declaration.HasOption name ∧ name ≠ "help"
  options : ∀ option ∈ declaration.options, IsName option.name

/-- The texts are cut into the parts, where `behind` says that the two dashes have come. -/
inductive Reads (declaration : Declaration) : Bool → List String → List Part → Prop
  | nil {behind} : Reads declaration behind [] []
  | flag {name texts parts} : name ∈ declaration.flags → Reads declaration false texts parts →
      Reads declaration false (("--" ++ name) :: texts) (.flag name :: parts)
  | joined {name value texts parts} : declaration.Accepts name value →
      Reads declaration false texts parts →
      Reads declaration false (("--" ++ name ++ "=" ++ value) :: texts) (.value name value :: parts)
  | apart {name value texts parts} : declaration.Accepts name value → IsPlain value →
      Reads declaration false texts parts →
      Reads declaration false (("--" ++ name) :: value :: texts) (.value name value :: parts)
  | separator {texts parts} : Reads declaration true texts parts →
      Reads declaration false ("--" :: texts) parts
  | positional {behind text texts parts} : behind = true ∨ IsPlain text →
      Reads declaration behind texts parts →
      Reads declaration behind (text :: texts) (.positional text :: parts)

end Declaration

theorem Declaration.Reads.accepts {declaration : Declaration} {behind : Bool} {texts : List String}
    {parts : List Part} {name value : String} (h : declaration.Reads behind texts parts)
    (hMem : .value name value ∈ parts) : declaration.Accepts name value := by
  induction h with
  | nil => cases hMem
  | joined hAccepts _ ih | apart hAccepts _ _ ih =>
    rcases List.mem_cons.1 hMem with heq | hMem
    · cases heq
      exact hAccepts
    · exact ih hMem
  | separator _ ih => exact ih hMem
  | flag _ _ ih | positional _ _ ih =>
    rcases List.mem_cons.1 hMem with heq | hMem
    · cases heq
    · exact ih hMem

/-! ## What parts say together -/

namespace Arguments

/-- The arguments with one more part. -/
def add (arguments : Arguments) : Part → Arguments
  | .flag name => { arguments with flags := name :: arguments.flags }
  | .value name value => { arguments with values := (name, value) :: arguments.values }
  | .positional text => { arguments with positionals := arguments.positionals ++ [text] }

/-- What the parts say. -/
def ofParts (parts : List Part) : Arguments :=
  parts.foldl add none

/-- No flag and no option is given twice, and there are not too many positional arguments. -/
structure Fits (declaration : Declaration) (arguments : Arguments) : Prop where
  flags : arguments.flags.Nodup
  values : (arguments.values.map (·.1)).Nodup
  positionals : arguments.positionals.length ≤ declaration.positionals

variable {declaration : Declaration} {arguments : Arguments} {part : Part} {parts : List Part}
  {name value text : String}

theorem fits_none : Fits declaration none :=
  ⟨List.nodup_nil, List.nodup_nil, Nat.zero_le _⟩

theorem fits_add_flag_iff :
    (arguments.add (.flag name)).Fits declaration ↔ name ∉ arguments.flags ∧ arguments.Fits declaration := by
  constructor
  · rintro ⟨hFlags, hValues, hPositionals⟩
    obtain ⟨hNew, hFlags⟩ := List.nodup_cons.1 hFlags
    exact ⟨hNew, hFlags, hValues, hPositionals⟩
  · rintro ⟨hNew, hFlags, hValues, hPositionals⟩
    exact ⟨List.nodup_cons.2 ⟨hNew, hFlags⟩, hValues, hPositionals⟩

theorem fits_add_value_iff :
    (arguments.add (.value name value)).Fits declaration ↔
      name ∉ arguments.values.map (·.1) ∧ arguments.Fits declaration := by
  constructor
  · rintro ⟨hFlags, hValues, hPositionals⟩
    obtain ⟨hNew, hValues⟩ := List.nodup_cons.1 hValues
    exact ⟨hNew, hFlags, hValues, hPositionals⟩
  · rintro ⟨hNew, hFlags, hValues, hPositionals⟩
    exact ⟨hFlags, List.nodup_cons.2 ⟨hNew, hValues⟩, hPositionals⟩

theorem fits_add_positional_iff :
    (arguments.add (.positional text)).Fits declaration ↔
      arguments.positionals.length < declaration.positionals ∧ arguments.Fits declaration := by
  have hLength : (arguments.add (.positional text)).positionals.length = arguments.positionals.length + 1 := by
    simp [add]
  constructor
  · rintro ⟨hFlags, hValues, hPositionals⟩
    rw [hLength] at hPositionals
    exact ⟨hPositionals, hFlags, hValues, Nat.le_of_succ_le hPositionals⟩
  · rintro ⟨hMore, hFlags, hValues, -⟩
    exact ⟨hFlags, hValues, hLength ▸ hMore⟩

theorem fits_of_add (h : (arguments.add part).Fits declaration) : arguments.Fits declaration := by
  cases part with
  | flag name => exact (fits_add_flag_iff.1 h).2
  | value name value => exact (fits_add_value_iff.1 h).2
  | positional text => exact (fits_add_positional_iff.1 h).2

theorem fits_of_foldl_add (h : (parts.foldl add arguments).Fits declaration) :
    arguments.Fits declaration := by
  induction parts generalizing arguments with
  | nil => exact h
  | cons part parts ih => exact fits_of_add (ih h)

/-- What only one part says, all parts together say just if that part is among them. -/
theorem ofParts_iff (isSaid : Arguments → Prop) (hNone : ¬ isSaid none)
    (hAdd : ∀ said next, isSaid (add said next) ↔ isSaid said ∨ next = part) :
    isSaid (ofParts parts) ↔ part ∈ parts := by
  have hFold : ∀ said, isSaid (parts.foldl add said) ↔ isSaid said ∨ part ∈ parts := by
    induction parts with
    | nil => simp
    | cons next parts ih =>
      intro said
      rw [List.foldl_cons, ih, hAdd, or_assoc, List.mem_cons, eq_comm]
  rw [ofParts, hFold, or_iff_right hNone]

theorem flag_mem_ofParts : name ∈ (ofParts parts).flags ↔ .flag name ∈ parts := by
  apply ofParts_iff (fun said => name ∈ said.flags) List.not_mem_nil
  intro said next
  cases next <;> simp [add, or_comm, eq_comm]

theorem value_mem_ofParts : (name, value) ∈ (ofParts parts).values ↔ .value name value ∈ parts := by
  apply ofParts_iff (fun said => (name, value) ∈ said.values) List.not_mem_nil
  intro said next
  cases next <;> simp [add, or_comm, eq_comm]

theorem positional_mem_ofParts : text ∈ (ofParts parts).positionals ↔ .positional text ∈ parts := by
  apply ofParts_iff (fun said => text ∈ said.positionals) List.not_mem_nil
  intro said next
  cases next <;> simp [add, eq_comm]

theorem value?_eq_none_iff : arguments.value? name = Option.none ↔ name ∉ arguments.values.map (·.1) := by
  rw [value?, Option.map_eq_none_iff, List.find?_eq_none]
  simp only [List.mem_map, not_exists, not_and, beq_iff_eq]

/-- Where no option is given twice, its value is the one it is given with. -/
theorem value?_eq_some_iff (h : arguments.Fits declaration) :
    arguments.value? name = some value ↔ (name, value) ∈ arguments.values := by
  rw [value?, Option.map_eq_some_iff]
  constructor
  · rintro ⟨pair, hFound, rfl⟩
    obtain rfl : pair.1 = name := by simpa using List.find?_some hFound
    exact List.mem_of_find?_eq_some hFound
  · intro hMem
    have hFound : arguments.values.find? (fun pair => pair.1 == name) = some (name, value) := by
      refine find?_of_unique hMem (beq_self_eq_true _) ?_
      intro pair hPair hName
      exact List.inj_on_of_nodup_map h.values hPair hMem (eq_of_beq hName)
    exact ⟨_, hFound, rfl⟩

theorem hasFlag_ofParts : (ofParts parts).hasFlag name = true ↔ .flag name ∈ parts := by
  rw [hasFlag, List.contains_iff_mem, flag_mem_ofParts]

theorem value?_ofParts (h : (ofParts parts).Fits declaration) :
    (ofParts parts).value? name = some value ↔ .value name value ∈ parts := by
  rw [value?_eq_some_iff h, value_mem_ofParts]

end Arguments

/-! ## One step of the reader -/

namespace Reader

variable {declaration : Declaration} {r s : Reader} {name value text : String}

/-- What was said so far, with what is held back. -/
def said (r : Reader) : Arguments :=
  match r.held with
  | .option name (some value) => r.arguments.add (.value name value)
  | .positional text => r.arguments.add (.positional text)
  | _ => r.arguments

/-- What is held back passes its checks. -/
def CanSettle (declaration : Declaration) (r : Reader) : Prop :=
  match r.held with
  | .option _ none => False
  | .option name (some value) =>
    name ∉ r.arguments.values.map (·.1) ∧ declaration.Accepts name value
  | _ => True

theorem any_name_eq_true_iff :
    declaration.options.any (fun option => option.name == name) = true ↔ declaration.HasOption name := by
  simp [Declaration.HasOption]

theorem any_accepts_eq_true_iff :
    declaration.options.any (fun option => option.name == name && option.accepts value) = true ↔
      declaration.Accepts name value := by
  simp [Declaration.Accepts]

theorem addValue_eq_ok_iff : r.addValue declaration name value = .ok s ↔
    (name ∉ r.arguments.values.map (·.1) ∧ declaration.Accepts name value) ∧
      { r with arguments := r.arguments.add (.value name value) } = s := by
  rw [← any_accepts_eq_true_iff, ← Arguments.value?_eq_none_iff, addValue]
  split_ifs with hGiven hAccepts
  · simp [Option.isSome_iff_ne_none.1 hGiven]
  · rw [Option.not_isSome_iff_eq_none] at hGiven
    simp [hGiven, hAccepts, Arguments.add]
  · simp [hAccepts]

theorem settle_eq_ok_iff : r.settle declaration = .ok s ↔
    r.CanSettle declaration ∧ ⟨r.said, .nothing, r.afterSeparator⟩ = s := by
  unfold settle CanSettle said
  cases hHeld : r.held with
  | nothing => simp
  | option name value =>
    cases value with
    | none => simp
    | some value => simp [addValue_eq_ok_iff]
  | positional text => simp [Arguments.add]

theorem settle_bind_eq_ok_iff {α : Type} {f : Reader → Except UsageError α} {a : α} :
    r.settle declaration >>= f = .ok a ↔
      r.CanSettle declaration ∧ f ⟨r.said, .nothing, r.afterSeparator⟩ = .ok a := by
  simp only [bind_eq_ok_iff, settle_eq_ok_iff, and_assoc, exists_and_left, exists_eq_left']

theorem positionalCount_eq (h : r.CanSettle declaration) : r.positionalCount = r.said.positionals.length := by
  unfold positionalCount said
  unfold CanSettle at h
  cases hHeld : r.held with
  | nothing => rfl
  | option name value =>
    cases value with
    | none => simp [hHeld] at h
    | some value => rfl
  | positional text => simp [Arguments.add]

theorem positional_eq_ok_iff : r.positional declaration text = .ok s ↔
    r.CanSettle declaration ∧ r.said.positionals.length < declaration.positionals ∧
      ⟨r.said, .positional text, r.afterSeparator⟩ = s := by
  have hCount : r.CanSettle declaration → (r.positionalCount < declaration.positionals ↔
      r.said.positionals.length < declaration.positionals) := by
    intro h
    rw [positionalCount_eq h]
  unfold positional
  split_ifs with hMore
  · rw [settle_bind_eq_ok_iff, pure_eq_ok_iff]
    grind
  · rw [false_iff]
    grind

theorem long_some_eq_ok_iff : r.long declaration name (some value) = .ok s ↔
    r.CanSettle declaration ∧ (name ∉ r.said.values.map (·.1) ∧ declaration.Accepts name value) ∧
      ⟨r.said.add (.value name value), .nothing, r.afterSeparator⟩ = s := by
  unfold long
  simp only [Option.isSome_some, if_true, throw_bind]
  split_ifs with hKnown
  · rw [settle_bind_eq_ok_iff, addValue_eq_ok_iff]
  all_goals
    rw [any_name_eq_true_iff] at hKnown
    rw [false_iff]
    exact fun h => hKnown h.2.1.2.hasOption

theorem long_none_eq_ok_iff (h : declaration.WellFormed) : r.long declaration name none = .ok s ↔
    r.CanSettle declaration ∧
      (declaration.HasOption name ∧ ⟨r.said, .option name none, r.afterSeparator⟩ = s ∨
        (name ∈ declaration.flags ∧ name ∉ r.said.flags) ∧
          ⟨r.said.add (.flag name), .nothing, r.afterSeparator⟩ = s) := by
  have hFlags := h.flags name
  unfold long
  simp only [Option.isSome_none, if_false, throw_bind, Bool.false_eq_true]
  split_ifs with hKnown hGiven hHelp <;> rw [any_name_eq_true_iff] at hKnown
  · rw [settle_bind_eq_ok_iff, pure_eq_ok_iff]
    grind
  · rw [settle_bind_eq_ok_iff]
    simp only [throw_ne_ok, and_false, false_iff]
    grind
  · have hFlag : name ∈ declaration.flags := hGiven.resolve_left hHelp
    have hNew : (r.said.hasFlag name = true) ↔ name ∈ r.said.flags := List.contains_iff_mem
    rw [settle_bind_eq_ok_iff]
    split_ifs with hRepeated
    · grind
    · rw [pure_eq_ok_iff]
      grind [Arguments.add]
  · rw [false_iff]
    grind

/-- The steps that the reader takes with a text. -/
inductive Steps (declaration : Declaration) (r : Reader) : String → Reader → Prop
  | separator : r.afterSeparator = false → Steps declaration r "--" { r with afterSeparator := true }
  | joined {name value : String} : r.afterSeparator = false → r.CanSettle declaration →
      name ∉ r.said.values.map (·.1) → declaration.Accepts name value →
      Steps declaration r ("--" ++ name ++ "=" ++ value)
        ⟨r.said.add (.value name value), .nothing, r.afterSeparator⟩
  | name {name : String} : r.afterSeparator = false → r.CanSettle declaration →
      declaration.HasOption name →
      Steps declaration r ("--" ++ name) ⟨r.said, .option name none, r.afterSeparator⟩
  | value {name value : String} : r.afterSeparator = false → r.held = .option name none →
      IsPlain value → Steps declaration r value { r with held := .option name (some value) }
  | flag {name : String} : r.afterSeparator = false → r.CanSettle declaration →
      name ∈ declaration.flags → name ∉ r.said.flags →
      Steps declaration r ("--" ++ name) ⟨r.said.add (.flag name), .nothing, r.afterSeparator⟩
  | positional {text : String} : r.afterSeparator = true ∨ IsPlain text → r.CanSettle declaration →
      r.said.positionals.length < declaration.positionals →
      Steps declaration r text ⟨r.said, .positional text, r.afterSeparator⟩

theorem steps_of_step (h : declaration.WellFormed) (hStep : r.step declaration text = .ok s) :
    Steps declaration r text s := by
  unfold step at hStep
  split at hStep
  · next hBehind =>
    obtain ⟨hSettle, hCount, rfl⟩ := positional_eq_ok_iff.1 hStep
    exact .positional (.inl hBehind) hSettle hCount
  next hBehind =>
  rw [Bool.not_eq_true] at hBehind
  have hText := Word.isText_ofText text
  cases hWord : Word.ofText text with
  | separator =>
    rw [hWord] at hStep hText
    cases hStep
    obtain rfl : text = "--" := hText
    exact .separator hBehind
  | long name value =>
    rw [hWord] at hStep hText
    cases value with
    | some value =>
      obtain ⟨rfl, -⟩ : text = "--" ++ name ++ "=" ++ value ∧ _ := hText
      obtain ⟨hSettle, ⟨hNew, hAccepts⟩, rfl⟩ := long_some_eq_ok_iff.1 hStep
      exact .joined hBehind hSettle hNew hAccepts
    | none =>
      obtain ⟨rfl, -⟩ : text = "--" ++ name ∧ _ := hText
      obtain ⟨hSettle, ⟨hOption, rfl⟩ | ⟨⟨hFlag, hNew⟩, rfl⟩⟩ := (long_none_eq_ok_iff h).1 hStep
      · exact .name hBehind hSettle hOption
      · exact .flag hBehind hSettle hFlag hNew
  | short first =>
    rw [hWord] at hStep
    simp only [throw_bind] at hStep
    split_ifs at hStep
    exact absurd (settle_bind_eq_ok_iff.1 hStep).2 throw_ne_ok
  | plain shown =>
    rw [hWord] at hStep hText
    obtain ⟨rfl, hPlain⟩ := hText
    dsimp only at hStep
    split at hStep
    · next name hHeld =>
      cases hStep
      exact .value hBehind hHeld hPlain
    · obtain ⟨hSettle, hCount, rfl⟩ := positional_eq_ok_iff.1 hStep
      exact .positional (.inr hPlain) hSettle hCount

theorem not_canSettle (h : r.held = .option name none) : ¬ r.CanSettle declaration := by
  simp [CanSettle, h]

theorem step_of_steps (h : declaration.WellFormed) (hSteps : Steps declaration r text s) :
    r.step declaration text = .ok s := by
  unfold step
  cases hSteps with
  | separator hBehind =>
    have hWord : Word.ofText "--" = .separator := by decide
    rw [if_neg (Bool.eq_false_iff.1 hBehind), hWord]
  | @joined name value hBehind hSettle hNew hAccepts =>
    have hName : '=' ∉ name.toList := by
      obtain ⟨option, hOption, rfl, -⟩ := hAccepts
      exact (h.options option hOption).2
    rw [if_neg (Bool.eq_false_iff.1 hBehind), Word.ofText_joined hName]
    exact long_some_eq_ok_iff.2 ⟨hSettle, ⟨hNew, hAccepts⟩, rfl⟩
  | @name name hBehind hSettle hOption =>
    have hName : IsName name := by
      obtain ⟨option, hOption, rfl⟩ := hOption
      exact h.options option hOption
    rw [if_neg (Bool.eq_false_iff.1 hBehind), Word.ofText_name hName]
    exact (long_none_eq_ok_iff h).2 ⟨hSettle, .inl ⟨hOption, rfl⟩⟩
  | value hBehind hHeld hPlain =>
    rw [if_neg (Bool.eq_false_iff.1 hBehind), Word.ofText_plain hPlain, hHeld]
  | @flag name hBehind hSettle hFlag hNew =>
    rw [if_neg (Bool.eq_false_iff.1 hBehind), Word.ofText_name (h.flags name hFlag).1]
    exact (long_none_eq_ok_iff h).2 ⟨hSettle, .inr ⟨⟨hFlag, hNew⟩, rfl⟩⟩
  | positional hPlain hSettle hCount =>
    have hPositional : r.positional declaration text = .ok ⟨r.said, .positional text, r.afterSeparator⟩ :=
      positional_eq_ok_iff.2 ⟨hSettle, hCount, rfl⟩
    split
    · exact hPositional
    · next hBehind =>
      rw [Word.ofText_plain (hPlain.resolve_left hBehind)]
      dsimp only
      split
      · next name hHeld => exact absurd hSettle (not_canSettle hHeld)
      · exact hPositional

/-- A step is accepted just if it is one that the reader takes. -/
theorem step_eq_ok_iff (h : declaration.WellFormed) :
    r.step declaration text = .ok s ↔ Steps declaration r text s :=
  ⟨steps_of_step h, step_of_steps h⟩

/-! ## Reading all texts -/

/-- Reads the texts and then settles what is held back. -/
def finish (declaration : Declaration) (r : Reader) (texts : List String) : Except UsageError Arguments := do
  let r ← texts.foldlM (step declaration) r
  let r ← r.settle declaration
  return r.arguments

variable {arguments : Arguments} {texts : List String} {parts : List Part} {behind : Bool}

theorem finish_nil_eq_ok_iff : r.finish declaration [] = .ok arguments ↔
    r.CanSettle declaration ∧ r.said = arguments := by
  rw [finish, List.foldlM_nil, pure_bind, settle_bind_eq_ok_iff, pure_eq_ok_iff]

theorem finish_cons_eq_ok_iff (h : declaration.WellFormed) :
    r.finish declaration (text :: texts) = .ok arguments ↔
      ∃ s, Steps declaration r text s ∧ s.finish declaration texts = .ok arguments := by
  rw [finish, List.foldlM_cons, bind_assoc, bind_eq_ok_iff]
  simp only [step_eq_ok_iff h]
  rfl

/-- Where parts can be read, the reader ends with what they say, unless that does not fit together. -/
theorem finish_of_reads (h : declaration.WellFormed) (hReads : declaration.Reads behind texts parts)
    (hBehind : r.afterSeparator = behind) (hSettle : r.CanSettle declaration)
    (hFits : (parts.foldl Arguments.add r.said).Fits declaration) :
    r.finish declaration texts = .ok (parts.foldl Arguments.add r.said) := by
  induction hReads generalizing r with
  | nil => exact finish_nil_eq_ok_iff.2 ⟨hSettle, rfl⟩
  | flag hFlag hReads ih =>
    have hNew := (Arguments.fits_add_flag_iff.1 (Arguments.fits_of_foldl_add hFits)).1
    exact (finish_cons_eq_ok_iff h).2 ⟨_, .flag hBehind hSettle hFlag hNew, ih hBehind trivial hFits⟩
  | joined hAccepts hReads ih =>
    have hNew := (Arguments.fits_add_value_iff.1 (Arguments.fits_of_foldl_add hFits)).1
    exact (finish_cons_eq_ok_iff h).2
      ⟨_, .joined hBehind hSettle hNew hAccepts, ih hBehind trivial hFits⟩
  | apart hAccepts hPlain hReads ih =>
    have hNew := (Arguments.fits_add_value_iff.1 (Arguments.fits_of_foldl_add hFits)).1
    refine (finish_cons_eq_ok_iff h).2 ⟨_, .name hBehind hSettle hAccepts.hasOption, ?_⟩
    refine (finish_cons_eq_ok_iff h).2 ⟨_, .value hBehind rfl hPlain, ?_⟩
    exact ih hBehind ⟨hNew, hAccepts⟩ hFits
  | separator hReads ih =>
    exact (finish_cons_eq_ok_iff h).2 ⟨_, .separator hBehind, ih rfl hSettle hFits⟩
  | positional hPlain hReads ih =>
    have hCount := (Arguments.fits_add_positional_iff.1 (Arguments.fits_of_foldl_add hFits)).1
    exact (finish_cons_eq_ok_iff h).2
      ⟨_, .positional (hBehind ▸ hPlain) hSettle hCount, ih hBehind trivial hFits⟩

/-- An option that waits for its value gets the next text, and none behind the two dashes. -/
theorem finish_pending (h : declaration.WellFormed) (hHeld : r.held = .option name none)
    (hFinish : r.finish declaration texts = .ok arguments) :
    ∃ value rest, texts = value :: rest ∧ r.afterSeparator = false ∧ IsPlain value ∧
      finish declaration { r with held := .option name (some value) } rest = .ok arguments := by
  have hWaits : ¬ r.CanSettle declaration := not_canSettle hHeld
  induction texts generalizing r with
  | nil => exact absurd (finish_nil_eq_ok_iff.1 hFinish).1 hWaits
  | cons text texts ih =>
    obtain ⟨s, hSteps, hRest⟩ := (finish_cons_eq_ok_iff h).1 hFinish
    cases hSteps with
    | separator hBehind =>
      -- behind the dashes no text is a value any more
      obtain ⟨_, _, _, hFront, -⟩ := ih (r := { r with afterSeparator := true }) hHeld hRest hWaits
      cases hFront
    | value hBehind hHeld' hPlain =>
      cases hHeld.symm.trans hHeld'
      exact ⟨text, texts, rfl, hBehind, hPlain, hRest⟩
    | joined _ hSettle | name _ hSettle | flag _ hSettle | positional _ hSettle =>
      exact absurd hSettle hWaits

/-- The reader ends only with what the parts say that the texts are cut into. -/
theorem reads_of_finish {r : Reader} {texts : List String} (h : declaration.WellFormed)
    (hHeld : ∀ name, r.held ≠ .option name none) (hFinish : r.finish declaration texts = .ok arguments) :
    r.CanSettle declaration ∧ ∃ parts, declaration.Reads r.afterSeparator texts parts ∧
      parts.foldl Arguments.add r.said = arguments ∧
      (r.said.Fits declaration → arguments.Fits declaration) := by
  match texts with
  | [] =>
    obtain ⟨hSettle, rfl⟩ := finish_nil_eq_ok_iff.1 hFinish
    exact ⟨hSettle, [], .nil, rfl, id⟩
  | text :: texts =>
    obtain ⟨s, hSteps, hRest⟩ := (finish_cons_eq_ok_iff h).1 hFinish
    cases hSteps with
    | separator hBehind =>
      obtain ⟨hSettle, parts, hReads, hSaid, hFits⟩ :=
        reads_of_finish (r := { r with afterSeparator := true }) h hHeld hRest
      exact ⟨hSettle, parts, hBehind ▸ .separator hReads, hSaid, hFits⟩
    | joined hBehind hSettle hNew hAccepts =>
      obtain ⟨-, parts, hReads, hSaid, hFits⟩ := reads_of_finish h (by simp) hRest
      rw [hBehind] at hReads ⊢
      exact ⟨hSettle, _, .joined hAccepts hReads, hSaid,
        fun hBefore => hFits (Arguments.fits_add_value_iff.2 ⟨hNew, hBefore⟩)⟩
    | name hBehind hSettle hOption =>
      -- the reading goes on two texts further on, behind the value
      obtain ⟨value, rest, rfl, -, hPlain, hRest⟩ := finish_pending h rfl hRest
      obtain ⟨⟨hNew, hAccepts⟩, parts, hReads, hSaid, hFits⟩ := reads_of_finish h (by simp) hRest
      rw [hBehind] at hReads ⊢
      exact ⟨hSettle, _, .apart hAccepts hPlain hReads, hSaid,
        fun hBefore => hFits (Arguments.fits_add_value_iff.2 ⟨hNew, hBefore⟩)⟩
    | value hBehind hHeld' hPlain => exact absurd hHeld' (hHeld _)
    | flag hBehind hSettle hFlag hNew =>
      obtain ⟨-, parts, hReads, hSaid, hFits⟩ := reads_of_finish h (by simp) hRest
      rw [hBehind] at hReads ⊢
      exact ⟨hSettle, _, .flag hFlag hReads, hSaid,
        fun hBefore => hFits (Arguments.fits_add_flag_iff.2 ⟨hNew, hBefore⟩)⟩
    | positional hPlain hSettle hCount =>
      obtain ⟨-, parts, hReads, hSaid, hFits⟩ := reads_of_finish h (by simp) hRest
      exact ⟨hSettle, _, .positional hPlain hReads, hSaid,
        fun hBefore => hFits (Arguments.fits_add_positional_iff.2 ⟨hCount, hBefore⟩)⟩
termination_by texts.length

end Reader

/-! ## Accepted command lines -/

/-- The texts are cut into parts that fit together, with all positional arguments. -/
structure Declaration.Takes (declaration : Declaration) (texts : List String) (parts : List Part) : Prop where
  reads : declaration.Reads false texts parts
  fits : (Arguments.ofParts parts).Fits declaration
  positionals : (Arguments.ofParts parts).positionals.length = declaration.positionals

namespace Arguments

variable {declaration : Declaration} {texts : List String} {arguments : Arguments}

theorem parse_eq_bind : parse declaration texts = Reader.start.finish declaration texts >>= fun said =>
    if said.positionals.length < declaration.positionals then throw .argumentMissing else pure said := by
  simp only [parse, Reader.finish, bind_assoc, pure_bind, throw_bind]

/-- The accepted command lines are those that are cut into parts that fit together, and they say what the
parts say. -/
theorem parse_eq_ok_iff (h : declaration.WellFormed) :
    parse declaration texts = .ok arguments ↔
      ∃ parts, declaration.Takes texts parts ∧ ofParts parts = arguments := by
  rw [parse_eq_bind, bind_eq_ok_iff]
  constructor
  · rintro ⟨said, hFinish, hEnough⟩
    split at hEnough
    · cases hEnough
    next hMissing =>
    cases hEnough
    obtain ⟨-, parts, hReads, rfl, hFits⟩ := Reader.reads_of_finish h (by simp [Reader.start]) hFinish
    have hFits := hFits fits_none
    exact ⟨parts, ⟨hReads, hFits, Nat.le_antisymm hFits.positionals (Nat.le_of_not_lt hMissing)⟩, rfl⟩
  · rintro ⟨parts, ⟨hReads, hFits, hPositionals⟩, rfl⟩
    refine ⟨_, Reader.finish_of_reads h hReads rfl trivial hFits, ?_⟩
    exact if_neg (Nat.not_lt.2 (Nat.le_of_eq hPositionals.symm))

end Arguments

end CompilerDriver.CommandLine
