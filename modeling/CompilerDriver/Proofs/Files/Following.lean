import CompilerDriver.Files
/-!
# What a path leads to

A path is followed part by part. It ends at a directory, at a file, or at a part that leads nowhere, for one of
three reasons, and at one of these only (`EndsAt.follow_eq`, `exists_endsAt`). A way to a directory leads there
whatever files are added (`Leads.push`).
-/

namespace CompilerDriver.Files

variable {files : Files} {directory next place home : Path} {part name : String}
  {parts outer rest : List String} {content : ByteArray} {result : Except IoError (Path × Option ByteArray)}

/-- The files with one more in front. -/
def push (files : Files) (place : Path) (content : ByteArray) : Files :=
  { files with files := (place, content) :: files.files }

/-- A name that a file can be made with. -/
structure IsFileName (name : String) : Prop where
  nonempty : name ≠ ""
  dot_ne : name ≠ "."
  dots_ne : name ≠ ".."
  short : isTooLong name = false

/-! ## Ways -/

/-- The part leads from the directory to another one: nothing and one dot lead nowhere else, two dots lead to the
directory above, and a name leads to the directory of that name. -/
inductive Steps (files : Files) (directory : Path) : String → Path → Prop
  | stay {part : String} (hStay : part = "" ∨ part = ".") : Steps files directory part directory
  | up : Steps files directory ".." directory.dropLast
  | down {name : String} (isName : IsFileName name) (isDirectory : directory ++ [name] ∈ files.directories) :
      Steps files directory name (directory ++ [name])

/-- The parts lead from the one directory to the other. -/
inductive Leads (files : Files) : Path → List String → Path → Prop
  | nil {directory : Path} : Leads files directory [] directory
  | cons {directory next place : Path} {part : String} {parts : List String}
      (step : Steps files directory part next) (way : Leads files next parts place) :
      Leads files directory (part :: parts) place

/-- What the parts end at, from the directory. Behind a way to a directory comes nothing, the name of a file in
that directory, or a part that leads nowhere: a name that is not there, a file that is not at the end, or a name
that is too long. -/
inductive EndsAt (files : Files) (directory : Path) :
    List String → Except IoError (Path × Option ByteArray) → Prop
  | directory {parts : List String} {place : Path} (way : Leads files directory parts place) :
      EndsAt files directory parts (.ok (place, none))
  | file {outer : List String} {home : Path} {name : String} {content : ByteArray}
      (way : Leads files directory outer home) (isName : IsFileName name)
      (noDirectory : home ++ [name] ∉ files.directories)
      (isFile : files.content? (home ++ [name]) = some content) :
      EndsAt files directory (outer ++ [name]) (.ok (home ++ [name], some content))
  | missing {outer rest : List String} {home : Path} {name : String}
      (way : Leads files directory outer home) (isName : IsFileName name)
      (noDirectory : home ++ [name] ∉ files.directories) (noFile : files.content? (home ++ [name]) = none) :
      EndsAt files directory (outer ++ name :: rest) (.error .notFound)
  | throughFile {outer rest : List String} {home : Path} {name : String} {content : ByteArray}
      (way : Leads files directory outer home) (isName : IsFileName name)
      (noDirectory : home ++ [name] ∉ files.directories)
      (isFile : files.content? (home ++ [name]) = some content) (goesOn : rest ≠ []) :
      EndsAt files directory (outer ++ name :: rest) (.error .notDirectory)
  | tooLong {outer rest : List String} {home : Path} {name : String}
      (way : Leads files directory outer home) (isLong : isTooLong name = true) :
      EndsAt files directory (outer ++ name :: rest) (.error .nameTooLong)

theorem Steps.push (h : Steps files directory part next) (added : Path) (content : ByteArray) :
    Steps (files.push added content) directory part next := by
  cases h with
  | stay hStay => exact .stay hStay
  | up => exact .up
  | down isName isDirectory => exact .down isName isDirectory

/-- Files that are added are in no one's way. -/
theorem Leads.push (h : Leads files directory parts place) (added : Path) (content : ByteArray) :
    Leads (files.push added content) directory parts place := by
  induction h with
  | nil => exact .nil
  | cons step _ ih => exact .cons (step.push added content) ih

/-! ## Following -/

theorem follow_of_steps (h : Steps files directory part next) (rest : List String) :
    files.follow directory (part :: rest) = files.follow next rest := by
  cases h with
  | stay hStay => rw [follow, if_pos hStay]
  | up => rw [follow, if_neg (by decide), if_pos rfl]
  | down isName isDirectory =>
    rw [follow, if_neg (by simp [isName.nonempty, isName.dot_ne]), if_neg isName.dots_ne,
      if_neg (by simp [isName.short])]
    exact if_pos isDirectory

theorem Leads.follow_append (h : Leads files directory outer home) (rest : List String) :
    files.follow directory (outer ++ rest) = files.follow home rest := by
  induction h with
  | nil => rfl
  | cons step _ ih => rw [List.cons_append, follow_of_steps step, ih]

theorem follow_name (isName : IsFileName name) (noDirectory : home ++ [name] ∉ files.directories)
    (rest : List String) : files.follow home (name :: rest) =
      match files.content? (home ++ [name]) with
      | none => .error .notFound
      | some content => if rest = [] then .ok (home ++ [name], some content) else .error .notDirectory := by
  rw [follow, if_neg (by simp [isName.nonempty, isName.dot_ne]), if_neg isName.dots_ne,
    if_neg (by simp [isName.short])]
  exact if_neg noDirectory

theorem EndsAt.follow_eq (h : EndsAt files directory parts result) : files.follow directory parts = result := by
  cases h with
  | directory way => simpa [follow] using way.follow_append []
  | file way isName noDirectory isFile =>
    rw [way.follow_append, follow_name isName noDirectory, isFile]
    rfl
  | missing way isName noDirectory noFile =>
    rw [way.follow_append, follow_name isName noDirectory, noFile]
  | throughFile way isName noDirectory isFile goesOn =>
    rw [way.follow_append, follow_name isName noDirectory, isFile]
    exact if_neg goesOn
  | @tooLong outer rest home name way isLong =>
    have hOther : ∀ short : String, isTooLong short = false → name ≠ short := by
      rintro short hShort rfl
      rw [isLong] at hShort
      cases hShort
    rw [way.follow_append, follow, if_neg (by simp [hOther "" rfl, hOther "." rfl]), if_neg (hOther ".." rfl),
      if_pos isLong]

theorem EndsAt.cons (step : Steps files directory part next) (h : EndsAt files next parts result) :
    EndsAt files directory (part :: parts) result := by
  cases h with
  | directory way => exact .directory (.cons step way)
  | file way isName noDirectory isFile => exact .file (.cons step way) isName noDirectory isFile
  | missing way isName noDirectory noFile => exact .missing (.cons step way) isName noDirectory noFile
  | throughFile way isName noDirectory isFile goesOn =>
    exact .throughFile (.cons step way) isName noDirectory isFile goesOn
  | tooLong way isLong => exact .tooLong (.cons step way) isLong

/-- A part leads to a directory, or it is a name of none, or it is too long. -/
theorem part_cases (files : Files) (directory : Path) (part : String) :
    (∃ next, Steps files directory part next) ∨
      (IsFileName part ∧ directory ++ [part] ∉ files.directories) ∨ isTooLong part = true := by
  by_cases hStay : part = "" ∨ part = "."
  · exact .inl ⟨_, .stay hStay⟩
  by_cases hUp : part = ".."
  · subst hUp
    exact .inl ⟨_, .up⟩
  cases hLong : isTooLong part with
  | true => exact .inr (.inr rfl)
  | false =>
    have isName : IsFileName part :=
      ⟨fun h => hStay (.inl h), fun h => hStay (.inr h), hUp, hLong⟩
    by_cases hDirectory : directory ++ [part] ∈ files.directories
    · exact .inl ⟨_, .down isName hDirectory⟩
    · exact .inr (.inl ⟨isName, hDirectory⟩)

theorem exists_endsAt (files : Files) (directory : Path) (parts : List String) :
    ∃ result, EndsAt files directory parts result := by
  induction parts generalizing directory with
  | nil => exact ⟨_, .directory .nil⟩
  | cons part rest ih =>
    rcases part_cases files directory part with ⟨next, step⟩ | ⟨isName, noDirectory⟩ | isLong
    · obtain ⟨result, hRest⟩ := ih next
      exact ⟨result, hRest.cons step⟩
    · cases hContent : files.content? (directory ++ [part]) with
      | none => exact ⟨_, EndsAt.missing .nil isName noDirectory hContent⟩
      | some content =>
        by_cases hEnd : rest = []
        · subst hEnd
          exact ⟨_, EndsAt.file .nil isName noDirectory hContent⟩
        · exact ⟨_, EndsAt.throughFile .nil isName noDirectory hContent hEnd⟩
    · exact ⟨_, EndsAt.tooLong .nil isLong⟩

theorem leads_of_follow (h : files.follow directory parts = .ok (place, none)) :
    Leads files directory parts place := by
  obtain ⟨result, hEnd⟩ := exists_endsAt files directory parts
  rw [hEnd.follow_eq] at h
  subst h
  cases hEnd with
  | directory way => exact way

end CompilerDriver.Files
