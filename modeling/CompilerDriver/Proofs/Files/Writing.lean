import CompilerDriver.Proofs.Files.Reading
/-!
# Reading what was written

Writing succeeds for a path to a directory followed by a name that can be a file's, and then puts the bytes
there (`write_eq_ok`). It makes no directory, so the path still leads to that place, and reading gives the
bytes (`read_of_write`).
-/

namespace CompilerDriver.Files

variable {files : Files} {directory place : Path} {parts : List String} {name : String}
  {content : ByteArray}

theorem writeIn_eq_ok {isSlashed : Bool} {written : Files}
    (h : files.writeIn directory name isSlashed content = .ok written) :
    isSlashed = false ∧ name ≠ "." ∧ name ≠ ".." ∧ isTooLong name = false ∧
      directory ++ [name] ∉ files.directories ∧ written = files.push (directory ++ [name]) content := by
  unfold writeIn at h
  dsimp only at h
  split at h
  · cases h
  next hDots =>
  split at h
  · cases h
  next hShort =>
  split at h
  · cases h
  next hPlace =>
  cases h
  simp only [not_or, Bool.not_eq_true] at hDots hShort
  exact ⟨hDots.1, hDots.2.1, hDots.2.2, hShort, hPlace, rfl⟩

/-- Without a slash at its end a path ends in its last name. -/
theorem eq_append_of_dropWhile {outer : List String}
    (h : parts.reverse.dropWhile (· = "") = name :: outer) (hLast : parts.getLast? ≠ some "") :
    parts = outer.reverse ++ [name] ∧ name ≠ "" := by
  rw [← List.head?_reverse] at hLast
  have hReverse : parts.reverse = name :: outer := by
    cases hParts : parts.reverse with
    | nil =>
      rw [hParts] at h
      cases h
    | cons first more =>
      rw [hParts] at h hLast
      have hFirst : first ≠ "" := by simpa using hLast
      rwa [List.dropWhile_cons_of_neg (by simpa using hFirst)] at h
  constructor
  · rw [← List.reverse_cons, ← hReverse, List.reverse_reverse]
  · rw [hReverse] at hLast
    simpa using hLast

/-- Writing succeeds for a name in a directory that stands for no directory itself. -/
theorem write_eq_ok {path : String} {written : Files} (h : files.write path content = .ok written) :
    ∃ route outer directory name, files.route path = .ok route ∧ route.parts = outer ++ [name] ∧
      files.follow route.start outer = .ok (directory, none) ∧ IsFileName name ∧
      directory ++ [name] ∉ files.directories ∧ written = files.push (directory ++ [name]) content := by
  unfold write at h
  cases hRoute : files.route path with
  | error error =>
    rw [hRoute] at h
    cases h
  | ok route =>
    rw [hRoute] at h
    simp only [bind, Except.bind] at h
    split at h
    · cases h
    · next name outer hParts =>
      split at h
      · cases h
      · next found hOuter =>
        split at h
        · cases h
        · next directory =>
          obtain ⟨hUnslashed, hDot, hDots, hShort, hPlace, rfl⟩ := writeIn_eq_ok h
          obtain ⟨hOuterParts, hNonempty⟩ := eq_append_of_dropWhile hParts (by simpa using hUnslashed)
          exact ⟨route, outer.reverse, directory, name, rfl, hOuterParts, hOuter,
            ⟨hNonempty, hDot, hDots, hShort⟩, hPlace, rfl⟩

theorem content?_push (files : Files) (place : Path) (content : ByteArray) :
    (files.push place content).content? place = some content := by
  simp [content?, push]

/-- What was written is read. -/
theorem read_of_write {path : String} {written : Files} (h : files.write path content = .ok written) :
    written.read path = .ok (.bytes content) := by
  obtain ⟨route, outer, directory, name, hRoute, hParts, hOuter, hName, hPlace, rfl⟩ := write_eq_ok h
  have hSame : (files.push (directory ++ [name]) content).route path = .ok route := hRoute
  have hWay := (leads_of_follow hOuter).push (directory ++ [name]) content
  have hEnd : EndsAt (files.push (directory ++ [name]) content) route.start route.parts
      (.ok (directory ++ [name], some content)) := by
    rw [hParts]
    exact .file hWay hName hPlace (files.content?_push _ content)
  exact (Gives.file hSame hEnd).read_eq

end CompilerDriver.Files
