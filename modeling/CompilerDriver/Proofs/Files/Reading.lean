import CompilerDriver.Proofs.Files.Following
/-!
# What a path gives

Reading gives the content of a file, fails where there is a directory, and else there is nothing to open
(`read_eq_iff`).
-/

namespace CompilerDriver.Files

variable {files : Files} {path : String} {reading : Except IoError Reading}
  {result : Except IoError (Path × Option ByteArray)}

/-- What the path gives: the content of a file, the failure to read a directory, or an error, where the text can
be no path or a part of it leads nowhere. -/
inductive Gives (files : Files) (path : String) : Except IoError Reading → Prop
  | file {route : Route} {place : Path} {content : ByteArray} (hRoute : files.route path = .ok route)
      (isFile : EndsAt files route.start route.parts (.ok (place, some content))) :
      Gives files path (.ok (.bytes content))
  | directory {route : Route} {place : Path} (hRoute : files.route path = .ok route)
      (way : Leads files route.start route.parts place) : Gives files path (.ok .failed)
  | nothing {route : Route} {error : IoError} (hRoute : files.route path = .ok route)
      (isNothing : EndsAt files route.start route.parts (.error error)) : Gives files path (.error error)
  | noPath {error : IoError} (hRoute : files.route path = .error error) : Gives files path (.error error)

/-- What reading gives at the end of a path. -/
def Reading.ofFound (found : Path × Option ByteArray) : Reading :=
  match found.2 with
  | some content => .bytes content
  | none => .failed

theorem read_of_route {route : Route} (h : files.route path = .ok route)
    (hEnd : EndsAt files route.start route.parts result) : files.read path = result.map Reading.ofFound := by
  rw [read, h]
  show (files.follow _ _ >>= _) = _
  rw [hEnd.follow_eq]
  cases result with
  | error error => rfl
  | ok found =>
    obtain ⟨place, found⟩ := found
    cases found <;> rfl

theorem Gives.read_eq (h : files.Gives path reading) : files.read path = reading := by
  cases h with
  | file hRoute isFile => exact read_of_route hRoute isFile
  | directory hRoute way => exact read_of_route hRoute (.directory way)
  | nothing hRoute isNothing => exact read_of_route hRoute isNothing
  | noPath hRoute =>
    rw [read, hRoute]
    rfl

theorem exists_gives (files : Files) (path : String) : ∃ reading, files.Gives path reading := by
  cases hRoute : files.route path with
  | error error => exact ⟨_, .noPath hRoute⟩
  | ok route =>
    obtain ⟨result, hEnd⟩ := exists_endsAt files route.start route.parts
    cases result with
    | error error => exact ⟨_, .nothing hRoute hEnd⟩
    | ok found =>
      obtain ⟨place, found⟩ := found
      cases found with
      | none => exact ⟨_, .directory hRoute (leads_of_follow hEnd.follow_eq)⟩
      | some content => exact ⟨_, .file hRoute hEnd⟩

theorem read_eq_iff : files.read path = reading ↔ files.Gives path reading := by
  constructor
  · rintro rfl
    obtain ⟨reading, hGives⟩ := exists_gives files path
    rwa [hGives.read_eq]
  · exact Gives.read_eq

end CompilerDriver.Files
