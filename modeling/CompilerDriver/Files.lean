/-!
# Files

A small tree of files: which directories there are, the bytes of the files in them, and the directory that
relative paths start from. A path is followed part by part, and every part but the last has to be a
directory. `read` needs a last part that exists; `write` makes one, so a path that can only mean a
directory is refused.
-/

namespace CompilerDriver

/-- The names from the root down to a place in the tree. -/
abbrev Path := List String

/-- Why a file cannot be opened or created. -/
inductive IoError where
  | notFound
  | notDirectory
  | isDirectory
  | permissionDenied
  /-- The path or a name in it is too long. -/
  | nameTooLong
  /-- The path holds a zero byte. -/
  | zeroByte
  /-- Any other error, with its number and text. -/
  | other (number : Nat) (text : String)
  deriving DecidableEq, Repr

/-- The text that reports the error. -/
def IoError.message : IoError → String
  | .notFound => "No such file or directory (os error 2)"
  | .notDirectory => "Not a directory (os error 20)"
  | .isDirectory => "Is a directory (os error 21)"
  | .permissionDenied => "Permission denied (os error 13)"
  | .nameTooLong => "File name too long (os error 36)"
  | .zeroByte => "file name contained an unexpected NUL byte"
  | .other number text => text ++ " (os error " ++ toString number ++ ")"

/-- What an opened file gives. -/
inductive Reading where
  | bytes (content : ByteArray)
  /-- It can be opened but not read, as a directory. -/
  | failed

/-- Directories and files below one root, which is a directory as well. -/
structure Files where
  directories : List Path
  files : List (Path × ByteArray)
  /-- The directory that a relative path starts from. -/
  current : Path

namespace Files

/-- A written path: where it starts, and its parts with what stands between any two slashes. -/
structure Route where
  start : Path
  parts : List String

/-- The written path, if its text can be one at all. With its end mark a path has at most 4096 bytes. -/
def route (files : Files) (text : String) : Except IoError Route :=
  if '\x00' ∈ text.toList then .error .zeroByte
  else if text = "" then .error .notFound
  else if 4096 ≤ text.utf8ByteSize then .error .nameTooLong
  else .ok ⟨if text.toList.head? = some '/' then [] else files.current, text.splitOn "/"⟩

/-- The content of the file at the place. -/
def content? (files : Files) (place : Path) : Option ByteArray :=
  (files.files.find? (fun file => file.1 == place)).map (·.2)

/-- Whether no file or directory can have the name. -/
def isTooLong (name : String) : Bool :=
  255 < name.utf8ByteSize

/-- Follows parts from a directory, and gives the place of what they end at and, unless that is a
directory, the content. Two dots at the root stay there. -/
def follow (files : Files) (directory : Path) :
    List String → Except IoError (Path × Option ByteArray)
  | [] => .ok (directory, none)
  | part :: rest =>
    if part = "" ∨ part = "." then
      follow files directory rest
    else if part = ".." then
      follow files directory.dropLast rest
    else if isTooLong part then
      .error .nameTooLong
    else
      let next := directory ++ [part]
      if next ∈ files.directories then
        follow files next rest
      else
        match files.content? next with
        | none => .error .notFound
        | some content => if rest = [] then .ok (next, some content) else .error .notDirectory

/-- Opens the file with the path and reads it. -/
def read (files : Files) (path : String) : Except IoError Reading := do
  let route ← files.route path
  match ← files.follow route.start route.parts with
  | (_, some content) => return .bytes content
  | (_, none) => return .failed

/-- The files after writing the bytes to the file of this name in a directory. The name is a directory if
it is dots only or a slash follows it. -/
def writeIn (files : Files) (directory : Path) (name : String) (isSlashed : Bool)
    (content : ByteArray) : Except IoError Files :=
  let place := directory ++ [name]
  if isSlashed ∨ name = "." ∨ name = ".." then .error .isDirectory
  else if isTooLong name then .error .nameTooLong
  else if place ∈ files.directories then .error .isDirectory
  else .ok { files with files := (place, content) :: files.files }

/-- The files after writing the bytes to the file with the path, which need not exist before. -/
def write (files : Files) (path : String) (content : ByteArray) : Except IoError Files := do
  let route ← files.route path
  let isSlashed := route.parts.getLast? = some ""
  match route.parts.reverse.dropWhile (· = "") with
  | [] => throw .isDirectory
  | name :: outer =>
    match ← files.follow route.start outer.reverse with
    | (_, some _) => throw .notDirectory
    | (directory, none) => files.writeIn directory name isSlashed content

end Files

end CompilerDriver
