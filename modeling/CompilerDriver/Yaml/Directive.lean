import CompilerDriver.Yaml.Property
import CompilerDriver.Yaml.Scalar.Block
/-!
# Directives

A line that begins with a percent sign says which version of the language follows or what a tag handle
stands for. No other directive is known.
-/

namespace CompilerDriver.Yaml.Directive

/-- Reads a number of at most nine digits. -/
def scanNumber? (cs : List Char) : Option (Nat × List Char) :=
  let digits := cs.takeWhile Char.isDigit
  if digits.isEmpty || 9 < digits.length then
    none
  else
    (Number.ofDigits? 10 digits).map (fun n => (n, cs.dropWhile Char.isDigit))

/-- Reads the two numbers of a version. -/
def scanVersion? (cs : List Char) : Option (Token × List Char) := do
  let (major, rest) ← scanNumber? (cs.dropWhile isBlank)
  match rest with
  | '.' :: rest =>
    let (minor, rest) ← scanNumber? rest
    return (.version major minor, rest)
  | _ => none

/-- Reads a tag handle and what it stands for. -/
def scanTagHandle? (cs : List Char) : Option (Token × List Char) := do
  let (handle, rest) ← Property.scanHandle? (cs.dropWhile isBlank)
  guard (handle.length = 1 || Property.isClosed handle)
  guard (rest.head?.any isBlank)
  let (meaning, rest) ← Property.scanTagChars? true 0 (rest.dropWhile isBlank)
  guard (!meaning.isEmpty && endsWord rest)
  return (.tagHandle handle (Property.beforeZero meaning), rest)

/-- Reads what the name of a directive calls for. -/
def scanMeaning? (name : List Char) (cs : List Char) : Option (Token × List Char) :=
  if name = "YAML".toList then scanVersion? cs
  else if name = "TAG".toList then scanTagHandle? cs
  else none

/-- Reads a directive behind its percent sign, up to the next line. -/
def scan? (cs : List Char) : Option (Token × List Char) := do
  let name := cs.takeWhile isNameChar
  let rest := cs.dropWhile isNameChar
  guard (!name.isEmpty && endsWord rest)
  let (token, rest) ← scanMeaning? name rest
  return (token, ← Block.endLine? rest)

/-! ## A directive takes characters -/

theorem length_scanNumber {cs rest : List Char} {n : Nat} (h : scanNumber? cs = some (n, rest)) :
    rest.length ≤ cs.length := by
  simp only [scanNumber?] at h
  split at h
  · cases h
  · obtain ⟨_, -, heq⟩ := Option.map_eq_some_iff.1 h
    cases heq
    exact (List.dropWhile_sublist Char.isDigit).length_le

theorem length_scanVersion {cs rest : List Char} {token : Token}
    (h : scanVersion? cs = some (token, rest)) : rest.length ≤ cs.length := by
  simp only [scanVersion?, Option.bind_eq_bind, Option.bind_eq_some_iff] at h
  obtain ⟨⟨major, behind⟩, hMajor, h⟩ := h
  have := (List.dropWhile_sublist isBlank (l := cs)).length_le
  have := length_scanNumber hMajor
  split at h
  · simp only [Option.bind_eq_some_iff] at h
    obtain ⟨⟨minor, after⟩, hMinor, heq⟩ := h
    cases heq
    have := length_scanNumber hMinor
    grind
  · cases h

theorem length_scanTagHandle {cs rest : List Char} {token : Token}
    (h : scanTagHandle? cs = some (token, rest)) : rest.length ≤ cs.length := by
  obtain ⟨⟨handle, behind⟩, hHandle, h⟩ := Option.bind_eq_some_iff.1 h
  obtain ⟨_, -, h⟩ := Option.bind_eq_some_iff.1 h
  obtain ⟨_, -, h⟩ := Option.bind_eq_some_iff.1 h
  obtain ⟨⟨meaning, after⟩, hMeaning, h⟩ := Option.bind_eq_some_iff.1 h
  obtain ⟨_, -, heq⟩ := Option.bind_eq_some_iff.1 h
  cases heq
  have := (List.dropWhile_sublist isBlank (l := cs)).length_le
  have := Property.length_scanHandle hHandle
  have := (List.dropWhile_sublist isBlank (l := behind)).length_le
  have := Property.length_scanTagChars hMeaning
  dsimp only at *
  omega

theorem length_scanMeaning {name cs rest : List Char} {token : Token}
    (h : scanMeaning? name cs = some (token, rest)) : rest.length ≤ cs.length := by
  unfold scanMeaning? at h
  split at h
  · exact length_scanVersion h
  · split at h
    · exact length_scanTagHandle h
    · cases h

theorem length_scan {cs rest : List Char} {token : Token} (h : scan? cs = some (token, rest)) :
    rest.length ≤ cs.length := by
  obtain ⟨_, -, h⟩ := Option.bind_eq_some_iff.1 h
  obtain ⟨⟨_, behind⟩, hMeaning, h⟩ := Option.bind_eq_some_iff.1 h
  obtain ⟨below, hLine, heq⟩ := Option.bind_eq_some_iff.1 h
  cases heq
  have := (List.dropWhile_sublist isNameChar (l := cs)).length_le
  have := length_scanMeaning hMeaning
  have := Block.length_endLine hLine
  dsimp only at *
  omega

end CompilerDriver.Yaml.Directive
