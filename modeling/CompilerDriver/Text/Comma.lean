/-!
# Comma-separated tokens

A token is cut at every comma and no part is dropped, so a token with `n` commas has `n + 1` parts and
the empty token has one empty part. `joinChars_splitChars` says that the cut loses nothing.
-/

namespace CompilerDriver.Text

/-- The stretches of the text between one separator and the next. -/
def splitChars (sep : Char) : List Char → List (List Char)
  | [] => [[]]
  | c :: rest =>
    if c = sep then
      [] :: splitChars sep rest
    else
      match splitChars sep rest with
      | [] => [[c]]
      | part :: parts => (c :: part) :: parts

/-- The parts with one separator between each two. -/
def joinChars (sep : Char) : List (List Char) → List Char
  | [] => []
  | [part] => part
  | part :: next :: parts => part ++ sep :: joinChars sep (next :: parts)

/-- The parts of a token between its commas. -/
def splitCommas (token : String) : List String :=
  (splitChars ',' token.toList).map String.ofList

/-! ## Nothing is lost -/

theorem splitChars_ne_nil (sep : Char) (cs : List Char) : splitChars sep cs ≠ [] := by
  cases cs with
  | nil => simp [splitChars]
  | cons c rest =>
    rw [splitChars]
    split
    · simp
    · split <;> simp

theorem joinChars_splitChars (sep : Char) (cs : List Char) :
    joinChars sep (splitChars sep cs) = cs := by
  induction cs with
  | nil => rfl
  | cons c rest ih =>
    rw [splitChars]
    cases hs : splitChars sep rest with
    | nil => exact absurd hs (splitChars_ne_nil sep rest)
    | cons part parts =>
      rw [hs] at ih
      split
      · next h => simp [joinChars, ih, h]
      · cases parts with
        | nil => simpa [joinChars] using ih
        | cons next parts => simpa [joinChars] using ih

end CompilerDriver.Text
