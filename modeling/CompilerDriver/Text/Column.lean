/-!
# Columns

Text in columns is filled up with spaces at its right, until it has as many characters as the column is wide. A text
that is wider than its column is never cut.
-/

namespace CompilerDriver.Text

/-- A run of spaces. -/
def spaces (count : Nat) : String :=
  String.ofList (List.replicate count ' ')

/-- The text, followed by as many spaces as it lacks to fill the width. -/
def padRight (width : Nat) (text : String) : String :=
  text ++ spaces (width - text.length)

/-- The width that the widest of the texts has if bytes are counted, and at least the given width. -/
def widestBytes (least : Nat) (texts : List String) : Nat :=
  texts.foldl (fun width text => max width text.utf8ByteSize) least

end CompilerDriver.Text
