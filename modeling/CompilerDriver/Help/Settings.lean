/-!
# Help settings

What a person may set about the help text: the two texts of the banner, and whether hidden options are
shown.
-/

namespace CompilerDriver.Help

/-- The settings of a help text. -/
structure Settings where
  /-- What the program is, for the first line. -/
  overview : String := "Swift compiler"
  /-- How the program is called, for the second line. -/
  usage : String := "swiftc"
  /-- Whether hidden options are shown. -/
  includeHidden : Bool := false
  deriving DecidableEq, Repr, Inhabited

/-- The settings where nothing was set. -/
def Settings.default : Settings :=
  {}

end CompilerDriver.Help
