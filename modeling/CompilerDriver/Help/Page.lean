import CompilerDriver.Help.Listing
import CompilerDriver.Help.Settings
import CompilerDriver.Output.Sink
import CompilerDriver.Text.Column
/-!
# The help page

A banner of overview and usage, and one block for each listed option. A block is one line if the name of
the option fits its column. A longer name is never cut: it has a line to itself, and the help text starts
in the same column of the line below. The page is delivered to a sink as one text, and the sink is flushed once it
has all of its bytes.
-/

namespace CompilerDriver.Help

universe u

variable {V : Type u}

/-- The width of the column of names. -/
def nameWidth : Nat :=
  22

/-- The placeholder of an option that has none of its own. -/
def defaultMetaVariable : String :=
  "<value>"

/-- The option as help shows it: its spelling and, where it takes an argument, the placeholder, which
follows at once if the argument is joined to the spelling. -/
def displayName (entry : Entry V) : String :=
  let metaVariable := entry.metaVariable.getD defaultMetaVariable
  match entry.kind with
  | .flag | .input => entry.spelling
  | .joined | .commaJoined => entry.spelling ++ metaVariable
  | .separate | .remaining | .joinedOrSeparate => entry.spelling ++ " " ++ metaVariable

/-- The lines of one option. -/
def block (name text : String) : String :=
  if name.length ≤ nameWidth then
    "  " ++ Text.padRight nameWidth name ++ " " ++ text ++ "\n"
  else
    "  " ++ name ++ "\n" ++ "  " ++ Text.spaces nameWidth ++ " " ++ text ++ "\n"

/-- The lines before the options. -/
def banner (settings : Settings) : String :=
  "OVERVIEW: " ++ settings.overview ++ "\n\n" ++ "USAGE: " ++ settings.usage ++ "\n\n" ++ "OPTIONS:\n"

/-- The lines of the listed options. -/
def blocks (options : List (Listed V)) : String :=
  String.join (options.map (fun listed => block (displayName listed.entry) listed.text))

/-- The help page of the table. Whether hidden options are shown is for the caller to say; the settings
give the banner only. -/
def page (table : Table V) (settings : Settings) (includeHidden : Bool) : String :=
  banner settings ++ blocks (listing table includeHidden)

/-- Writes the help page to the sink, or reports the error of writing. -/
def deliver (sink : Output.Sink) (table : Table V) (settings : Settings) (includeHidden : Bool) :
    Output.Sink × Option Output.WriteError :=
  sink.deliver (page table settings includeHidden)

end CompilerDriver.Help
