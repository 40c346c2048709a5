import CompilerDriver.Number.Shortest
import CompilerDriver.Text.Escaped
/-!
# JSON values

A JSON value with whole numbers apart from doubles. The members of an object stand in the order of
their keys, one for each key; `setMember` keeps that order.
-/

namespace CompilerDriver

/-- A JSON value. -/
inductive Json where
  | null
  | boolean (value : Bool)
  /-- A number written without point or exponent. -/
  | integer (value : Int)
  /-- Any other number. -/
  | double (value : Float)
  | text (value : String)
  | array (items : List Json)
  | object (members : List (String × Json))
  deriving Repr, Inhabited

namespace Json

/-- The members with one more member, in its place and in place of any other with its key. -/
def setMember (key : String) (value : Json) : List (String × Json) → List (String × Json)
  | [] => [(key, value)]
  | (k, v) :: rest =>
    if key < k then
      (key, value) :: (k, v) :: rest
    else if key = k then
      (key, value) :: rest
    else
      (k, v) :: setMember key value rest

/-- The value of the member with the key. -/
def member? (key : String) (members : List (String × Json)) : Option Json :=
  (members.find? (fun member => member.1 == key)).map (·.2)

/-- Doubles are written without an exponent from 0.00001 up to sixteen digits before the point. -/
def doubleLayout : Number.Layout :=
  { lowest := -5, highest := 15 }

/-- The value in a few words, as error messages show it. -/
def describe : Json → String
  | null => "null"
  | boolean value => "boolean `" ++ (if value then "true" else "false") ++ "`"
  | integer value => "integer `" ++ toString value ++ "`"
  | double value => "floating point `" ++ Number.write doubleLayout value ++ "`"
  | text value => "string " ++ Text.shown value
  | array _ => "sequence"
  | object _ => "map"

end Json

end CompilerDriver
