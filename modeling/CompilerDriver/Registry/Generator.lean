import CompilerDriver.Registry.Kind
import CompilerDriver.Text.Comma
/-!
# Generators

A generator makes the value of an option out of the material found on the command line. It pairs a kind
with a transform on that kind's content, so a transform is never run on content of another shape:
`generate` answers a `ShapeError` instead. Each transform remembers its origin, the one act of making it,
which copies and changes of kind keep.
-/

namespace CompilerDriver

universe u

/-- What was found for an option on the command line. -/
inductive Material where
  /-- The option stands alone. -/
  | absent
  /-- One text: a suffix, the next token or a positional input. -/
  | text (content : String)
  /-- A list of tokens. -/
  | tokens (content : List String)
  deriving DecidableEq, Repr

namespace Material

/-- The shape of the material. -/
def shape : Material → Shape
  | .absent => .nothing
  | .text _ => .text
  | .tokens _ => .tokens

/-- The content of the material, if the material has the wanted shape. -/
def content? : Material → (shape : Shape) → Option shape.Content
  | .absent, .nothing => some ()
  | .text content, .text => some content
  | .tokens content, .tokens => some content
  | _, _ => none

end Material

/-- What a generator was offered in place of the material it consumes. -/
inductive Offer where
  /-- Material of this shape. -/
  | material (shape : Shape)
  /-- A token to be cut at its commas. -/
  | commaToken
  deriving DecidableEq, Repr

/-- The offer, in words. -/
def Offer.describe : Offer → String
  | .material .nothing => "no argument"
  | .material .text => "a text argument"
  | .material .tokens => "a token list"
  | .commaToken => "a comma-separated token"

/-- A generator of this kind was offered what it does not consume. -/
structure ShapeError where
  kind : Kind
  found : Offer
  deriving DecidableEq, Repr

/-- The text that reports the error. -/
def ShapeError.message (e : ShapeError) : String :=
  e.kind.label ++ " option cannot consume " ++ e.found.describe

/-- The act that made a transform. Two transforms are one and the same if they have one origin. -/
inductive Origin where
  /-- Made for a row of the catalogue, as its transform with this number. -/
  | row (index : Nat)
  /-- Made later, as the transform with this number. -/
  | made (index : Nat)
  deriving DecidableEq, Repr

/-- A kind, a transform of that kind's content into a value, and the origin of the transform. -/
structure Generator (V : Type u) where
  kind : Kind
  transform : kind.shape.Content → V
  origin : Origin

/-- A kind and a transform from which a generator is made. -/
structure Recipe (V : Type u) where
  kind : Kind
  transform : kind.shape.Content → V

/-- The generator made of the recipe, with the given origin. -/
def Recipe.make {V : Type u} (recipe : Recipe V) (origin : Origin) : Generator V :=
  { kind := recipe.kind, transform := recipe.transform, origin }

namespace Generator

variable {V : Type u}

/-- The value made from the material. -/
def generate (g : Generator V) (material : Material) : Except ShapeError V :=
  match material.content? g.kind.shape with
  | some content => .ok (g.transform content)
  | none => .error ⟨g.kind, .material material.shape⟩

/-- The value made from one token cut at its commas, which is for the comma-joined kind only. -/
def generateFromCommas (g : Generator V) (token : String) : Except ShapeError V :=
  match g.kind with
  | .commaJoined => g.generate (.tokens (Text.splitCommas token))
  | kind => .error ⟨kind, .commaToken⟩

/-- Whether both generators have one kind and one and the same transform. -/
def sharesTransform (a b : Generator V) : Bool :=
  a.kind == b.kind && a.origin == b.origin

/-- The same transform under another kind, if that kind hands over the same content. -/
def withKind? (g : Generator V) (kind : Kind) : Option (Generator V) :=
  if same : kind.shape = g.kind.shape then
    some { kind, transform := fun content => g.transform (same ▸ content), origin := g.origin }
  else
    none

/-- A summary of the generator, which shows its kind only. -/
def summary (g : Generator V) : String :=
  "Generator(" ++ g.kind.title ++ ")"

end Generator

end CompilerDriver
