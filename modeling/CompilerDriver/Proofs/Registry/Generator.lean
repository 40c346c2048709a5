import CompilerDriver.Proofs.Text.Comma
import CompilerDriver.Registry.Generator
/-!
# What a generator accepts

A generator makes a value of material in the shape of its kind, and of no other (`exists_generate_iff`). Two
kinds take a list of tokens, but only one of them takes a token that is still to be cut at its commas: there the
short way by one token and the way by its parts are one, and for the other kind the short way is refused
(`isCut_iff_and_generateFromCommas`).
-/

namespace CompilerDriver

universe u

variable {V : Type u}

theorem Material.isSome_content?_iff {material : Material} {shape : Shape} :
    (material.content? shape).isSome = true ↔ material.shape = shape := by
  cases material <;> cases shape <;> simp [content?, Material.shape]

theorem Kind.shape_eq_tokens_iff {kind : Kind} :
    kind.shape = .tokens ↔ kind = .commaJoined ∨ kind = .remaining := by
  cases kind <;> simp [shape]

namespace Generator

theorem exists_generate_iff {g : Generator V} {material : Material} :
    (∃ value, g.generate material = .ok value) ↔ material.shape = g.kind.shape := by
  rw [← Material.isSome_content?_iff, generate]
  cases material.content? g.kind.shape <;> simp

theorem exists_generate_tokens_iff {g : Generator V} {tokens : List String} :
    (∃ value, g.generate (.tokens tokens) = .ok value) ↔ g.kind = .commaJoined ∨ g.kind = .remaining := by
  rw [exists_generate_iff, ← Kind.shape_eq_tokens_iff, eq_comm]
  rfl

theorem generateFromCommas_of_commaJoined {g : Generator V} (h : g.kind = .commaJoined) (token : String) :
    g.generateFromCommas token = g.generate (.tokens (Text.splitCommas token)) := by
  unfold generateFromCommas
  split
  · rfl
  · next hOther => exact absurd h hOther

theorem generateFromCommas_of_ne {g : Generator V} (h : g.kind ≠ .commaJoined) (token : String) :
    g.generateFromCommas token = .error ⟨g.kind, .commaToken⟩ := by
  unfold generateFromCommas
  split
  · next hCommas => exact absurd hCommas h
  · rfl

/-- The parts of a token are the one list, not empty and without a comma in any part, that gives the token when it
is joined by commas, and every such list is cut from the token that it is joined to. A comma-joined generator makes
of a token what it makes of the token's parts, and makes a value; every other kind refuses the token and says which
kind it is, also the kind that makes a value of the parts. -/
theorem isCut_iff_and_generateFromCommas :
    (∀ token parts, Text.IsCut token parts ↔ parts = Text.splitCommas token) ∧
      (∀ parts : List String, parts ≠ [] → (∀ part ∈ parts, ',' ∉ part.toList) →
        Text.splitCommas (",".intercalate parts) = parts) ∧
      ∀ (g : Generator V) (token : String),
        (g.kind = .commaJoined →
          g.generateFromCommas token = g.generate (.tokens (Text.splitCommas token))) ∧
        (g.kind ≠ .commaJoined → ∃ e, g.generateFromCommas token = .error e ∧ e.kind = g.kind ∧
          e.message = g.kind.label ++ " option cannot consume a comma-separated token") ∧
        ((∃ value, g.generate (.tokens (Text.splitCommas token)) = .ok value) ↔
          g.kind = .commaJoined ∨ g.kind = .remaining) := by
  refine ⟨fun _ _ => Text.isCut_iff, fun _ => Text.splitCommas_intercalate, fun g token => ⟨?_, ?_, ?_⟩⟩
  · intro h
    exact generateFromCommas_of_commaJoined h token
  · intro h
    refine ⟨_, generateFromCommas_of_ne h token, rfl, ?_⟩
    rw [ShapeError.message, Offer.describe, String.append_assoc]
    rfl
  · exact exists_generate_tokens_iff

/-! ## One token for both kinds that take lists -/

namespace Sample

def parts : Generator (List String) :=
  Recipe.make ⟨.commaJoined, fun parts : List String => parts⟩ (.made 0)

def rest : Generator (List String) :=
  Recipe.make ⟨.remaining, fun tokens : List String => tokens⟩ (.made 1)

end Sample

theorem generateFromCommas_samples :
    Text.splitCommas ",a,,ß" = ["", "a", "", "ß"] ∧
      Sample.parts.generateFromCommas ",a,,ß" = .ok ["", "a", "", "ß"] ∧
      (∃ e, Sample.rest.generateFromCommas ",a,,ß" = .error e ∧
        e.message = "remaining option cannot consume a comma-separated token") ∧
      ∃ value, Sample.rest.generate (.tokens ["", "a", "", "ß"]) = .ok value := by
  obtain ⟨-, hSplit, hGenerators⟩ := isCut_iff_and_generateFromCommas (V := List String)
  have hToken : Text.splitCommas ",a,,ß" = ["", "a", "", "ß"] :=
    hSplit ["", "a", "", "ß"] (by decide) (by decide)
  obtain ⟨hParts, -, -⟩ := hGenerators Sample.parts ",a,,ß"
  obtain ⟨-, hRefused, hTokens⟩ := hGenerators Sample.rest ",a,,ß"
  obtain ⟨e, hError, -, hMessage⟩ := hRefused (by decide)
  rw [hToken] at hParts hTokens
  exact ⟨hToken, hParts rfl, ⟨e, hError, hMessage⟩, hTokens.2 (.inr rfl)⟩

end Generator

end CompilerDriver
