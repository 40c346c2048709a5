import CompilerDriver.Proofs.Yaml.Entry
import CompilerDriver.Yaml.Document
/-!
# A written mapping is read as its entries

The tokens of the entries become their events (`Goal.run?_documents`), and the record that these are has the
entries in order (`recordOfText?_entries`).
-/

namespace CompilerDriver.Yaml

namespace Entry

/-- The nodes of the entry. -/
def events (entry : Entry) : List Event :=
  [.scalar none none .plain entry.key, .scalar none none entry.style entry.text]

/-- The entry of a record that it is read as. -/
def leaves (entry : Entry) : Leaf × Leaf :=
  (.scalar none .plain entry.key, .scalar none entry.style entry.text)

end Entry

/-! ## Events -/

namespace Goal

variable {goals : List Goal} {tokens : List Token} {handles : TagHandles}

/-- A scalar without anchor and tag is a node. -/
theorem run?_scalar (allowsBlock allowsIndentless : Bool) (style : Style) (text : List Char) :
    run? (node allowsBlock allowsIndentless :: goals) (.scalar style text :: tokens) handles =
      (run? goals tokens handles).map (fun events => .scalar none none style text :: events) := by
  have hNode : expand (node allowsBlock allowsIndentless) (.scalar style text :: tokens) handles =
      some ⟨[.scalar none none style text], [], tokens, handles⟩ := rfl
  rw [run?_cons hNode]
  rfl

theorem run?_blockKey (style : Style) (text : List Char) :
    run? (blockKey :: goals) (.key :: .scalar style text :: tokens) handles =
      (run? (blockValue :: goals) tokens handles).map
        (fun events => .scalar none none style text :: events) := by
  have hKey : expand blockKey (.key :: .scalar style text :: tokens) handles =
      some ⟨[], [node true true, blockValue], .scalar style text :: tokens, handles⟩ := rfl
  rw [run?_cons hKey]
  exact Option.map_id'.trans (run?_scalar true true style text)

theorem run?_blockValue (style : Style) (text : List Char) :
    run? (blockValue :: goals) (.value :: .scalar style text :: tokens) handles =
      (run? (blockKey :: goals) tokens handles).map
        (fun events => .scalar none none style text :: events) := by
  have hValue : expand blockValue (.value :: .scalar style text :: tokens) handles =
      some ⟨[], [node true true, blockKey], .scalar style text :: tokens, handles⟩ := rfl
  rw [run?_cons hValue]
  exact Option.map_id'.trans (run?_scalar true true style text)

/-- The entries that are left become their events, and the end of the mapping ends it. -/
theorem run?_entries (entries : List Entry) :
    run? (blockKey :: goals) (entries.flatMap Entry.tokens ++ .blockEnd :: tokens) handles =
      (run? goals tokens handles).map
        (fun events => entries.flatMap Entry.events ++ .collectionEnd :: events) := by
  induction entries with
  | nil =>
    have hEnd : expand blockKey (.blockEnd :: tokens) handles =
        some ⟨[.collectionEnd], [], tokens, handles⟩ := rfl
    exact run?_cons hEnd
  | cons entry entries ih =>
    have hTokens : (entry :: entries).flatMap Entry.tokens ++ .blockEnd :: tokens =
        .key :: .scalar .plain entry.key :: .value :: .scalar entry.style entry.text ::
          (entries.flatMap Entry.tokens ++ .blockEnd :: tokens) := rfl
    rw [hTokens, run?_blockKey, run?_blockValue, ih, Option.map_map, Option.map_map]
    rfl

/-- A document with a mapping and nothing else. -/
theorem run?_documents (entries : List Entry) :
    run? [documents true] (.blockMappingStart :: (entries.flatMap Entry.tokens ++ [.blockEnd])) .standard =
      some (.documentStart :: .collectionStart none none .mapping ::
        (entries.flatMap Entry.events ++ [.collectionEnd, .documentEnd])) := by
  generalize hTokens : entries.flatMap Entry.tokens ++ [.blockEnd] = tokens
  have hStart : expand (documents true) (.blockMappingStart :: tokens) .standard =
      some ⟨[.documentStart], [node true false, documentEnd], .blockMappingStart :: tokens,
        .standard⟩ := rfl
  have hMapping : expand (node true false) (.blockMappingStart :: tokens) .standard =
      some ⟨[.collectionStart none none .mapping], [blockKey], tokens, .standard⟩ := rfl
  have hEnd : expand documentEnd [] .standard =
      some ⟨[.documentEnd], [documents false], [], .standard⟩ := rfl
  have hNothing : expand (documents false) [] .standard = some ⟨[], [], [], .standard⟩ := rfl
  -- From the last goal to the first.
  have hBehind : run? [documents false] [] .standard = some [] := by
    rw [run?_cons hNothing]
    exact congrArg (Option.map _) (run?_nil _)
  have hBelow : run? [documentEnd] [] .standard = some [.documentEnd] := by
    rw [run?_cons hEnd]
    exact congrArg (Option.map _) hBehind
  have hEntries : run? [blockKey, documentEnd] tokens .standard =
      some (entries.flatMap Entry.events ++ [.collectionEnd, .documentEnd]) := by
    rw [← hTokens, run?_entries, hBelow]
    rfl
  have hNode : run? [node true false, documentEnd] (.blockMappingStart :: tokens) .standard =
      some (.collectionStart none none .mapping ::
        (entries.flatMap Entry.events ++ [.collectionEnd, .documentEnd])) := by
    rw [run?_cons hMapping]
    exact congrArg (Option.map _) hEntries
  rw [run?_cons hStart]
  exact congrArg (Option.map _) hNode

end Goal

/-! ## Entries of the record -/

namespace RecordReader

/-- The reader after more entries, which have no anchors, aliases or collections in them. -/
def withEntries (entries : List Entry) : RecordReader :=
  ⟨.none, 0, (entries.map fun entry => (.leaf entry.leaves.1, .leaf entry.leaves.2)).reverse, none⟩

theorem followed?_withEntries (entries : List Entry) :
    (withEntries entries).followed? = some (entries.map Entry.leaves) := by
  rw [followed?, withEntries, List.reverse_reverse, List.mapM_map]
  induction entries with
  | nil => rfl
  | cons entry entries ih =>
    rw [List.mapM_cons, ih]
    rfl

theorem finish?_entries (before entries : List Entry) :
    finish? (withEntries before) (entries.flatMap Entry.events ++ [.collectionEnd, .documentEnd]) =
      some ((before ++ entries).map Entry.leaves) := by
  induction entries generalizing before with
  | nil =>
    rw [List.append_nil]
    exact followed?_withEntries before
  | cons entry entries ih =>
    -- Two events take the reader past an entry.
    have hNext : finish? (withEntries before)
        ((entry :: entries).flatMap Entry.events ++ [.collectionEnd, .documentEnd]) =
          finish? (withEntries (before ++ [entry]))
            (entries.flatMap Entry.events ++ [.collectionEnd, .documentEnd]) := by
      rw [withEntries, withEntries, List.map_append, List.reverse_append]
      rfl
    rw [hNext, ih, List.append_assoc]
    rfl

end RecordReader

/-- A mapping is read as the record of its entries, in order. -/
theorem recordOfText?_entries {entries : List Entry} (hSome : entries ≠ [])
    (h : ∀ entry ∈ entries, entry.IsReadable) :
    recordOfText? (entries.flatMap Entry.chars) = some (entries.map Entry.leaves) := by
  have hEvents : Event.ofTokens? (.blockMappingStart :: entries.flatMap Entry.tokens ++ [.blockEnd]) = _ :=
    Goal.run?_documents entries
  rw [recordOfText?, ofText?_entries hSome h]
  simp only [Option.bind_eq_bind, Option.bind_some]
  rw [hEvents]
  exact RecordReader.finish?_entries [] entries

end CompilerDriver.Yaml
