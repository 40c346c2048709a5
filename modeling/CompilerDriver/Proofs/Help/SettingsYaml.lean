import CompilerDriver.Help.SettingsYaml
import Mathlib.Data.Option.Basic
/-!
# Which YAML documents hold settings

The entries of a record are looked at one after the other, and each may set a field that is not set yet. In the end
they have given settings just if their keys are scalars and each known key comes once at most, with a value of the
type of its field (`foldlM_add?_eq_some_iff`). So the bytes that hold settings are described by the record that
they are read as (`ofYaml_eq_ok_iff`).
-/

namespace CompilerDriver.Help.Settings

open Yaml (Leaf)

/-! ## One value at most -/

section Joins

variable {α : Type} {first last : Option α} {found more : List (Option α)}

/-- What is found, behind what is there at first, is one value or none. -/
def Joins (first : Option α) (found : List (Option α)) (last : Option α) : Prop :=
  first.toList.map some ++ found = last.toList.map some

theorem joins_none_iff : Joins none found last ↔ found = last.toList.map some :=
  Iff.rfl

theorem joins_nil_iff : Joins first [] last ↔ first = last := by
  cases first <;> cases last <;> simp [Joins]

/-- A value can only be found where there is none. -/
theorem joins_singleton_iff {value : Option α} :
    Joins first [value] last ↔ first = none ∧ ∃ a, value = some a ∧ some a = last := by
  cases first <;> cases last <;> simp [Joins]

theorem joins_append_iff :
    Joins first (found ++ more) last ↔ ∃ next, Joins first found next ∧ Joins next more last := by
  constructor
  · intro h
    rw [Joins, ← List.append_assoc] at h
    cases last with
    | none =>
      obtain ⟨hFront, rfl⟩ := List.append_eq_nil_iff.1 h
      exact ⟨none, hFront, rfl⟩
    | some a =>
      rcases List.append_eq_singleton_iff.1 h with ⟨hFront, rfl⟩ | ⟨hFront, rfl⟩
      · exact ⟨none, hFront, rfl⟩
      · exact ⟨some a, hFront, rfl⟩
  · rintro ⟨next, hFront, hRest⟩
    rw [Joins, ← List.append_assoc, hFront, hRest]

end Joins

/-! ## Entries -/

/-- The values of the entries with the key. -/
def valuesOf (key : String) (entries : List (Leaf × Leaf)) : List Leaf :=
  (entries.filter (fun entry => entry.1.text? = some key)).map (·.2)

theorem valuesOf_append (key : String) (entries more : List (Leaf × Leaf)) :
    valuesOf key (entries ++ more) = valuesOf key entries ++ valuesOf key more := by
  simp [valuesOf]

theorem valuesOf_singleton {key : String} {entry : Leaf × Leaf} {name : String}
    (h : entry.1.text? = some name) :
    valuesOf key [entry] = if name = key then [entry.2] else [] := by
  by_cases hName : name = key
  · simp [valuesOf, h, hName]
  · simp [valuesOf, h, hName]

namespace Fields

variable {before after fields : Fields} {entry : Leaf × Leaf} {entries more : List (Leaf × Leaf)}

/-- With the entries the fields become others: the keys are scalars, and the values of a known key have the type of
its field and are one at most together with the value that the field had before. -/
structure Gains (before : Fields) (entries : List (Leaf × Leaf)) (after : Fields) : Prop where
  keys : ∀ entry ∈ entries, entry.1.text? ≠ Option.none
  overview : Joins before.overview ((valuesOf "overview" entries).map Leaf.text?) after.overview
  usage : Joins before.usage ((valuesOf "usage" entries).map Leaf.text?) after.usage
  includeHidden : Joins before.includeHidden ((valuesOf "include_hidden" entries).map Leaf.boolean?)
    after.includeHidden

theorem gains_nil_iff : before.Gains [] after ↔ before = after := by
  constructor
  · rintro ⟨-, hOverview, hUsage, hIncludeHidden⟩
    have hOverview := joins_nil_iff.1 hOverview
    have hUsage := joins_nil_iff.1 hUsage
    have hIncludeHidden := joins_nil_iff.1 hIncludeHidden
    cases before
    cases after
    simp_all
  · rintro rfl
    exact ⟨nofun, joins_nil_iff.2 rfl, joins_nil_iff.2 rfl, joins_nil_iff.2 rfl⟩

theorem gains_append_iff :
    before.Gains (entries ++ more) after ↔ ∃ next, before.Gains entries next ∧ next.Gains more after := by
  constructor
  · rintro ⟨hKeys, hOverview, hUsage, hIncludeHidden⟩
    rw [valuesOf_append, List.map_append, joins_append_iff] at hOverview hUsage hIncludeHidden
    obtain ⟨overview, hOverview, hOverview'⟩ := hOverview
    obtain ⟨usage, hUsage, hUsage'⟩ := hUsage
    obtain ⟨includeHidden, hIncludeHidden, hIncludeHidden'⟩ := hIncludeHidden
    rw [List.forall_mem_append] at hKeys
    exact ⟨⟨overview, usage, includeHidden⟩, ⟨hKeys.1, hOverview, hUsage, hIncludeHidden⟩,
      ⟨hKeys.2, hOverview', hUsage', hIncludeHidden'⟩⟩
  · rintro ⟨next, h, h'⟩
    refine ⟨List.forall_mem_append.2 ⟨h.keys, h'.keys⟩, ?_, ?_, ?_⟩
    all_goals rw [valuesOf_append, List.map_append, joins_append_iff]
    · exact ⟨_, h.overview, h'.overview⟩
    · exact ⟨_, h.usage, h'.usage⟩
    · exact ⟨_, h.includeHidden, h'.includeHidden⟩

theorem gains_singleton_iff {name : String} (h : entry.1.text? = some name) :
    before.Gains [entry] after ↔
      Joins before.overview (if name = "overview" then [entry.2.text?] else []) after.overview ∧
        Joins before.usage (if name = "usage" then [entry.2.text?] else []) after.usage ∧
        Joins before.includeHidden (if name = "include_hidden" then [entry.2.boolean?] else [])
          after.includeHidden := by
  have hMap : ∀ {α : Type} (key : String) (read : Leaf → α),
      (valuesOf key [entry]).map read = if name = key then [read entry.2] else [] := by
    intro α key read
    rw [valuesOf_singleton h]
    split <;> rfl
  constructor
  · rintro ⟨-, hOverview, hUsage, hIncludeHidden⟩
    rw [hMap] at hOverview hUsage hIncludeHidden
    exact ⟨hOverview, hUsage, hIncludeHidden⟩
  · rintro ⟨hOverview, hUsage, hIncludeHidden⟩
    refine ⟨by simp [h], ?_, ?_, ?_⟩
    all_goals rwa [hMap]

theorem add?_eq_some_iff : before.add? entry = some after ↔ before.Gains [entry] after := by
  obtain ⟨key, value⟩ := entry
  obtain ⟨overview, usage, includeHidden⟩ := before
  obtain ⟨overview', usage', includeHidden'⟩ := after
  cases hKey : key.text? with
  | none =>
    constructor
    · intro h
      simp [add?, hKey] at h
    · intro h
      exact absurd hKey (h.keys _ List.mem_cons_self)
  | some name =>
    rw [gains_singleton_iff hKey]
    simp only [add?, hKey, Option.bind_eq_bind, Option.bind_some]
    split
    · cases overview with
      | some _ => simp [joins_singleton_iff, Option.failure_eq_none]
      | none => cases hValue : value.text? <;> simp [joins_nil_iff, joins_singleton_iff]
    · cases usage with
      | some _ => simp [joins_singleton_iff, Option.failure_eq_none]
      | none => cases hValue : value.text? <;> simp [joins_nil_iff, joins_singleton_iff]
    · cases includeHidden with
      | some _ => simp [joins_singleton_iff, Option.failure_eq_none]
      | none => cases hValue : value.boolean? <;> simp [joins_nil_iff, joins_singleton_iff]
    · next hOverview hUsage hIncludeHidden =>
      rw [if_neg hOverview, if_neg hUsage, if_neg hIncludeHidden]
      simp [joins_nil_iff]

/-- What the entries give together is what they give one after the other. -/
theorem foldlM_add?_eq_some_iff : entries.foldlM add? before = some after ↔ before.Gains entries after := by
  induction entries generalizing before with
  | nil => simp [gains_nil_iff]
  | cons entry entries ih =>
    rw [← List.singleton_append, gains_append_iff, List.singleton_append, List.foldlM_cons]
    simp only [Option.bind_eq_bind, Option.bind_eq_some_iff, add?_eq_some_iff, ih]

/-- The entries hold the fields: their keys are scalars, and each known key comes once, with a value of the type of
its field, or not at all. -/
structure IsStoredIn (fields : Fields) (entries : List (Leaf × Leaf)) : Prop where
  keys : ∀ entry ∈ entries, entry.1.text? ≠ Option.none
  overview : (valuesOf "overview" entries).map Leaf.text? = fields.overview.toList.map some
  usage : (valuesOf "usage" entries).map Leaf.text? = fields.usage.toList.map some
  includeHidden : (valuesOf "include_hidden" entries).map Leaf.boolean? = fields.includeHidden.toList.map some

theorem isStoredIn_iff : fields.IsStoredIn entries ↔ Fields.none.Gains entries fields := by
  constructor
  · rintro ⟨hKeys, hOverview, hUsage, hIncludeHidden⟩
    exact ⟨hKeys, joins_none_iff.2 hOverview, joins_none_iff.2 hUsage, joins_none_iff.2 hIncludeHidden⟩
  · rintro ⟨hKeys, hOverview, hUsage, hIncludeHidden⟩
    exact ⟨hKeys, joins_none_iff.1 hOverview, joins_none_iff.1 hUsage, joins_none_iff.1 hIncludeHidden⟩

/-- The bytes are a YAML document that holds the fields: a text whose one document is a record with entries that
hold them. -/
def IsYamlOf (fields : Fields) (content : ByteArray) : Prop :=
  ∃ cs entries, Yaml.characters? content = some cs ∧ Yaml.recordOfText? cs = some entries ∧
    fields.IsStoredIn entries

theorem ofYaml?_eq_some_iff {content : ByteArray} : ofYaml? content = some fields ↔ fields.IsYamlOf content := by
  simp only [ofYaml?, Option.bind_eq_bind, Option.bind_eq_some_iff, foldlM_add?_eq_some_iff, IsYamlOf,
    isStoredIn_iff, exists_and_left]

end Fields

/-! ## Documents -/

variable {settings : Settings} {content : ByteArray}

/-- Settings are had from the documents that hold fields, and have the defaults of the others. -/
theorem ofYaml_eq_ok_iff : ofYaml content = .ok settings ↔
    ∃ fields : Fields, fields.IsYamlOf content ∧ settings = fields.settings := by
  simp only [← Fields.ofYaml?_eq_some_iff]
  rw [ofYaml]
  cases Fields.ofYaml? content <;> simp [eq_comm]

theorem ofYaml_eq_error_iff {error : YamlError} : ofYaml content = .error error ↔
    (∀ fields : Fields, ¬ fields.IsYamlOf content) ∧ error = .notSettings := by
  simp only [← Fields.ofYaml?_eq_some_iff]
  rw [ofYaml]
  cases Fields.ofYaml? content <;> simp [eq_comm]

end CompilerDriver.Help.Settings
