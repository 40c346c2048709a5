import CompilerDriver.Help.SettingsJson
import CompilerDriver.Help.SettingsYaml
import CompilerDriver.Proofs.Json.Decoding
/-!
# What settings are decoded from

A JSON value gives some of the fields of settings, or it gives none: `Fields.IsStoredAs` says which fields a value
gives. Settings are decoded from the values that give fields and from no others, and what is not given has its
default (`ofJson_eq_ok_iff`). So it does not matter whether the fields stand in an object or a list, nor which
other keys an object has (`ofJson_iff_and_overlay`).
-/

namespace CompilerDriver.Help.Settings

/-- The keys with a meaning. -/
def knownKeys : List String :=
  ["overview", "usage", "include_hidden"]

/-- The value gives these fields and no others. An object gives the fields whose keys it has, whatever other keys
it has, and a list of up to three items gives as many of the fields in their order. Each has the type of its field,
which null is not. -/
inductive Fields.IsStoredAs (fields : Fields) : Json → Prop
  | object {members : List (String × Json)}
      (hOverview : Json.member? "overview" members = fields.overview.map .text)
      (hUsage : Json.member? "usage" members = fields.usage.map .text)
      (hIncludeHidden : Json.member? "include_hidden" members = fields.includeHidden.map .boolean) :
      IsStoredAs fields (.object members)
  | list {items : List Json} (hLength : items.length ≤ 3)
      (hOverview : items[0]? = fields.overview.map .text) (hUsage : items[1]? = fields.usage.map .text)
      (hIncludeHidden : items[2]? = fields.includeHidden.map .boolean) : IsStoredAs fields (.array items)

variable {settings : Settings} {fields : Fields} {value : Json}

/-! ## Decoding -/

theorem mapM_decodeText_eq_ok_iff {o : Option Json} {text : Option String} :
    o.mapM Json.decodeText = .ok text ↔ o = text.map .text :=
  mapM_eq_ok_iff_of_inverse fun _ _ => Json.decodeText_eq_ok_iff

theorem mapM_decodeBoolean_eq_ok_iff {o : Option Json} {b : Option Bool} :
    o.mapM Json.decodeBoolean = .ok b ↔ o = b.map .boolean :=
  mapM_eq_ok_iff_of_inverse fun _ _ => Json.decodeBoolean_eq_ok_iff

theorem ofMembers_eq_ok_iff {members : List (String × Json)} : ofMembers members = .ok settings ↔
    ∃ fields : Fields, fields.IsStoredAs (.object members) ∧ settings = fields.settings := by
  simp only [ofMembers, bind_eq_ok_iff, mapM_decodeText_eq_ok_iff, mapM_decodeBoolean_eq_ok_iff, pure_eq_ok_iff]
  constructor
  · rintro ⟨includeHidden, hIncludeHidden, overview, hOverview, usage, hUsage, rfl⟩
    exact ⟨⟨overview, usage, includeHidden⟩, .object hOverview hUsage hIncludeHidden, rfl⟩
  · rintro ⟨fields, h, rfl⟩
    cases h with
    | object hOverview hUsage hIncludeHidden => exact ⟨_, hIncludeHidden, _, hOverview, _, hUsage, rfl⟩

theorem ofItems_eq_ok_iff {items : List Json} : ofItems items = .ok settings ↔
    ∃ fields : Fields, fields.IsStoredAs (.array items) ∧ settings = fields.settings := by
  simp only [ofItems, bind_eq_ok_iff, mapM_decodeText_eq_ok_iff, mapM_decodeBoolean_eq_ok_iff,
    Json.allItems_eq_ok_iff, List.drop_eq_nil_iff]
  constructor
  · rintro ⟨overview, hOverview, usage, hUsage, includeHidden, hIncludeHidden, hLength, rfl⟩
    exact ⟨⟨overview, usage, includeHidden⟩, .list hLength hOverview hUsage hIncludeHidden, rfl⟩
  · rintro ⟨fields, h, rfl⟩
    cases h with
    | list hLength hOverview hUsage hIncludeHidden =>
      exact ⟨_, hOverview, _, hUsage, _, hIncludeHidden, hLength, rfl⟩

theorem ofJson_eq_ok_iff : ofJson value = .ok settings ↔
    ∃ fields : Fields, fields.IsStoredAs value ∧ settings = fields.settings := by
  cases value with
  | object members => exact ofMembers_eq_ok_iff
  | array items => exact ofItems_eq_ok_iff
  | _ =>
    constructor
    · intro h
      cases h
    · rintro ⟨fields, h, -⟩
      cases h

theorem Fields.IsStoredAs.ofJson_eq (h : fields.IsStoredAs value) : ofJson value = .ok fields.settings :=
  ofJson_eq_ok_iff.2 ⟨fields, h, rfl⟩

/-! ## Keys without a meaning -/

/-- Objects with the same members under the known keys are decoded alike, also where they are refused. -/
theorem ofJson_congr {members members' : List (String × Json)}
    (h : ∀ key ∈ knownKeys, Json.member? key members = Json.member? key members') :
    ofJson (.object members) = ofJson (.object members') := by
  simp only [knownKeys, List.forall_mem_cons] at h
  obtain ⟨hOverview, hUsage, hIncludeHidden, -⟩ := h
  simp only [ofJson, ofMembers, hOverview, hUsage, hIncludeHidden]

theorem ofJson_setMember {key : String} (h : key ∉ knownKeys) (content : Json)
    (members : List (String × Json)) :
    ofJson (.object (Json.setMember key content members)) = ofJson (.object members) := by
  apply ofJson_congr
  intro known hKnown
  have hOther : key ≠ known := by
    rintro rfl
    exact h hKnown
  exact Json.member?_setMember hOther content members

theorem ofJson_filter {keep : String → Bool} (h : ∀ key ∈ knownKeys, keep key = true)
    (members : List (String × Json)) :
    ofJson (.object (members.filter (fun member => keep member.1))) = ofJson (.object members) := by
  apply ofJson_congr
  intro known hKnown
  rw [Json.member?_filter, if_pos (h known hKnown)]

/-! ## Encoded settings -/

/-- The members of the object that settings are encoded as. -/
def members (settings : Settings) : List (String × Json) :=
  [("include_hidden", .boolean settings.includeHidden), ("overview", .text settings.overview),
    ("usage", .text settings.usage)]

/-- The settings with the default of each field whose key is not kept. -/
def overlay (settings : Settings) (keep : String → Bool) : Settings :=
  { overview := if keep "overview" then settings.overview else default.overview
    usage := if keep "usage" then settings.usage else default.usage
    includeHidden := if keep "include_hidden" then settings.includeHidden else default.includeHidden }

/-- The fields of the settings whose keys are kept. -/
def fieldsIn (settings : Settings) (keep : String → Bool) : Fields :=
  { overview := if keep "overview" then some settings.overview else none
    usage := if keep "usage" then some settings.usage else none
    includeHidden := if keep "include_hidden" then some settings.includeHidden else none }

theorem settings_fieldsIn (settings : Settings) (keep : String → Bool) :
    (settings.fieldsIn keep).settings = settings.overlay keep := by
  simp only [Fields.settings, fieldsIn, overlay]
  cases keep "overview" <;> cases keep "usage" <;> cases keep "include_hidden" <;> rfl

/-- Those members of an encoding that are kept give the fields that are kept. -/
theorem isStoredAs_members_filter (settings : Settings) (keep : String → Bool) :
    (settings.fieldsIn keep).IsStoredAs
      (.object (settings.members.filter (fun member => keep member.1))) := by
  constructor <;> rw [Json.member?_filter]
  · cases h : keep "overview" <;> simp [fieldsIn, h, members, Json.member?]
  · cases h : keep "usage" <;> simp [fieldsIn, h, members, Json.member?]
  · cases h : keep "include_hidden" <;> simp [fieldsIn, h, members, Json.member?]

theorem ofJson_members_filter (settings : Settings) (keep : String → Bool) :
    ofJson (.object (settings.members.filter (fun member => keep member.1))) =
      .ok (settings.overlay keep) := by
  rw [(settings.isStoredAs_members_filter keep).ofJson_eq, settings_fieldsIn]

theorem ofJson_toJson (settings : Settings) : ofJson settings.toJson = .ok settings :=
  settings.ofJson_members_filter fun _ => true

/-- Settings are decoded from the values that give fields and from nothing else, and have the default of each
field that is not given. So two values that give the same fields are decoded alike, be they objects or lists, and
keys without a meaning may be set or taken away. What settings are encoded as is decoded to them, and a part of
its members to the settings with the defaults of the other fields. -/
theorem ofJson_iff_and_overlay :
    (∀ (value : Json) (settings : Settings), ofJson value = .ok settings ↔
        ∃ fields : Fields, fields.IsStoredAs value ∧ settings = fields.settings) ∧
      (∀ (fields : Fields) (value value' : Json),
        fields.IsStoredAs value → fields.IsStoredAs value' → ofJson value = ofJson value') ∧
      (∀ (key : String) (content : Json) (members : List (String × Json)), key ∉ knownKeys →
        ofJson (.object (Json.setMember key content members)) = ofJson (.object members)) ∧
      (∀ (keep : String → Bool) (members : List (String × Json)), (∀ key ∈ knownKeys, keep key = true) →
        ofJson (.object (members.filter (fun member => keep member.1))) = ofJson (.object members)) ∧
      (∀ settings : Settings, ofJson settings.toJson = .ok settings) ∧
      ∀ (settings : Settings) (keep : String → Bool), ∃ members, settings.toJson = .object members ∧
        ofJson (.object (members.filter (fun member => keep member.1))) = .ok (settings.overlay keep) := by
  refine ⟨fun _ _ => ofJson_eq_ok_iff, ?_, ?_, ?_, ofJson_toJson, ?_⟩
  · intro fields value value' h h'
    rw [h.ofJson_eq, h'.ofJson_eq]
  · intro key content members h
    exact ofJson_setMember h content members
  · intro keep members h
    exact ofJson_filter h members
  · intro settings keep
    exact ⟨settings.members, rfl, settings.ofJson_members_filter keep⟩

/-- A list that ends early gives what an object with another key gives, null is not the default of a text, and a
fourth item is refused. -/
theorem ofJson_overlay_samples :
    ofJson (.array [.text "a"]) = ofJson (.object [("note", .null), ("overview", .text "a")]) ∧
      (∀ settings, ofJson (.object [("usage", .null)]) ≠ .ok settings) ∧
      (∀ settings, ofJson (.array [.text "a", .text "b", .boolean true, .null]) ≠ .ok settings) ∧
      "note" ∉ knownKeys ∧
      ofJson (.object (Json.setMember "note" .null [("usage", .text "b")])) =
        ofJson (.object [("usage", .text "b")]) ∧
      (∀ key ∈ knownKeys, (key != "note") = true) ∧
      ofJson (.object ([("note", .null), ("usage", .text "b")].filter (fun member => member.1 != "note"))) =
        ofJson (.object [("note", .null), ("usage", .text "b")]) := by
  obtain ⟨hForms, hAlike, hSet, hTaken, -⟩ := ofJson_iff_and_overlay
  refine ⟨hAlike ⟨some "a", none, none⟩ _ _ (.list (by decide) rfl rfl rfl) (.object rfl rfl rfl), ?_, ?_,
    by decide, hSet "note" .null _ (by decide), by decide, hTaken (· != "note") _ (by decide)⟩
  · intro settings h
    obtain ⟨fields, hStored, -⟩ := (hForms _ _).1 h
    cases hStored with
    | object hOverview hUsage =>
      cases hFields : fields.usage <;> simp [hFields, Json.member?] at hUsage
  · intro settings h
    obtain ⟨fields, hStored, -⟩ := (hForms _ _).1 h
    cases hStored with
    | list hLength => simp at hLength

end CompilerDriver.Help.Settings
