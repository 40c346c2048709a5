import CompilerDriver.Catalogue.Encoding
import CompilerDriver.Proofs.Json.Decoding
/-!
# The stored forms of an occurrence

An occurrence is read from an object or from a list, its argument as well, and the tag of an argument in an
object from its key or from an object with that one key. `Occurrence.IsStoredAs` lists these forms. They are all
that is read (`Occurrence.ofJson_eq_ok_iff`), so what is read is what was stored, and no two occurrences have a
stored form in common (`Occurrence.ofJson_iff_and_toJson`).
-/

namespace CompilerDriver

namespace Argument

/-! ## Forms -/

/-- The tag of the argument. -/
def tag : Argument → Tag
  | .flag => .flag
  | .value _ => .value
  | .values _ => .values
  | .input _ => .input

/-- The value is the content of the argument: nothing, the text, or the texts in their order. -/
inductive HasContent : Argument → Json → Prop
  | flag : HasContent .flag .null
  | value (text : String) : HasContent (.value text) (.text text)
  | values (texts : List String) : HasContent (.values texts) (.array (texts.map .text))
  | input (path : String) : HasContent (.input path) (.text path)

/-- The value carries the tag, as its key or as an object with that one key and null. -/
inductive Tag.IsStoredAs (tag : Tag) : Json → Prop
  | key : IsStoredAs tag (.text tag.key)
  | case : IsStoredAs tag (.object [(tag.key, .null)])

/-- The value carries the tag and the content of the argument. An object may have other keys as well, and may
lack the content of a flag. -/
inductive IsStoredAs (argument : Argument) : Json → Prop
  | object {members : List (String × Json)} {stored content : Json}
      (hTag : Json.member? "kind" members = some stored) (isTag : argument.tag.IsStoredAs stored)
      (hContent : Json.member? "value" members = some content) (isContent : argument.HasContent content) :
      IsStoredAs argument (.object members)
  | bareObject {members : List (String × Json)} {stored : Json}
      (hTag : Json.member? "kind" members = some stored) (isTag : argument.tag.IsStoredAs stored)
      (hContent : Json.member? "value" members = none) (isFlag : argument = .flag) :
      IsStoredAs argument (.object members)
  | list {content : Json} (isContent : argument.HasContent content) :
      IsStoredAs argument (.array [.text argument.tag.key, content])

end Argument

/-- The value carries the spelling and the argument of the occurrence. An object may have other keys as well. -/
inductive Occurrence.IsStoredAs (occurrence : Occurrence) : Json → Prop
  | object {members : List (String × Json)} {stored : Json}
      (hOption : Json.member? "option" members = some (.text occurrence.option))
      (hArgument : Json.member? "argument" members = some stored)
      (isArgument : occurrence.argument.IsStoredAs stored) : IsStoredAs occurrence (.object members)
  | list {stored : Json} (isArgument : occurrence.argument.IsStoredAs stored) :
      IsStoredAs occurrence (.array [.text occurrence.option, stored])

/-! ## Reading an argument -/

namespace Argument

variable {argument : Argument} {tag : Tag} {value : Json}

theorem Tag.mem_all (tag : Tag) : tag ∈ all := by
  cases tag <;> decide

theorem Tag.key_injective : Function.Injective key := by
  intro tag tag' h
  have hAll : ∀ tag ∈ all, ∀ tag' ∈ all, tag.key = tag'.key → tag = tag' := by decide
  exact hAll tag (mem_all tag) tag' (mem_all tag') h

theorem Tag.decodeCase_eq_ok_iff : Json.decodeCase all key value = .ok tag ↔ tag.IsStoredAs value := by
  rw [Json.decodeCase_eq_ok_iff mem_all key_injective]
  constructor
  · rintro (rfl | rfl)
    · exact .key
    · exact .case
  · rintro (_ | _)
    · exact .inl rfl
    · exact .inr rfl

theorem decodeContent_eq_ok_iff :
    decodeContent tag value = .ok argument ↔ argument.tag = tag ∧ argument.HasContent value := by
  constructor
  · intro h
    cases tag with
    | flag =>
      obtain ⟨⟨⟩, hUnit, heq⟩ := bind_eq_ok_iff.1 h
      cases heq
      rw [Json.decodeUnit_eq_ok_iff.1 hUnit]
      exact ⟨rfl, .flag⟩
    | value =>
      obtain ⟨text, hText, rfl⟩ := map_eq_ok_iff.1 h
      rw [Json.decodeText_eq_ok_iff.1 hText]
      exact ⟨rfl, .value text⟩
    | values =>
      obtain ⟨texts, hTexts, rfl⟩ := map_eq_ok_iff.1 h
      rw [Json.decodeTexts_eq_ok_iff.1 hTexts]
      exact ⟨rfl, .values texts⟩
    | input =>
      obtain ⟨path, hPath, rfl⟩ := map_eq_ok_iff.1 h
      rw [Json.decodeText_eq_ok_iff.1 hPath]
      exact ⟨rfl, .input path⟩
  · rintro ⟨rfl, h⟩
    cases h with
    | flag => rfl
    | value => rfl
    | values texts => exact map_eq_ok_iff.2 ⟨texts, Json.decodeTexts_eq_ok_iff.2 rfl, rfl⟩
    | input => rfl

theorem decodeWithoutContent_eq_ok_iff :
    decodeWithoutContent tag = .ok argument ↔ tag = .flag ∧ argument = .flag := by
  cases tag <;> simp [decodeWithoutContent, eq_comm]

theorem ofMembers_eq_ok_iff {members : List (String × Json)} :
    ofMembers members = .ok argument ↔ argument.IsStoredAs (.object members) := by
  unfold ofMembers
  constructor
  · intro h
    split at h
    · cases h
    · next stored hTag =>
      obtain ⟨tag, hStored, h⟩ := bind_eq_ok_iff.1 h
      rw [Tag.decodeCase_eq_ok_iff] at hStored
      split at h
      · next content hContent =>
        obtain ⟨rfl, isContent⟩ := decodeContent_eq_ok_iff.1 h
        exact .object hTag hStored hContent isContent
      · next hContent =>
        obtain ⟨rfl, rfl⟩ := decodeWithoutContent_eq_ok_iff.1 h
        exact .bareObject hTag hStored hContent rfl
  · intro h
    cases h with
    | object hTag isTag hContent isContent =>
      rw [hTag, hContent]
      exact bind_eq_ok_iff.2
        ⟨_, Tag.decodeCase_eq_ok_iff.2 isTag, decodeContent_eq_ok_iff.2 ⟨rfl, isContent⟩⟩
    | bareObject hTag isTag hContent isFlag =>
      subst isFlag
      rw [hTag, hContent]
      exact bind_eq_ok_iff.2 ⟨_, Tag.decodeCase_eq_ok_iff.2 isTag, rfl⟩

theorem ofItems_eq_ok_iff {items : List Json} :
    ofItems items = .ok argument ↔ argument.IsStoredAs (.array items) := by
  unfold ofItems
  constructor
  · intro h
    cases items with
    | nil => cases h
    | cons stored rest =>
      obtain ⟨tag, hStored, h⟩ := bind_eq_ok_iff.1 h
      rw [Json.decodeCaseName_eq_ok_iff Tag.mem_all Tag.key_injective] at hStored
      cases rest with
      | nil => cases h
      | cons content left =>
        obtain ⟨argument', hContent, h⟩ := bind_eq_ok_iff.1 h
        obtain ⟨rfl, rfl⟩ := Json.allItems_eq_ok_iff.1 h
        obtain ⟨rfl, isContent⟩ := decodeContent_eq_ok_iff.1 hContent
        rw [hStored]
        exact .list isContent
  · intro h
    cases h with
    | list isContent =>
      have hTag := (Json.decodeCaseName_eq_ok_iff Tag.mem_all Tag.key_injective).2
        (rfl : Json.text argument.tag.key = _)
      exact bind_eq_ok_iff.2 ⟨_, hTag, bind_eq_ok_iff.2
        ⟨argument, decodeContent_eq_ok_iff.2 ⟨rfl, isContent⟩, rfl⟩⟩

theorem ofJson_eq_ok_iff : ofJson value = .ok argument ↔ argument.IsStoredAs value := by
  cases value with
  | object members => exact ofMembers_eq_ok_iff
  | array items => exact ofItems_eq_ok_iff
  | _ =>
    constructor
    · intro h
      cases h
    · intro h
      cases h

theorem toJson_isStoredAs (argument : Argument) : argument.IsStoredAs argument.toJson := by
  cases argument with
  | flag => exact .bareObject rfl .key rfl rfl
  | value text => exact .object rfl .key rfl (.value text)
  | values texts => exact .object rfl .key rfl (.values texts)
  | input path => exact .object rfl .key rfl (.input path)

/-- Keys without a meaning are skipped. -/
theorem ofJson_setMember {key : String} (hTag : key ≠ "kind") (hContent : key ≠ "value") (content : Json)
    (members : List (String × Json)) :
    ofJson (.object (Json.setMember key content members)) = ofJson (.object members) := by
  simp only [ofJson, ofMembers, Json.member?_setMember hTag, Json.member?_setMember hContent]

end Argument

/-! ## Reading an occurrence -/

namespace Occurrence

variable {occurrence occurrence' : Occurrence} {value : Json}

theorem ofMembers_eq_ok_iff {members : List (String × Json)} :
    ofMembers members = .ok occurrence ↔ occurrence.IsStoredAs (.object members) := by
  unfold ofMembers
  constructor
  · intro h
    obtain ⟨argument, hArgument, h⟩ := bind_eq_ok_iff.1 h
    obtain ⟨option, hOption, h⟩ := bind_eq_ok_iff.1 h
    -- both parts have to be there
    split at h
    · cases h
    · cases h
    · cases h
      obtain ⟨stored, hStored, hDecoded⟩ := mapM_eq_ok_some_iff.1 hArgument
      obtain ⟨text, hText, hDecodedText⟩ := mapM_eq_ok_some_iff.1 hOption
      rw [Json.decodeText_eq_ok_iff.1 hDecodedText] at hText
      exact .object hText hStored (Argument.ofJson_eq_ok_iff.1 hDecoded)
  · intro h
    cases h with
    | object hOption hArgument isArgument =>
      have hDecoded := mapM_eq_ok_some_iff.2
        ⟨_, hArgument, Argument.ofJson_eq_ok_iff.2 isArgument⟩
      have hText := mapM_eq_ok_some_iff.2 ⟨_, hOption, Json.decodeText_eq_ok_iff.2 rfl⟩
      exact bind_eq_ok_iff.2 ⟨_, hDecoded, bind_eq_ok_iff.2 ⟨_, hText, rfl⟩⟩

theorem ofItems_eq_ok_iff {items : List Json} :
    ofItems items = .ok occurrence ↔ occurrence.IsStoredAs (.array items) := by
  unfold ofItems
  constructor
  · intro h
    cases items with
    | nil => cases h
    | cons first rest =>
      obtain ⟨option, hOption, h⟩ := bind_eq_ok_iff.1 h
      cases rest with
      | nil => cases h
      | cons second left =>
        obtain ⟨argument, hArgument, h⟩ := bind_eq_ok_iff.1 h
        obtain ⟨rfl, rfl⟩ := Json.allItems_eq_ok_iff.1 h
        rw [Json.decodeText_eq_ok_iff.1 hOption]
        exact .list (Argument.ofJson_eq_ok_iff.1 hArgument)
  · intro h
    cases h with
    | list isArgument =>
      exact bind_eq_ok_iff.2 ⟨_, rfl, bind_eq_ok_iff.2
        ⟨_, Argument.ofJson_eq_ok_iff.2 isArgument, rfl⟩⟩

theorem ofJson_eq_ok_iff : ofJson value = .ok occurrence ↔ occurrence.IsStoredAs value := by
  cases value with
  | object members => exact ofMembers_eq_ok_iff
  | array items => exact ofItems_eq_ok_iff
  | _ =>
    constructor
    · intro h
      cases h
    · intro h
      cases h

theorem toJson_isStoredAs (occurrence : Occurrence) : occurrence.IsStoredAs occurrence.toJson :=
  .object rfl rfl occurrence.argument.toJson_isStoredAs

/-- Keys without a meaning are skipped. -/
theorem ofJson_setMember {key : String} (hOption : key ≠ "option") (hArgument : key ≠ "argument")
    (content : Json) (members : List (String × Json)) :
    ofJson (.object (Json.setMember key content members)) = ofJson (.object members) := by
  simp only [ofJson, ofMembers, Json.member?_setMember hOption, Json.member?_setMember hArgument]

theorem eq_of_isStoredAs (h : occurrence.IsStoredAs value) (h' : occurrence'.IsStoredAs value) :
    occurrence = occurrence' :=
  Except.ok.inj ((ofJson_eq_ok_iff.2 h).symm.trans (ofJson_eq_ok_iff.2 h'))

/-- An occurrence is read from its stored forms and from nothing else, and the value that it is written as is one
of them. So no value is a stored form of two occurrences. More keys without a meaning, in the value or in the
part with the argument, change nothing. -/
theorem ofJson_iff_and_toJson :
    (∀ (value : Json) (occurrence : Occurrence),
        ofJson value = .ok occurrence ↔ occurrence.IsStoredAs value) ∧
      (∀ occurrence, ofJson (toJson occurrence) = .ok occurrence) ∧
      (∀ (value : Json) (occurrence occurrence' : Occurrence),
        occurrence.IsStoredAs value → occurrence'.IsStoredAs value → occurrence = occurrence') ∧
      (∀ (key : String) (content : Json) (members : List (String × Json)),
        key ≠ "option" → key ≠ "argument" →
          ofJson (.object (Json.setMember key content members)) = ofJson (.object members)) ∧
      ∀ (key : String) (content : Json) (members : List (String × Json)), key ≠ "kind" → key ≠ "value" →
        Argument.ofJson (.object (Json.setMember key content members)) = Argument.ofJson (.object members) := by
  refine ⟨fun _ _ => ofJson_eq_ok_iff, fun occurrence => ofJson_eq_ok_iff.2 occurrence.toJson_isStoredAs, ?_,
    ?_, ?_⟩
  · intro value occurrence occurrence' h h'
    exact eq_of_isStoredAs h h'
  · intro key content members hOption hArgument
    exact ofJson_setMember hOption hArgument content members
  · intro key content members hTag hContent
    exact Argument.ofJson_setMember hTag hContent content members

/-- A list of texts in the list form of the argument, in an object with a key that has no meaning. -/
theorem ofJson_sample :
    ofJson (.object [("argument", .array [.text "values", .array [.text "a", .text ""]]),
        ("note", .null), ("option", .text "-sanitize=")]) = .ok ⟨"-sanitize=", .values ["a", ""]⟩ ∧
      ofJson (.array [.text "-v", .object [("kind", .object [("flag", .null)])]]) = .ok ⟨"-v", .flag⟩ ∧
      "note" ≠ "option" ∧ "note" ≠ "argument" ∧
      ofJson (.object (Json.setMember "note" .null [("option", .text "-v")])) =
        ofJson (.object [("option", .text "-v")]) := by
  obtain ⟨hForms, -, -, hKeys, -⟩ := ofJson_iff_and_toJson
  refine ⟨(hForms _ _).2 (.object rfl rfl (.list (.values ["a", ""]))), ?_, by decide, by decide,
    hKeys "note" .null _ (by decide) (by decide)⟩
  exact (hForms _ _).2 (.list (.bareObject rfl .case rfl rfl))

end Occurrence

end CompilerDriver
