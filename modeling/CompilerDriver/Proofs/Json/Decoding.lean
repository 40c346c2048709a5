import CompilerDriver.Json.Decoding
import CompilerDriver.Proofs.Basic
import Mathlib.Logic.Function.Basic
/-!
# What decoders accept

Each decoder gives a value for certain JSON values only, and one lemma says for which. Texts, lists of texts
and nothing have one form; a case has two where it is read as a key, and one where it is read as a name. What a
member of an object is does not depend on the others (`member?_setMember`).
-/

namespace CompilerDriver.Json

/-! ## Texts, lists and nothing -/

variable {value : Json}

theorem decodeText_eq_ok_iff {s : String} : decodeText value = .ok s ↔ value = .text s := by
  cases value <;> simp [decodeText]

theorem decodeBoolean_eq_ok_iff {b : Bool} : decodeBoolean value = .ok b ↔ value = .boolean b := by
  cases value <;> simp [decodeBoolean]

theorem decodeTextItems_eq_ok_iff {items : List Json} {texts : List String} :
    decodeTextItems items = .ok texts ↔ items = texts.map .text := by
  induction items generalizing texts with
  | nil => cases texts <;> simp [decodeTextItems]
  | cons item items ih =>
    simp only [decodeTextItems, bind_eq_ok_iff, decodeText_eq_ok_iff, ih]
    constructor
    · rintro ⟨first, rfl, rest, rfl, heq⟩
      cases heq
      rfl
    · intro h
      cases texts with
      | nil => cases h
      | cons first rest =>
        cases h
        exact ⟨first, rfl, rest, rfl, rfl⟩

theorem decodeTexts_eq_ok_iff {texts : List String} :
    decodeTexts value = .ok texts ↔ value = .array (texts.map .text) := by
  cases value <;> simp [decodeTexts, decodeTextItems_eq_ok_iff]

theorem decodeUnit_eq_ok_iff {wanted : Wanted} : decodeUnit wanted value = .ok () ↔ value = .null := by
  cases value <;> simp [decodeUnit]

theorem allItems_eq_ok_iff {α : Type} {count : Nat} {left : List Json} {a b : α} :
    allItems count left a = .ok b ↔ left = [] ∧ a = b := by
  cases left <;> simp [allItems]

/-! ## Members -/

theorem member?_setMember {key key' : String} (h : key' ≠ key) (content : Json)
    (members : List (String × Json)) :
    member? key (setMember key' content members) = member? key members := by
  have hNew : ∀ rest, member? key ((key', content) :: rest) = member? key rest := by
    intro rest
    rw [member?, List.find?_cons_of_neg (by simpa using h)]
    rfl
  induction members with
  | nil => exact hNew []
  | cons first members ih =>
    obtain ⟨k, v⟩ := first
    rw [setMember]
    split
    · exact hNew _
    · split
      · next hSame =>
        subst hSame
        rw [hNew, member?, member?, List.find?_cons_of_neg (by simpa using h)]
      · unfold member? at ih ⊢
        rw [List.find?_cons, List.find?_cons]
        split
        · rfl
        · exact ih

theorem member?_filter (keep : String → Bool) (key : String) (members : List (String × Json)) :
    member? key (members.filter (fun member => keep member.1)) =
      if keep key then member? key members else none := by
  have hSame : ∀ member : String × Json,
      (keep member.1 && member.1 == key) = (keep key && member.1 == key) := by
    intro member
    by_cases h : member.1 = key
    · rw [h]
    · rw [beq_false_of_ne h, Bool.and_false, Bool.and_false]
  rw [member?, List.find?_filter]
  simp only [Bool.decide_and, Bool.decide_eq_true, hSame]
  cases keep key <;> simp [member?]

/-! ## Cases -/

section Cases

variable {α : Type} {known : List α} {key : α → String} {a : α}

theorem findCase_eq_ok_iff (hKnown : ∀ a, a ∈ known) (hKey : Function.Injective key) {name : String} :
    findCase known key name = .ok a ↔ name = key a := by
  unfold findCase
  cases hFound : known.find? (fun case => key case == name) with
  | none =>
    have hOther := List.find?_eq_none.1 hFound a (hKnown a)
    simp only [reduceCtorEq, false_iff]
    rintro rfl
    exact hOther (beq_self_eq_true _)
  | some b =>
    have hNamed := List.find?_some hFound
    have hName : key b = name := eq_of_beq hNamed
    simp [← hName, hKey.eq_iff]

/-- A case is read from its key, or from an object with that one key and null. -/
theorem decodeCase_eq_ok_iff (hKnown : ∀ a, a ∈ known) (hKey : Function.Injective key) :
    decodeCase known key value = .ok a ↔ value = .text (key a) ∨ value = .object [(key a, .null)] := by
  cases value with
  | text name => simp [decodeCase, findCase_eq_ok_iff hKnown hKey]
  | object members =>
    match members with
    | [(name, content)] =>
      simp only [decodeCase, bind_eq_ok_iff, findCase_eq_ok_iff hKnown hKey]
      constructor
      · rintro ⟨a', rfl, ⟨⟩, hUnit, heq⟩
        cases heq
        rw [decodeUnit_eq_ok_iff.1 hUnit]
        exact .inr rfl
      · rintro (h | h)
        · cases h
        · cases h
          exact ⟨a, rfl, (), rfl, rfl⟩
    | [] => simp [decodeCase]
    | _ :: _ :: _ => simp [decodeCase]
  | _ => simp [decodeCase]

theorem decodeCaseName_eq_ok_iff (hKnown : ∀ a, a ∈ known) (hKey : Function.Injective key) :
    decodeCaseName known key value = .ok a ↔ value = .text (key a) := by
  cases value <;> simp [decodeCaseName, findCase_eq_ok_iff hKnown hKey]

end Cases

end CompilerDriver.Json
