import CompilerDriver.FileType.Listing
/-!
# Names of file types

A file type is found by its name and by nothing else (`ofName?_eq_some_iff`): no two types have one name, so
none has taken the place of another in the table of names. Parsing a text and decoding a JSON value look up
the same table (`parse_eq_ok_iff`, `ofJson_eq_ok_iff`).
-/

namespace CompilerDriver.FileType

theorem mem_all (ty : FileType) : ty ∈ all := by
  cases ty <;> decide

theorem byName_eq_reverse : byName = (all.map (fun ty => (ty.name, ty))).reverse :=
  rfl

theorem eq_name_of_mem_byName {s : String} {ty : FileType} (h : (s, ty) ∈ byName) : s = ty.name := by
  rw [byName_eq_reverse, List.mem_reverse] at h
  obtain ⟨_, -, heq⟩ := List.mem_map.1 h
  cases heq
  rfl

theorem ofName?_name (ty : FileType) : ofName? ty.name = some ty := by
  have h : ∀ ty ∈ all, ofName? ty.name = some ty := by decide +kernel
  exact h ty (mem_all ty)

theorem name_injective {ty ty' : FileType} (h : ty.name = ty'.name) : ty = ty' := by
  have hFound := ofName?_name ty
  rw [h, ofName?_name] at hFound
  exact (Option.some.inj hFound).symm

theorem ofName?_eq_some_iff {s : String} {ty : FileType} : ofName? s = some ty ↔ s = ty.name := by
  constructor
  · intro h
    obtain ⟨before, after, hEntries, -⟩ := List.lookup_eq_some_iff.1 h
    apply eq_name_of_mem_byName
    rw [hEntries]
    exact List.mem_append_right _ List.mem_cons_self
  · rintro rfl
    exact ofName?_name ty

theorem ofName?_eq_none_iff {s : String} : ofName? s = none ↔ ∀ ty : FileType, s ≠ ty.name := by
  rw [Option.eq_none_iff_forall_ne_some]
  simp only [ne_eq, ofName?_eq_some_iff]

theorem nodup_byName : (byName.map (·.1)).Nodup := by
  have hAll : all.Nodup := by decide
  rw [byName_eq_reverse, List.Nodup, List.pairwise_map, List.pairwise_reverse, List.pairwise_map]
  apply hAll.imp
  intro ty ty' hOther hName
  exact hOther (name_injective hName.symm)

/-! ## Texts and JSON values -/

theorem parse_eq_ok_iff {s : String} {ty : FileType} : parse s = .ok ty ↔ s = ty.name := by
  rw [← ofName?_eq_some_iff, parse]
  cases ofName? s <;> simp

theorem parse_eq_error {s : String} (h : ∀ ty : FileType, s ≠ ty.name) : parse s = .error ⟨s⟩ := by
  rw [parse, ofName?_eq_none_iff.2 h]

theorem ofJson_text (s : String) : ofJson (.text s) = (parse s).mapError .unknownFileType :=
  rfl

/-- Only a text is decoded, and only if it is a name. -/
theorem ofJson_eq_ok_iff {value : Json} {ty : FileType} : ofJson value = .ok ty ↔ value = .text ty.name := by
  constructor
  · intro h
    cases value with
    | text s =>
      rw [ofJson_text] at h
      cases hParsed : parse s with
      | error e =>
        rw [hParsed] at h
        cases h
      | ok ty' =>
        rw [hParsed] at h
        cases h
        rw [parse_eq_ok_iff.1 hParsed]
    | _ => cases h
  · rintro rfl
    rw [ofJson_text, parse_eq_ok_iff.2 rfl]
    rfl

end CompilerDriver.FileType
