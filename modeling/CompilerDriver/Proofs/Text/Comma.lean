import CompilerDriver.Text.Comma
/-!
# Cutting a token at its commas

`isCut_splitCommas`: the parts of a token have no comma in them, there is at least one, and with a comma
between each two they are the token again. No other list of texts has these three properties (`isCut_iff`), so
joining parts and cutting them apart again gives them back (`splitCommas_intercalate`). A list is cut at an
element in one way only (`cut_inj`).
-/

namespace CompilerDriver.Text

/-- The parts are what stands between the commas of the token. -/
structure IsCut (token : String) (parts : List String) : Prop where
  nonempty : parts ≠ []
  plain : ∀ part ∈ parts, ',' ∉ part.toList
  joined : ",".intercalate parts = token

/-- Where lists without a certain element are cut at it, the cut can be undone. -/
theorem cut_inj {α : Type} {c : α} {a b x y : List α} (ha : c ∉ a) (hb : c ∉ b)
    (h : a ++ c :: x = b ++ c :: y) : a = b ∧ x = y := by
  induction a generalizing b with
  | nil =>
    cases b with
    | nil => exact ⟨rfl, (List.cons.inj h).2⟩
    | cons d b => exact absurd (List.cons.inj h).1 (fun hc => hb (hc ▸ List.mem_cons_self))
  | cons d a ih =>
    cases b with
    | nil => exact absurd (List.cons.inj h).1.symm (fun hc => ha (hc ▸ List.mem_cons_self))
    | cons e b =>
      obtain ⟨rfl, hRest⟩ := List.cons.inj h
      obtain ⟨rfl, hxy⟩ := ih (fun hc => ha (List.mem_cons_of_mem _ hc))
        (fun hc => hb (List.mem_cons_of_mem _ hc)) hRest
      exact ⟨rfl, hxy⟩

theorem joinChars_eq_intercalate (sep : Char) (parts : List (List Char)) :
    joinChars sep parts = [sep].intercalate parts := by
  fun_induction joinChars sep parts with
  | case1 => rfl
  | case2 part => simp
  | case3 part next parts ih => simp [ih]

theorem not_mem_splitChars {sep : Char} {cs : List Char} : ∀ part ∈ splitChars sep cs, sep ∉ part := by
  fun_induction splitChars sep cs with
  | case1 => simp
  | case2 rest ih => simpa using ih
  | case3 c rest hc hs ih => exact absurd hs (splitChars_ne_nil sep rest)
  | case4 c rest hc part parts hs ih =>
    rw [hs] at ih
    intro p hp
    rcases List.mem_cons.1 hp with rfl | hp
    · simp [Ne.symm hc, ih part List.mem_cons_self]
    · exact ih p (List.mem_cons_of_mem _ hp)

theorem isCut_splitCommas (token : String) : IsCut token (splitCommas token) where
  nonempty := by simp [splitCommas, splitChars_ne_nil]
  plain := by
    intro part hPart
    obtain ⟨cs, hcs, rfl⟩ := List.mem_map.1 hPart
    rw [String.toList_ofList]
    exact not_mem_splitChars cs hcs
  joined := by
    apply String.toList_inj.1
    rw [String.toList_intercalate, splitCommas, List.map_map]
    simp only [Function.comp_def, String.toList_ofList, List.map_id_fun']
    exact (joinChars_eq_intercalate _ _).symm.trans (joinChars_splitChars _ _)

/-! ## One cut only -/

theorem splitChars_eq_splitOn (sep : Char) (cs : List Char) : splitChars sep cs = cs.splitOn sep := by
  induction cs with
  | nil => rfl
  | cons c rest ih =>
    rw [splitChars, List.splitOn, List.splitOnP_cons_eq_if_modifyHead, ← List.splitOn, ← ih]
    simp only [beq_iff_eq]
    congr 1
    cases hs : splitChars sep rest with
    | nil => exact absurd hs (splitChars_ne_nil sep rest)
    | cons part parts => rfl

/-- Parts without a comma that are joined by commas are cut apart again. -/
theorem splitCommas_intercalate {parts : List String} (hNonempty : parts ≠ [])
    (hPlain : ∀ part ∈ parts, ',' ∉ part.toList) : splitCommas (",".intercalate parts) = parts := by
  have hChars : ∀ cs ∈ parts.map String.toList, ',' ∉ cs := List.forall_mem_map.2 hPlain
  have hSplit := List.splitOn_intercalate ',' hChars (by simpa using hNonempty)
  rw [splitCommas, splitChars_eq_splitOn, String.toList_intercalate]
  rw [show ",".toList = [','] from rfl, hSplit, List.map_map]
  simp [Function.comp_def, String.ofList_toList]

theorem isCut_iff {token : String} {parts : List String} : IsCut token parts ↔ parts = splitCommas token := by
  constructor
  · rintro ⟨hNonempty, hPlain, rfl⟩
    exact (splitCommas_intercalate hNonempty hPlain).symm
  · rintro rfl
    exact isCut_splitCommas token

end CompilerDriver.Text
