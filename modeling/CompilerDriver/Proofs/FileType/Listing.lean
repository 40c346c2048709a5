import CompilerDriver.FileType.Listing
import CompilerDriver.Proofs.FileType.Names
/-!
# Names in listings

A name has letters and dashes only, so no form of a listing escapes any of it, and its end can be seen. The
name of a type is the first word of the listing of that type alone, behind a certain mark (`shows_list`). So
no two types are listed alike (`list_singleton_injective`).
-/

namespace CompilerDriver.FileType

/-! ## The characters of a name -/

/-- Whether a character can stand in the name of a file type. -/
def isNameMark (c : Char) : Bool :=
  c.isAlpha || c = '-'

/-- Whether the text is a single word of such characters. -/
def isWord : List Char → Bool
  | [] => false
  | c :: cs => (c :: cs).all isNameMark

theorem isWord_name (ty : FileType) : isWord ty.name.toList = true := by
  have h : ∀ ty ∈ all, isWord ty.name.toList = true := by decide +kernel
  exact h ty (mem_all ty)

theorem exists_toList_name (ty : FileType) :
    ∃ c cs, ty.name.toList = c :: cs ∧ ∀ d ∈ c :: cs, isNameMark d = true := by
  have h := isWord_name ty
  cases hName : ty.name.toList with
  | nil =>
    rw [hName] at h
    cases h
  | cons c cs =>
    rw [hName] at h
    exact ⟨c, cs, rfl, List.all_eq_true.1 h⟩

theorem isNameMark_name (ty : FileType) : ∀ c ∈ ty.name.toList, isNameMark c = true := by
  obtain ⟨c, cs, hName, hMarks⟩ := exists_toList_name ty
  rw [hName]
  exact hMarks

variable {c : Char}

theorem toNat_of_isNameMark (h : isNameMark c = true) : 0x2D ≤ c.toNat ∧ c.toNat ≤ 0x7A := by
  rcases Bool.or_eq_true_iff.1 h with hLetter | hDash
  · rcases Bool.or_eq_true_iff.1 hLetter with hUpper | hLower
    · obtain ⟨hLow, hHigh⟩ : 'A'.val ≤ c.val ∧ c.val ≤ 'Z'.val := of_decide_eq_true hUpper
      exact ⟨Nat.le_trans (by decide) hLow, Nat.le_trans hHigh (by decide)⟩
    · obtain ⟨hLow, hHigh⟩ := Bool.and_eq_true_iff.1 hLower
      exact ⟨Nat.le_trans (by decide) (of_decide_eq_true hLow),
        Nat.le_trans (of_decide_eq_true hHigh) (by decide)⟩
  · obtain rfl := of_decide_eq_true hDash
    decide

theorem ne_of_isNameMark {d : Char} (h : isNameMark c = true) (hd : isNameMark d = false := by rfl) :
    c ≠ d := by
  rintro rfl
  rw [h] at hd
  cases hd

/-! ## Names as they are written -/

theorem writeChar_of_isNameMark (h : isNameMark c = true) : Json.writeChar c = [c] := by
  unfold Json.writeChar
  split
  -- None of the characters with an escape of their own is in a name.
  any_goals cases h
  next =>
    apply if_neg
    have := toNat_of_isNameMark h
    omega

theorem flatMap_writeChar {cs : List Char} (h : ∀ c ∈ cs, isNameMark c = true) :
    cs.flatMap Json.writeChar = cs := by
  induction cs with
  | nil => rfl
  | cons c cs ih =>
    rw [List.flatMap_cons, writeChar_of_isNameMark (h c List.mem_cons_self),
      ih (fun d hd => h d (List.mem_cons_of_mem _ hd))]
    rfl

theorem toList_writeText_name (ty : FileType) :
    (Json.writeText ty.name).toList = '"' :: (ty.name.toList ++ ['"']) := by
  rw [Json.writeText, String.toList_ofList, flatMap_writeChar (isNameMark_name ty), List.cons_append]

theorem isPrintable_of_isNameMark (h : isNameMark c = true) : Yaml.isPrintable c = true := by
  have := toNat_of_isNameMark h
  simp only [Yaml.isPrintable, Bool.or_eq_true, Bool.and_eq_true, decide_eq_true_eq]
  omega

theorem isBreak_of_isNameMark (h : isNameMark c = true) : Yaml.isBreak c = false := by
  cases hBreak : Yaml.isBreak c with
  | false => rfl
  | true =>
    simp only [Yaml.isBreak, Bool.or_eq_true, decide_eq_true_eq] at hBreak
    rcases hBreak with (rfl | rfl) | rfl <;> cases h

theorem hasPair_eq_false (first second : Char → Bool) {cs : List Char} (h : ∀ c ∈ cs, first c = false) :
    Yaml.hasPair first second cs = false := by
  fun_induction Yaml.hasPair first second cs with
  | case1 a b rest ih =>
    rw [h a List.mem_cons_self, ih (fun c hc => h c (List.mem_cons_of_mem _ hc))]
    rfl
  | case2 => rfl

theorem writeSingle_of_isNameMark (width : Nat) {cs : List Char} (h : ∀ c ∈ cs, isNameMark c = true) :
    Yaml.writeSingle width false cs = cs := by
  induction cs with
  | nil => rfl
  | cons c cs ih =>
    have hc := h c List.mem_cons_self
    have hQuote : c ≠ '\'' := ne_of_isNameMark hc
    rw [Yaml.writeSingle, isBreak_of_isNameMark hc, ih (fun d hd => h d (List.mem_cons_of_mem _ hd)),
      if_neg hQuote]
    rfl

/-- A name is written plain, or in single quotes if it could be read as something else than a text. -/
theorem writeScalar_name (width : Nat) (ty : FileType) :
    Yaml.writeScalar width ty.name.toList = ty.name.toList ++ ['\n'] ∨
      Yaml.writeScalar width ty.name.toList = '\'' :: (ty.name.toList ++ ['\'', '\n']) := by
  have hMarks := isNameMark_name ty
  have hFeed : ty.name.toList.contains '\n' = false := by
    rw [Bool.eq_false_iff]
    intro h
    cases hMarks _ (List.contains_iff_mem.1 h)
  have hQuotes : Yaml.allowsSingleQuotes ty.name.toList = true := by
    have hPrintable : ty.name.toList.all Yaml.isPrintable = true :=
      List.all_eq_true.2 (fun c hc => isPrintable_of_isNameMark (hMarks c hc))
    have hBreak := hasPair_eq_false Yaml.isBreak Yaml.isSpace
      (fun c hc => isBreak_of_isNameMark (hMarks c hc))
    have hSpace := hasPair_eq_false Yaml.isSpace Yaml.isBreak
      (fun c hc => decide_eq_false (ne_of_isNameMark (hMarks c hc)))
    rw [Yaml.allowsSingleQuotes, hPrintable, hBreak, hSpace]
    rfl
  unfold Yaml.writeScalar Yaml.styleOf
  rw [hFeed, hQuotes]
  cases !Yaml.needsQuotes ty.name.toList && Yaml.allowsPlain ty.name.toList with
  | true => exact .inl rfl
  | false =>
    right
    simp [writeSingle_of_isNameMark width hMarks]

/-! ## The listing of one type -/

/-- The text has the name as its first word behind the first of these marks. -/
inductive Shows (mark : Char) (name : List Char) : List Char → Prop
  | intro (before lead rest : List Char) : mark ∉ before → (∀ c ∈ lead, isNameMark c = false) →
      (∀ c ∈ rest.head?, isNameMark c = false) → Shows mark name (before ++ mark :: (lead ++ (name ++ rest)))

/-- The first word behind the first of these marks. -/
def firstWord (mark : Char) (text : List Char) : List Char :=
  ((text.dropWhile (· ≠ mark)).tail.dropWhile (!isNameMark ·)).takeWhile isNameMark

theorem Shows.firstWord_eq {mark : Char} {text : List Char} {ty : FileType}
    (h : Shows mark ty.name.toList text) : firstWord mark text = ty.name.toList := by
  obtain ⟨before, lead, rest, hBefore, hLead, hRest⟩ := h
  have hMark : ∀ c ∈ before, decide (c ≠ mark) = true :=
    fun c hc => decide_eq_true (fun h => hBefore (h ▸ hc))
  have hLead' : ∀ c ∈ lead, (!isNameMark c) = true := fun c hc => by simp [hLead c hc]
  have hName : (ty.name.toList ++ rest).dropWhile (!isNameMark ·) = ty.name.toList ++ rest := by
    obtain ⟨c, cs, hcs, hMarks⟩ := exists_toList_name ty
    rw [hcs]
    exact List.dropWhile_cons_of_neg (by simp [hMarks c List.mem_cons_self])
  have hRest' : rest.takeWhile isNameMark = [] := by
    cases rest with
    | nil => rfl
    | cons c rest => exact List.takeWhile_cons_of_neg (by simp [hRest c rfl])
  rw [firstWord, List.dropWhile_append_of_pos hMark, List.dropWhile_cons_of_neg (by simp), List.tail_cons,
    List.dropWhile_append_of_pos hLead', hName, List.takeWhile_append_of_pos (isNameMark_name ty), hRest',
    List.append_nil]

/-- The mark before the first name of a listing. -/
def Format.mark : Format → Char
  | .table => '\n'
  | .json | .yaml => ':'

theorem shows_formatTable (ty : FileType) : Shows '\n' ty.name.toList (formatTable [ty]).toList := by
  obtain ⟨titles, hFeed, hTitles⟩ : ∃ titles : String, '\n' ∉ titles.toList ∧
      tableLine (Text.widestBytes 4 [ty.name]) (Text.widestBytes 3 [ty.raw]) "NAME" "RAW" "SWIFT" "TEXTUAL"
        "AFTER-LLVM" "DESCRIPTION" = titles ++ "\n" :=
    ⟨_, by simp [Text.padRight, Text.spaces], rfl⟩
  obtain ⟨fill, rest, hText⟩ : ∃ fill rest, (formatTable [ty]).toList =
      titles.toList ++ '\n' :: ([] ++ (ty.name.toList ++ (List.replicate fill ' ' ++ ' ' :: rest))) := by
    refine ⟨?_, ?_, ?_⟩
    rotate_left 2
    · simp only [formatTable, List.map_cons, List.map_nil, hTitles]
      simp [tableLine, Text.padRight, Text.spaces]
      rfl
  rw [hText]
  refine .intro _ _ _ hFeed (by simp) ?_
  cases fill <;> simp [List.replicate_succ, isNameMark]

theorem shows_formatJson (ty : FileType) : Shows ':' ty.name.toList (formatJson [ty]).toList := by
  have hKey : (Json.writeText "name").toList = "\"name\"".toList := by rfl
  obtain ⟨rest, hText⟩ : ∃ rest, (formatJson [ty]).toList =
      "[\n  \x7b\n    \"name\"".toList ++ ':' :: ([' ', '"'] ++ (ty.name.toList ++ '"' :: rest)) := by
    refine ⟨?_, ?_⟩
    rotate_left
    · simp [formatJson, record, Json.indented, Json.indentedItems, Json.indentedMembers, Json.block,
        Json.separated, Json.writeLeaf, Json.lineStart, hKey, toList_writeText_name]
      rfl
  rw [hText]
  exact .intro _ _ _ (by simp) (by simp [isNameMark]) (by simp [isNameMark])

theorem shows_formatYaml (ty : FileType) : Shows ':' ty.name.toList (formatYaml [ty]).toList := by
  obtain ⟨rest, hRest⟩ : ∃ rest, formatYaml [ty] = "- " ++ (Yaml.writeText 2 "name" ty.name ++ rest) := by
    simp only [formatYaml, yamlItem, List.isEmpty_cons, Bool.false_eq_true, if_false, List.map_cons,
      List.map_nil, String.join_cons, String.append_assoc]
    exact ⟨_, rfl⟩
  have hText : (formatYaml [ty]).toList =
      "- name".toList ++ ':' :: ' ' :: (Yaml.writeScalar 4 ty.name.toList ++ rest.toList) := by
    simp [hRest, Yaml.writeText]
  rw [hText]
  rcases writeScalar_name 4 ty with hPlain | hQuoted
  · rw [hPlain, List.append_assoc]
    exact .intro _ [' '] _ (by simp) (by simp [isNameMark]) (by simp [isNameMark])
  · rw [hQuoted, List.cons_append, List.append_assoc]
    exact .intro _ [' ', '\''] _ (by simp) (by simp [isNameMark]) (by simp [isNameMark])

theorem shows_list (format : Format) (ty : FileType) :
    Shows format.mark ty.name.toList (list format [ty]).toList := by
  cases format with
  | table => exact shows_formatTable ty
  | json => exact shows_formatJson ty
  | yaml => exact shows_formatYaml ty

/-- Different types have different listings, in every form. -/
theorem list_singleton_injective (format : Format) {ty ty' : FileType}
    (h : list format [ty] = list format [ty']) : ty = ty' := by
  apply name_injective
  apply String.toList_inj.1
  rw [← (shows_list format ty).firstWord_eq, h, (shows_list format ty').firstWord_eq]

end CompilerDriver.FileType
