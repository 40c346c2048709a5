import CompilerDriver.Proofs.FileType.Listing
import CompilerDriver.Proofs.Text.Comma
/-!
# Listings as records

Both in JSON and in YAML a listing is one record after the other, each with six keys in a fixed order. No
text of a file type needs quotes in YAML or escapes in JSON (`styleOf_texts`, `flatMap_writeChar_texts`), so the
text of a listing can be given in full (`formatJson_eq`, `formatYaml_eq`). A record begins with the name of its
type, and the end of the name can be seen; so the listing of one list of types is not that of another one
(`list_eq_records_and_injective`).
-/

namespace CompilerDriver.FileType

/-! ## Records -/

/-- A truth value in a record. -/
def truth (value : Bool) : String :=
  if value then "true" else "false"

/-- The keys of a record in their order with the values of the type, where `shown` is how a text is written. -/
def fields (shown : String → String) (ty : FileType) : List (String × String) :=
  [("name", shown ty.name),
   ("raw", shown ty.raw),
   ("description", shown ty.description),
   ("part_of_swift_compilation", truth ty.isCompilationInput),
   ("textual", truth ty.isTextual),
   ("after_llvm", truth ty.isGenerated)]

/-- The text between double quotes, as it is. -/
def quoted (text : String) : String :=
  "\"" ++ text ++ "\""

/-- The record of a type as a JSON object inside an array. -/
def jsonRecord (ty : FileType) : String :=
  "\x7b\n    "
    ++ ",\n    ".intercalate ((fields quoted ty).map (fun field => quoted field.1 ++ ": " ++ field.2))
    ++ "\n  \x7d"

/-- The record of a type as a YAML mapping inside a sequence. -/
def yamlRecord (ty : FileType) : String :=
  "- " ++ "\n  ".intercalate ((fields id ty).map (fun field => field.1 ++ ": " ++ field.2)) ++ "\n"

/-- The JSON array of the records. -/
def jsonRecords (types : List FileType) : String :=
  if types = [] then "[]\n" else "[\n  " ++ ",\n  ".intercalate (types.map jsonRecord) ++ "\n]\n"

/-- The YAML sequence of the records. -/
def yamlRecords (types : List FileType) : String :=
  if types = [] then "[]\n" else String.join (types.map yamlRecord)

/-! ## The texts of a type -/

/-- The three texts of a type. -/
def texts (ty : FileType) : List String :=
  [ty.name, ty.raw, ty.description]

variable (ty : FileType) {text : String}

theorem name_mem_texts : ty.name ∈ ty.texts :=
  List.mem_cons_self

theorem raw_mem_texts : ty.raw ∈ ty.texts :=
  List.mem_cons_of_mem _ List.mem_cons_self

theorem description_mem_texts : ty.description ∈ ty.texts :=
  List.mem_cons_of_mem _ (List.mem_cons_of_mem _ List.mem_cons_self)

theorem flatMap_writeChar_texts (h : text ∈ ty.texts) :
    text.toList.flatMap Json.writeChar = text.toList := by
  have hAll : ∀ ty ∈ all, ∀ text ∈ ty.texts, text.toList.flatMap Json.writeChar = text.toList := by
    decide +kernel
  exact hAll ty (mem_all ty) text h

theorem styleOf_texts (h : text ∈ ty.texts) : Yaml.styleOf text.toList = .plain := by
  have hAll : ∀ ty ∈ all, ∀ text ∈ ty.texts, Yaml.styleOf text.toList = .plain := by decide +kernel
  exact hAll ty (mem_all ty) text h

theorem writeText_json (h : text ∈ ty.texts) : Json.writeText text = quoted text := by
  apply String.toList_inj.1
  simp [Json.writeText, flatMap_writeChar_texts ty h, quoted]

theorem writeText_yaml (h : text ∈ ty.texts) (width : Nat) (key : String) :
    Yaml.writeText width key text = key ++ ": " ++ text ++ "\n" := by
  apply String.toList_inj.1
  simp [Yaml.writeText, Yaml.writeScalar, styleOf_texts ty h]

/-! ## The text of a listing in JSON -/

theorem separated_eq_intercalate (separator : String) (pieces : List String) :
    Json.separated separator pieces = separator.intercalate pieces := by
  fun_induction Json.separated separator pieces with
  | case1 => rfl
  | case2 piece => simp
  | case3 piece pieces hPieces ih =>
    rw [ih, String.intercalate_cons_of_ne_nil (by simpa using hPieces)]

theorem indentedItems_eq_map (level : Nat) (items : List Json) :
    Json.indentedItems level items = items.map (Json.indented level) := by
  induction items with
  | nil => rfl
  | cons item items ih => rw [Json.indentedItems, ih, List.map_cons]

theorem writeText_key (ty : FileType) : ∀ key ∈ ty.record.map (·.1), Json.writeText key = quoted key := by
  have hKeys : ∀ key ∈ ["name", "raw", "description", "part_of_swift_compilation", "textual", "after_llvm"],
      Json.writeText key = quoted key := by
    decide +kernel
  exact hKeys

theorem indentedMembers_record (level : Nat) (ty : FileType) :
    Json.indentedMembers level ty.record =
      (fields quoted ty).map (fun field => quoted field.1 ++ ": " ++ field.2) := by
  have hName := writeText_json ty ty.name_mem_texts
  have hRaw := writeText_json ty ty.raw_mem_texts
  have hDescription := writeText_json ty ty.description_mem_texts
  have hKeys := writeText_key ty
  simp only [record, List.map_cons, List.map_nil, List.forall_mem_cons] at hKeys
  obtain ⟨hKey1, hKey2, hKey3, hKey4, hKey5, hKey6, -⟩ := hKeys
  simp only [record, Json.indentedMembers, Json.indented, Json.writeLeaf, hKey1, hKey2, hKey3, hKey4, hKey5,
    hKey6, hName, hRaw, hDescription]
  rfl

theorem indented_record (ty : FileType) : (Json.object ty.record).indented 1 = jsonRecord ty := by
  rw [Json.indented, indentedMembers_record, Json.block, separated_eq_intercalate, jsonRecord]
  simp [Json.lineStart, fields, String.append_assoc]

theorem formatJson_eq (types : List FileType) : formatJson types = jsonRecords types := by
  have hItems : Json.indentedItems 1 (types.map fun ty => .object ty.record) = types.map jsonRecord := by
    rw [indentedItems_eq_map, List.map_map]
    exact List.map_congr_left fun ty _ => indented_record ty
  rw [formatJson, jsonRecords, Json.indented, hItems, Json.block, separated_eq_intercalate]
  cases types with
  | nil => rfl
  | cons ty types => simp [Json.lineStart, String.append_assoc]

/-! ## The text of a listing in YAML -/

theorem yamlItem_eq (ty : FileType) : yamlItem ty = yamlRecord ty := by
  rw [yamlItem, yamlRecord, writeText_yaml ty ty.name_mem_texts, writeText_yaml ty ty.raw_mem_texts,
    writeText_yaml ty ty.description_mem_texts]
  apply String.toList_inj.1
  simp [fields, Yaml.writeBoolean, truth]

theorem formatYaml_eq (types : List FileType) : formatYaml types = yamlRecords types := by
  rw [formatYaml, yamlRecords, funext yamlItem_eq]
  cases types <;> rfl

/-! ## Telling records apart -/

/-- The text of a type begins alike for all types and goes on with the name, whose end can be seen. -/
def StartsWithName (write : FileType → List Char) : Prop :=
  ∃ lead mark, isNameMark mark = false ∧
    ∀ ty : FileType, ∃ tail, write ty = lead ++ (ty.name.toList ++ mark :: tail)

section StartsWithName

variable {write : FileType → List Char} {ty ty' : FileType} {types types' : List FileType}

theorem StartsWithName.inj (h : StartsWithName write) {rest rest' : List Char}
    (hText : write ty ++ rest = write ty' ++ rest') : ty = ty' ∧ rest = rest' := by
  obtain ⟨lead, mark, hMark, hWrite⟩ := h
  have hNew : ∀ ty : FileType, mark ∉ ty.name.toList := by
    intro ty hMem
    rw [isNameMark_name ty mark hMem] at hMark
    cases hMark
  have hName : ty.name.toList = ty'.name.toList := by
    obtain ⟨tail, hTail⟩ := hWrite ty
    obtain ⟨tail', hTail'⟩ := hWrite ty'
    simp only [hTail, hTail', List.append_assoc, List.cons_append, List.append_cancel_left_eq] at hText
    exact (Text.cut_inj (hNew ty) (hNew ty') hText).1
  obtain rfl := name_injective (String.toList_inj.1 hName)
  exact ⟨rfl, List.append_cancel_left hText⟩

theorem StartsWithName.behind (h : StartsWithName write) (front : List Char) :
    StartsWithName (fun ty => front ++ write ty) := by
  obtain ⟨lead, mark, hMark, hWrite⟩ := h
  refine ⟨front ++ lead, mark, hMark, fun ty => ?_⟩
  obtain ⟨tail, hTail⟩ := hWrite ty
  exact ⟨tail, by rw [List.append_assoc, ← hTail]⟩

/-- From one record after the other, closed by what begins no record, all types can be had. -/
theorem StartsWithName.flatMap_inj (h : StartsWithName write) {closing : List Char}
    (hClosing : ∀ ty rest, closing ≠ write ty ++ rest)
    (hText : types.flatMap write ++ closing = types'.flatMap write ++ closing) : types = types' := by
  induction types generalizing types' with
  | nil =>
    cases types' with
    | nil => rfl
    | cons ty' types' =>
      rw [List.flatMap_cons, List.append_assoc] at hText
      exact absurd hText (hClosing ty' _)
  | cons ty types ih =>
    cases types' with
    | nil =>
      rw [List.flatMap_cons, List.append_assoc] at hText
      exact absurd hText.symm (hClosing ty _)
    | cons ty' types' =>
      rw [List.flatMap_cons, List.flatMap_cons, List.append_assoc, List.append_assoc] at hText
      obtain ⟨rfl, hRest⟩ := h.inj hText
      rw [ih hRest]

end StartsWithName

theorem startsWithName_jsonRecord : StartsWithName (fun ty => (jsonRecord ty).toList) := by
  refine ⟨"\x7b\n    \"name\": \"".toList, '"', rfl, fun ty => ⟨?_, ?_⟩⟩
  rotate_left
  · simp [jsonRecord, fields, quoted]
    rfl

theorem startsWithName_yamlRecord : StartsWithName (fun ty => (yamlRecord ty).toList) := by
  refine ⟨"- name: ".toList, '\n', rfl, fun ty => ⟨?_, ?_⟩⟩
  rotate_left
  · simp [yamlRecord, fields]
    rfl

/-! ## Telling listings apart -/

theorem toList_intercalate_cons (separator piece : String) (pieces : List String) :
    (separator.intercalate (piece :: pieces)).toList =
      piece.toList ++ pieces.flatMap (fun next => separator.toList ++ next.toList) := by
  induction pieces generalizing piece with
  | nil => simp
  | cons next pieces ih => simp [ih]

theorem toList_jsonRecords_cons (ty : FileType) (types : List FileType) :
    (jsonRecords (ty :: types)).toList = "[\n  ".toList ++ ((jsonRecord ty).toList ++
      (types.flatMap (fun ty => ",\n  ".toList ++ (jsonRecord ty).toList) ++ "\n]\n".toList)) := by
  rw [jsonRecords, if_neg (List.cons_ne_nil _ _), List.map_cons, String.toList_append, String.toList_append,
    toList_intercalate_cons, List.flatMap_map, List.append_assoc, List.append_assoc]

theorem jsonRecords_cons_ne (ty : FileType) (types : List FileType) :
    jsonRecords (ty :: types) ≠ jsonRecords [] := by
  intro h
  have hText := congrArg String.toList h
  rw [toList_jsonRecords_cons] at hText
  simp [jsonRecords] at hText

theorem jsonRecords_injective : Function.Injective jsonRecords := by
  intro types types' h
  cases types with
  | nil =>
    cases types' with
    | nil => rfl
    | cons ty' types' => exact absurd h.symm (jsonRecords_cons_ne ty' types')
  | cons ty types =>
    cases types' with
    | nil => exact absurd h (jsonRecords_cons_ne ty types)
    | cons ty' types' =>
      have hText := congrArg String.toList h
      rw [toList_jsonRecords_cons, toList_jsonRecords_cons, List.append_cancel_left_eq] at hText
      obtain ⟨rfl, hRest⟩ := startsWithName_jsonRecord.inj hText
      -- a comma goes on to the next record, and the line feed before the bracket does not
      have hClosing : ∀ (ty : FileType) (rest : List Char),
          "\n]\n".toList ≠ (",\n  ".toList ++ (jsonRecord ty).toList) ++ rest := by
        intro ty rest
        simp
      rw [(startsWithName_jsonRecord.behind _).flatMap_inj hClosing hRest]

theorem toList_yamlRecords_cons (ty : FileType) (types : List FileType) :
    (yamlRecords (ty :: types)).toList = (ty :: types).flatMap (fun ty => (yamlRecord ty).toList) ++ [] := by
  rw [yamlRecords, if_neg (List.cons_ne_nil _ _), String.toList_join, List.flatMap_map, List.append_nil]

theorem exists_toList_yamlRecord (ty : FileType) : ∃ rest, (yamlRecord ty).toList = '-' :: rest := by
  simp [yamlRecord]

theorem yamlRecords_cons_ne (ty : FileType) (types : List FileType) :
    yamlRecords (ty :: types) ≠ yamlRecords [] := by
  intro h
  obtain ⟨rest, hRest⟩ := exists_toList_yamlRecord ty
  have hText := congrArg String.toList h
  rw [toList_yamlRecords_cons, List.flatMap_cons, hRest] at hText
  simp [yamlRecords] at hText

theorem yamlRecords_injective : Function.Injective yamlRecords := by
  intro types types' h
  cases types with
  | nil =>
    cases types' with
    | nil => rfl
    | cons ty' types' => exact absurd h.symm (yamlRecords_cons_ne ty' types')
  | cons ty types =>
    cases types' with
    | nil => exact absurd h (yamlRecords_cons_ne ty types)
    | cons ty' types' =>
      have hText := congrArg String.toList h
      rw [toList_yamlRecords_cons, toList_yamlRecords_cons] at hText
      have hClosing : ∀ (ty : FileType) (rest : List Char), [] ≠ (yamlRecord ty).toList ++ rest := by
        intro ty rest
        obtain ⟨more, hMore⟩ := exists_toList_yamlRecord ty
        simp [hMore]
      exact startsWithName_yamlRecord.flatMap_inj hClosing hText

theorem exists_jsonRecords_eq (types : List FileType) : ∃ lines, jsonRecords types = lines ++ "\n" := by
  unfold jsonRecords
  split
  · exact ⟨"[]", rfl⟩
  · refine ⟨"[\n  " ++ ",\n  ".intercalate (types.map jsonRecord) ++ "\n]", ?_⟩
    simp [String.append_assoc]

theorem exists_yamlRecords_eq (types : List FileType) : ∃ lines, yamlRecords types = lines ++ "\n" := by
  unfold yamlRecords
  split
  · exact ⟨"[]", rfl⟩
  · next h =>
    obtain ⟨before, last, rfl⟩ := (List.eq_nil_or_concat types).resolve_left h
    rw [List.concat_eq_append, List.map_append, String.join_append, List.map_singleton, String.join_cons,
      String.join_nil, String.append_empty, yamlRecord, ← String.append_assoc]
    exact ⟨_, rfl⟩

/-- A listing in JSON or in YAML has one record for each type, in the order of the list, with six keys in a fixed
order and the type's own values, and it ends in a line feed. Different lists have different listings. -/
theorem list_eq_records_and_injective (types : List FileType) :
    list .json types = jsonRecords types ∧ list .yaml types = yamlRecords types ∧
      (∀ types', list .json types = list .json types' ↔ types = types') ∧
      (∀ types', list .yaml types = list .yaml types' ↔ types = types') ∧
      (∃ lines, list .json types = lines ++ "\n") ∧ ∃ lines, list .yaml types = lines ++ "\n" := by
  have hJson : list .json = jsonRecords := funext formatJson_eq
  have hYaml : list .yaml = yamlRecords := funext formatYaml_eq
  rw [hJson, hYaml]
  exact ⟨rfl, rfl, fun _ => jsonRecords_injective.eq_iff, fun _ => yamlRecords_injective.eq_iff,
    exists_jsonRecords_eq types, exists_yamlRecords_eq types⟩

end CompilerDriver.FileType
