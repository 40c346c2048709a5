import CompilerDriver.Proofs.Yaml.Value
/-!
# Entries of a written mapping

An entry is a key, a colon and a value. A word in front of a colon is a key, and the first key of a mapping
begins it. So the scanner goes from the start of one entry to the start of the next
(`Scanner.finish?_entry`), and the tokens of a mapping are those of its entries (`ofText?_entries`).
-/

namespace CompilerDriver.Yaml

namespace Scanner

variable {columns : List Nat} {position : Position} {tokens : List Token} {token : Token}

/-! ## Keys -/

/-- A word that can be a key at the start of a line: its colon comes before the key could expire. -/
structure IsKey (key : List Char) : Prop where
  bare : Plain.IsBare key
  letter : StartsWithLetter key
  short : key.length ≤ 256

theorem isKey_of_allowsPlain {key : List Char} (hNull : isNull key = false)
    (hPlain : allowsPlain key = true) (hLetter : key.head?.all Char.isAlpha = true)
    (hShort : key.length ≤ 256) : IsKey key := by
  refine ⟨Plain.isBare_of_allowsPlain hNull hPlain, ?_, hShort⟩
  intro c hc
  simpa [Option.mem_def.1 hc] using hLetter

theorem IsKey.unbroken {key : List Char} (h : IsKey key) : ∀ c ∈ key, isBreak c = false := by
  intro c hc
  cases hBreak : isBreak c with
  | false => rfl
  | true =>
    rw [h.bare.spaced c hc (isGap_of_isBreak hBreak)] at hBreak
    cases hBreak

/-- The scanner behind a word at the start of a line, which could turn out to be a key. -/
def behindKey (columns : List Nat) (position : Position) (isRequired : Bool) (tokens : List Token)
    (key rest : List Char) : Scanner :=
  { rest, position := position.after key, columns, key := some ⟨tokens.length, position, isRequired⟩
    outerKeys := [], keyAllowed := false, tokens := .scalar .plain key :: tokens }

theorem startsMarker_eq_false {c : Char} (hDash : c ≠ '-') (hDot : c ≠ '.') (rest : List Char) :
    startsMarker (c :: rest) = false := by
  rcases rest with _ | ⟨d, _ | ⟨e, rest⟩⟩
  · rfl
  · rfl
  · simp [startsMarker, hDash, hDot]

theorem nextToken_key {c : Char} {word rest : List Char} (hKey : IsKey (c :: word))
    (hRest : endsWord rest = true) :
    ∃ isRequired, (between columns position true tokens (c :: word ++ ':' :: rest)).nextToken c
        (word ++ ':' :: rest) =
      some (behindKey columns position isRequired tokens (c :: word) (':' :: rest)) := by
  have hLetter := hKey.letter c rfl
  have hPercent : c ≠ '%' := ne_of_isAlpha hLetter
  have hMarker := startsMarker_eq_false (ne_of_isAlpha hLetter) (ne_of_isAlpha hLetter) (word ++ ':' :: rest)
  refine ⟨decide (columns.head? = some position.column), ?_⟩
  rw [nextToken, if_neg (by simp [hPercent]), if_neg (by simp [hMarker]),
    structureOrContent_plain rfl hKey.bare]
  refine Option.bind_eq_some_iff.2 ⟨_, hKey.bare.scan?_colon hRest, ?_⟩
  -- A key is allowed here, so the word is remembered as one.
  have hMoved : (({ between columns position true tokens (c :: word ++ ':' :: rest) with
      key := some ⟨tokens.length, position, decide (columns.head? = some position.column)⟩ } : Scanner).push
        (.scalar .plain (c :: word))).moveTo (':' :: rest) = _ := moveTo_eq rfl
  exact congrArg (fun s : Scanner => some { s with keyAllowed := false }) hMoved

/-- A key does not expire before its colon. -/
theorem toToken_behindKey {key rest : List Char} {isRequired : Bool} (hKey : IsKey key)
    (hColumns : ∀ column ∈ columns, column = 0) :
    (behindKey columns position isRequired tokens key (':' :: rest)).toToken =
      some (behindKey columns position isRequired tokens key (':' :: rest)) := by
  have hLine := Position.line_after hKey.unbroken position
  have hOffset := Position.offset_after_le position key
  have hShort := hKey.short
  refine toToken_eq [] rfl hColumns ?_ rfl (skipGap_word rfl (by decide) (by decide) _ _ _)
  show refreshKey (position.after key) _ = _
  rw [behindKey, refreshKey, if_neg]
  simp [hLine]
  omega

/-- The tokens that begin an entry, last first: the first entry of a mapping begins the mapping as well. -/
def opening : List Nat → List Token
  | [] => [.key, .blockMappingStart]
  | _ :: _ => [.key]

theorem insertAt_last (s : Scanner) (inserted : List Token) (h : s.tokens = token :: tokens) :
    s.insertAt tokens.length inserted = { s with tokens := token :: inserted.reverse ++ tokens } := by
  rw [insertAt, h, List.length_cons, Nat.add_sub_cancel_left]
  rfl

/-- Behind its colon a word is known to be a key. -/
theorem value_behindKey {key rest : List Char} {isRequired : Bool} (hColumns : columns = [] ∨ columns = [0])
    (hColumn : position.column = 0) :
    (behindKey columns position isRequired tokens key (':' :: rest)).value rest =
      some (between [0] ((position.after key).after [':']) false
        (.value :: .scalar .plain key :: opening columns ++ tokens) rest) := by
  obtain ⟨offset, line, column⟩ := position
  obtain rfl : column = 0 := hColumn
  have hMoved (inserted : List Token) :
      (((behindKey columns ⟨offset, line, 0⟩ isRequired tokens key (':' :: rest)).insertAt tokens.length
        inserted).push .value).moveTo rest =
      { behindKey columns ⟨offset, line, 0⟩ isRequired tokens key rest with
        position := (Position.after ⟨offset, line, 0⟩ key).after [':']
        tokens := .value :: .scalar .plain key :: inserted.reverse ++ tokens } := by
    rw [insertAt_last _ inserted rfl]
    exact moveTo_eq rfl
  -- Only a first key is further in than all open blocks, for there are none.
  rcases hColumns with rfl | rfl
  · exact congrArg
      (fun s : Scanner => some { s with columns := [0], key := none, keyAllowed := false })
      (hMoved [.blockMappingStart, .key])
  · exact congrArg
      (fun s : Scanner => some { s with columns := [0], key := none, keyAllowed := false })
      (hMoved [.key])

theorem nextToken_colon {key rest : List Char} (isRequired : Bool) (tokens : List Token)
    (hColumns : columns = [] ∨ columns = [0])
    (hColumn : position.column = 0) (hRest : endsWord rest = true) :
    ∃ later, (behindKey columns position isRequired tokens key (':' :: rest)).nextToken ':' rest =
      some (between [0] later false (.value :: .scalar .plain key :: opening columns ++ tokens) rest) := by
  have hMarker := startsMarker_eq_false (by decide : ':' ≠ '-') (by decide) rest
  have hColon (s : Scanner) : s.structureOrContent ':' rest = s.value rest := by
    simp [structureOrContent, hRest]
  refine ⟨(position.after key).after [':'], ?_⟩
  rw [nextToken, if_neg (by simp), if_neg (by simp [hMarker]), hColon, value_behindKey hColumns hColumn]

end Scanner

/-! ## Entries -/

/-- A key with what is written behind its colon and the scalar that this is read as. -/
structure Entry where
  key : List Char
  style : Style
  text : List Char
  body : List Char

namespace Entry

/-- The entry as it is written. -/
def chars (entry : Entry) : List Char :=
  entry.key ++ ':' :: ' ' :: entry.body

/-- The tokens of the entry. -/
def tokens (entry : Entry) : List Token :=
  [.key, .scalar .plain entry.key, .value, .scalar entry.style entry.text]

/-- An entry that is read as its tokens. -/
structure IsReadable (entry : Entry) : Prop where
  key : Scanner.IsKey entry.key
  body : Scanner.Reads entry.body (.scalar entry.style entry.text)

end Entry

namespace Scanner

/-- One more entry takes the scanner from the start of its line to the start of the next. -/
theorem finish?_entry {s : Scanner} {columns : List Nat} {tokens : List Token} {entry : Entry}
    {after : List Char} (h : entry.IsReadable) (hColumns : columns = [] ∨ columns = [0])
    (hAfter : StartsWithLetter after) (hs : s.Reaches columns tokens (entry.chars ++ after)) :
    ∃ next : Scanner, s.finish? = next.finish? ∧
      next.Reaches [0] (.scalar entry.style entry.text :: .value :: .scalar .plain entry.key ::
        opening columns ++ tokens) after := by
  obtain ⟨position, hColumn, hToken⟩ := hs
  have hZero : ∀ column ∈ columns, column = 0 := by
    rcases hColumns with rfl | rfl <;> simp
  have hChars : entry.chars ++ after = entry.key ++ ':' :: ' ' :: (entry.body ++ after) := by
    simp [Entry.chars]
  have hEnds : endsWord (' ' :: (entry.body ++ after)) = true := rfl
  -- The key, which is taken for a plain scalar at first.
  obtain ⟨c, word, hWord⟩ := List.exists_cons_of_ne_nil h.key.bare.nonempty
  rw [hChars, hWord] at hToken
  obtain ⟨isRequired, hKey⟩ := nextToken_key (hWord ▸ h.key) hEnds
  have hFirst := finish?_eq_of_nextToken hToken rfl hKey
  rw [← hWord] at hFirst
  -- The colon.
  obtain ⟨later, hColon⟩ := nextToken_colon isRequired tokens hColumns hColumn hEnds
  have hSecond := finish?_eq_of_nextToken (toToken_behindKey h.key hZero) rfl hColon
  -- The value behind a space.
  obtain ⟨d, rest, next, hBody, hGap, hComment, hValue, hReaches⟩ :=
    h.body (later.after [' ']) (.value :: .scalar .plain entry.key :: opening columns ++ tokens) after
      (Position.column_after_word rfl later []) hAfter
  rw [hBody] at hFirst hSecond
  have hThird := finish?_eq_of_nextToken
    (toToken_between [' '] (by simp) (skipGap_space hGap hComment false _ rest)) rfl hValue
  exact ⟨next, hFirst.trans (hSecond.trans hThird), hReaches⟩

/-- At the end of the text the mapping ends. -/
theorem finish?_of_reaches_nil {s : Scanner} {tokens : List Token} (h : s.Reaches [0] tokens []) :
    s.finish? = some (tokens.reverse ++ [.blockEnd]) := by
  obtain ⟨position, -, hToken⟩ := h
  rw [finish?_eq_of_end hToken rfl]
  exact congrArg some List.reverse_cons

theorem startsWithLetter_flatMap {entries : List Entry} (h : ∀ entry ∈ entries, entry.IsReadable) :
    StartsWithLetter (entries.flatMap Entry.chars) := by
  cases entries with
  | nil =>
    intro c hc
    cases hc
  | cons entry entries =>
    have hKey := (h entry List.mem_cons_self).key
    obtain ⟨c, word, hWord⟩ := List.exists_cons_of_ne_nil hKey.bare.nonempty
    have hLetter := hKey.letter
    rw [hWord] at hLetter
    simpa [Entry.chars, hWord, StartsWithLetter] using hLetter

/-- The entries that are left are read one by one. -/
theorem finish?_entries {s : Scanner} {tokens : List Token} {entries : List Entry}
    (h : ∀ entry ∈ entries, entry.IsReadable) (hs : s.Reaches [0] tokens (entries.flatMap Entry.chars)) :
    s.finish? = some (tokens.reverse ++ entries.flatMap Entry.tokens ++ [.blockEnd]) := by
  induction entries generalizing s tokens with
  | nil =>
    rw [finish?_of_reaches_nil hs, List.flatMap_nil, List.append_nil]
  | cons entry entries ih =>
    obtain ⟨hEntry, hEntries⟩ := List.forall_mem_cons.1 h
    obtain ⟨next, hNext, hReaches⟩ :=
      finish?_entry hEntry (.inr rfl) (startsWithLetter_flatMap hEntries) hs
    rw [hNext, ih hEntries hReaches]
    simp [Entry.tokens, opening]

end Scanner

/-- The tokens of a mapping are those of its entries, between its start and its end. -/
theorem ofText?_entries {entries : List Entry} (hSome : entries ≠ [])
    (h : ∀ entry ∈ entries, entry.IsReadable) :
    Token.ofText? (entries.flatMap Entry.chars) =
      some (.blockMappingStart :: entries.flatMap Entry.tokens ++ [.blockEnd]) := by
  obtain ⟨entry, entries, rfl⟩ := List.exists_cons_of_ne_nil hSome
  obtain ⟨hEntry, hEntries⟩ := List.forall_mem_cons.1 h
  have hStart := Scanner.start_reaches (Scanner.startsWithLetter_flatMap h)
  obtain ⟨next, hNext, hReaches⟩ :=
    Scanner.finish?_entry hEntry (.inl rfl) (Scanner.startsWithLetter_flatMap hEntries) hStart
  rw [Token.ofText?, hNext, Scanner.finish?_entries hEntries hReaches]
  simp [Entry.tokens, Scanner.opening]

/-! ## Written entries -/

namespace Entry

/-- The entry with a text. -/
def ofText (key text : String) : Entry :=
  ⟨key.toList, styleOf text.toList, text.toList, writeScalar 2 text.toList⟩

/-- A truth value as it is written. -/
def word (value : Bool) : List Char :=
  if value then "true".toList else "false".toList

/-- The entry with a truth value. -/
def ofBoolean (key : String) (value : Bool) : Entry :=
  ⟨key.toList, .plain, word value, word value ++ ['\n']⟩

theorem toList_writeText (key text : String) :
    (writeText 0 key text).toList = (ofText key text).chars := by
  simp [writeText, ofText, chars]

theorem toList_writeBoolean (key : String) (value : Bool) :
    (writeBoolean key value).toList = (ofBoolean key value).chars := by
  cases value <;> simp [writeBoolean, ofBoolean, chars, word]

theorem isPrintable_chars {entry : Entry} (hKey : ∀ c ∈ entry.key, isPrintable c = true)
    (hBody : ∀ c ∈ entry.body, isPrintable c = true) : ∀ c ∈ entry.chars, isPrintable c = true := by
  have hBehind : ∀ c ∈ ':' :: ' ' :: entry.body, isPrintable c = true :=
    List.forall_mem_cons.2 ⟨rfl, List.forall_mem_cons.2 ⟨rfl, hBody⟩⟩
  exact List.forall_mem_append.2 ⟨hKey, hBehind⟩

theorem isPrintable_ofText {key : String} (hKey : ∀ c ∈ key.toList, isPrintable c = true)
    (text : String) : ∀ c ∈ (ofText key text).chars, isPrintable c = true :=
  isPrintable_chars hKey isPrintable_of_mem_writeScalar

theorem isPrintable_word (value : Bool) : ∀ c ∈ word value ++ ['\n'], isPrintable c = true := by
  cases value <;> exact List.all_eq_true.1 rfl

theorem isPrintable_ofBoolean {key : String} (hKey : ∀ c ∈ key.toList, isPrintable c = true)
    (value : Bool) : ∀ c ∈ (ofBoolean key value).chars, isPrintable c = true :=
  isPrintable_chars hKey (isPrintable_word value)

theorem isReadable_ofText {key : String} (h : Scanner.IsKey key.toList) (text : String) :
    (ofText key text).IsReadable :=
  ⟨h, Scanner.reads_writeScalar text.toList⟩

theorem isReadable_ofBoolean {key : String} (h : Scanner.IsKey key.toList) (value : Bool) :
    (ofBoolean key value).IsReadable := by
  refine ⟨h, Scanner.reads_plain ?_⟩
  cases value <;> exact Plain.isBare_of_allowsPlain rfl rfl

end Entry

end CompilerDriver.Yaml
