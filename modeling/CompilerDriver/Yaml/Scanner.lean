import CompilerDriver.Yaml.Directive
import CompilerDriver.Yaml.Scalar.Plain
import CompilerDriver.Yaml.Scalar.Quoted
/-!
# From characters to tokens

The scanner goes through a text and gives its tokens. It keeps the columns of the open block collections
and, for every open flow collection and for the blocks around them, the token that could turn out to be
a key. A key is known as one only when its colon comes, so its tokens are put in later, at the place that
was kept.
-/

namespace CompilerDriver.Yaml

/-- A place in the text. -/
structure Position where
  /-- The number of bytes before it. -/
  offset : Nat
  line : Nat
  column : Nat
  deriving DecidableEq, Repr

/-- The place after one more character. -/
def Position.next (p : Position) (c : Char) : Position :=
  let offset := p.offset + c.utf8Size
  if isBreak c then ⟨offset, p.line + 1, 0⟩ else ⟨offset, p.line, p.column + 1⟩

/-- The place after more characters. -/
def Position.after (p : Position) (cs : List Char) : Position :=
  cs.foldl Position.next p

/-- A token that could turn out to be a key. -/
structure PossibleKey where
  /-- The number of tokens before it. -/
  place : Nat
  position : Position
  /-- Whether nothing but a key can stand there. -/
  isRequired : Bool
  deriving DecidableEq, Repr

/-- The state of the scanner. -/
structure Scanner where
  /-- The text that is left. -/
  rest : List Char
  position : Position
  /-- The columns of the open block collections, innermost first. -/
  columns : List Nat
  /-- The possible key of the innermost flow collection, or of the blocks outside any. -/
  key : Option PossibleKey
  /-- The possible keys around each open flow collection, innermost first. -/
  outerKeys : List (Option PossibleKey)
  /-- Whether a key can begin at the next token. -/
  keyAllowed : Bool
  /-- The tokens so far, last first. -/
  tokens : List Token

namespace Scanner

/-- The scanner at the start of a text. -/
def start (cs : List Char) : Scanner :=
  { rest := cs, position := ⟨0, 0, 0⟩, columns := [], key := none, outerKeys := []
    keyAllowed := true, tokens := [] }

/-- Whether a flow collection is open. -/
def inFlow (s : Scanner) : Bool :=
  !s.outerKeys.isEmpty

/-- The column after that of the innermost block collection. -/
def margin (s : Scanner) : Nat :=
  match s.columns with
  | [] => 0
  | column :: _ => column + 1

/-- The scanner further on in the text. -/
def moveTo (s : Scanner) (rest : List Char) : Scanner :=
  { s with
    rest
    position := s.position.after (s.rest.take (s.rest.length - rest.length)) }

/-- The scanner with one more token. -/
def push (s : Scanner) (token : Token) : Scanner :=
  { s with tokens := token :: s.tokens }

/-- The scanner with tokens put in at a place. -/
def insertAt (s : Scanner) (place : Nat) (inserted : List Token) : Scanner :=
  let later := s.tokens.length - place
  { s with tokens := s.tokens.take later ++ inserted.reverse ++ s.tokens.drop later }

/-! ## Possible keys -/

/-- Forgets the possible key, which must not be a required one. -/
def dropKey (s : Scanner) : Option Scanner :=
  if s.key.any (fun key => key.isRequired) then none else some { s with key := none }

/-- Notes that the next token could turn out to be a key. -/
def saveKey (s : Scanner) : Option Scanner :=
  if s.keyAllowed then
    let isRequired := !s.inFlow && s.columns.head? = some s.position.column
    s.dropKey.map
      (fun s => { s with key := some ⟨s.tokens.length, s.position, isRequired⟩ })
  else
    some s

/-- The possible key, unless it is in an earlier line or more than 1024 bytes ago. A required key cannot
expire. -/
def refreshKey (position : Position) : Option PossibleKey → Option (Option PossibleKey)
  | none => some none
  | some key =>
    if key.position.line < position.line || key.position.offset + 1024 < position.offset then
      if key.isRequired then none else some none
    else
      some (some key)

/-- Forgets the possible keys that have expired. -/
def refreshKeys (s : Scanner) : Option Scanner := do
  let key ← refreshKey s.position s.key
  let outerKeys ← s.outerKeys.mapM (refreshKey s.position)
  return { s with key, outerKeys }

/-! ## Indentation -/

/-- The tokens that end the block collections further in than the column, and the columns left. -/
def unindent (column : Nat) : List Nat → List Token × List Nat
  | [] => ([], [])
  | top :: columns =>
    if column < top then
      let (tokens, columns) := unindent column columns
      (.blockEnd :: tokens, columns)
    else
      ([], top :: columns)

/-- Ends the block collections further in than the column. -/
def closeTo (s : Scanner) (column : Nat) : Scanner :=
  if s.inFlow then
    s
  else
    let (tokens, columns) := unindent column s.columns
    { s with columns, tokens := tokens ++ s.tokens }

/-- Ends every block collection. -/
def closeAll (s : Scanner) : Scanner :=
  if s.inFlow then
    s
  else
    { s with columns := [], tokens := s.columns.map (fun _ => .blockEnd) ++ s.tokens }

/-- Whether the column is further in than every block collection. -/
def isDeeper (s : Scanner) (column : Nat) : Bool :=
  !s.inFlow && s.columns.head?.all (· < column)

/-- Begins a block collection at the current place if it is further in than every other. -/
def openBlock (s : Scanner) (token : Token) : Scanner :=
  if s.isDeeper s.position.column then
    { s.push token with columns := s.position.column :: s.columns }
  else
    s

/-! ## Between tokens -/

/-- The text behind blanks, comments and line breaks, and whether a key can begin there. A line break
outside flow collections lets a key begin, and before a key there can be no tab. -/
def skipGap (inFlow : Bool) :
    (keyAllowed atLineStart inComment : Bool) → List Char → Bool × List Char
  | keyAllowed, _, _, [] => (keyAllowed, [])
  | keyAllowed, atLineStart, inComment, c :: rest =>
    if isBreak c then skipGap inFlow (keyAllowed || !inFlow) true false rest
    else if inComment then skipGap inFlow keyAllowed false true rest
    else if atLineStart && c = '\ufeff' then skipGap inFlow keyAllowed false false rest
    else if c = ' ' || (c = '\t' && (inFlow || !keyAllowed)) then
      skipGap inFlow keyAllowed false false rest
    else if c = '#' then skipGap inFlow keyAllowed false true rest
    else (keyAllowed, c :: rest)

/-- The scanner at the next token, with expired keys forgotten and blocks ended. -/
def toToken (s : Scanner) : Option Scanner :=
  let (keyAllowed, rest) := skipGap s.inFlow s.keyAllowed (s.position.column = 0) false s.rest
  let s := { s.moveTo rest with keyAllowed }
  s.refreshKeys.map (fun s => s.closeTo s.position.column)

/-! ## Tokens -/

/-- A token of one character that opens a flow collection. -/
def openFlow (s : Scanner) (token : Token) (rest : List Char) : Option Scanner :=
  s.saveKey.map fun s =>
    { (s.push token).moveTo rest with key := none, outerKeys := s.key :: s.outerKeys, keyAllowed := true }

/-- A token of one character that closes a flow collection. -/
def closeFlow (s : Scanner) (token : Token) (rest : List Char) : Option Scanner :=
  s.dropKey.map fun s =>
    let s := { (s.push token).moveTo rest with keyAllowed := false }
    match s.outerKeys with
    | [] => s
    | key :: outerKeys => { s with key, outerKeys }

/-- A comma between the items of a flow collection. -/
def flowEntry (s : Scanner) (rest : List Char) : Option Scanner :=
  s.dropKey.map (fun s => { (s.push .flowEntry).moveTo rest with keyAllowed := true })

/-- A dash before an item of a block sequence, which begins if the dash is further in. -/
def blockEntry (s : Scanner) (rest : List Char) : Option Scanner :=
  if !s.inFlow && !s.keyAllowed then
    none
  else
    (s.openBlock .blockSequenceStart).dropKey.map
      (fun s => { (s.push .blockEntry).moveTo rest with keyAllowed := true })

/-- A question mark before a key. -/
def explicitKey (s : Scanner) (rest : List Char) : Option Scanner :=
  if !s.inFlow && !s.keyAllowed then
    none
  else
    (s.openBlock .blockMappingStart).dropKey.map
      (fun s => { (s.push .key).moveTo rest with keyAllowed := !s.inFlow })

/-- A colon before a value. If a token could be a key, it is one now, and a block mapping begins at its
column if that is further in. -/
def value (s : Scanner) (rest : List Char) : Option Scanner :=
  match s.key with
  | some key =>
    let opens := s.isDeeper key.position.column
    let inserted := if opens then [Token.blockMappingStart, .key] else [.key]
    let columns := if opens then key.position.column :: s.columns else s.columns
    let s := s.insertAt key.place inserted
    some { (s.push .value).moveTo rest with columns, key := none, keyAllowed := false }
  | none =>
    if !s.inFlow && !s.keyAllowed then
      none
    else
      let s := s.openBlock .blockMappingStart
      some { (s.push .value).moveTo rest with keyAllowed := !s.inFlow }

/-- A token that could be a key, or the start of one. -/
def word (s : Scanner) (token : Token) (rest : List Char) (keyAllowed : Bool) : Option Scanner :=
  s.saveKey.map (fun s => { (s.push token).moveTo rest with keyAllowed })

/-- A block scalar, which cannot be a key. -/
def blockScalar (s : Scanner) (style : Style) (rest : List Char) : Option Scanner := do
  let s ← s.dropKey
  let (text, rest) ← Block.scan? (style = .literal) s.margin rest
  return { (s.push (.scalar style text)).moveTo rest with keyAllowed := true }

/-- A token that ends every block: a directive or a document marker. -/
def outermost (s : Scanner) (token : Token) (rest : List Char) : Option Scanner :=
  s.closeAll.dropKey.map (fun s => { (s.push token).moveTo rest with keyAllowed := false })

/-- A plain scalar. -/
def plainScalar (s : Scanner) : Option Scanner := do
  let scanned ← Plain.scan? s.inFlow s.margin [] s.rest
  s.word (.scalar .plain scanned.text) scanned.rest scanned.endsLine

/-- A scalar between single quotes, behind the first. -/
def singleQuoted (s : Scanner) (rest : List Char) : Option Scanner := do
  let (text, rest) ← Quoted.scanSingle? [] rest
  s.word (.scalar .singleQuoted text) rest false

/-- A scalar between double quotes, behind the first. -/
def doubleQuoted (s : Scanner) (rest : List Char) : Option Scanner := do
  let (text, rest) ← Quoted.scanDouble? (.text [] false) rest
  s.word (.scalar .doubleQuoted text) rest false

/-- An anchor or alias, behind its first character. -/
def named (s : Scanner) (token : List Char → Token) (rest : List Char) : Option Scanner := do
  let (name, rest) ← Property.scanName? rest
  s.word (token name) rest false

/-- A tag. -/
def tag (s : Scanner) (cs : List Char) : Option Scanner := do
  let (name, rest) ← Property.scanTag? s.inFlow cs
  s.word (.tag name) rest false

/-- A directive, behind its percent sign. -/
def directive (s : Scanner) (rest : List Char) : Option Scanner := do
  let (token, rest) ← Directive.scan? rest
  s.outermost token rest

/-- The token for a document marker that begins with the character. -/
def markerToken (c : Char) : Token :=
  if c = '-' then .documentStart else .documentEnd

/-- The scanner after a node's name or text, which begins with the character `c`. -/
def content (s : Scanner) (c : Char) (rest : List Char) : Option Scanner :=
  if c = '*' then s.named .alias rest
  else if c = '&' then s.named .anchor rest
  else if c = '!' then s.tag (c :: rest)
  else if c = '|' && !s.inFlow then s.blockScalar .literal rest
  else if c = '>' && !s.inFlow then s.blockScalar .folded rest
  else if c = '\'' then s.singleQuoted rest
  else if c = '"' then s.doubleQuoted rest
  else if Plain.canStart s.inFlow (c :: rest) then s.plainScalar
  else none

/-- The scanner after a token inside a document, which begins with the character `c`. -/
def structureOrContent (s : Scanner) (c : Char) (rest : List Char) : Option Scanner :=
  if c = '[' then s.openFlow .flowSequenceStart rest
  else if c = '\x7b' then s.openFlow .flowMappingStart rest
  else if c = ']' then s.closeFlow .flowSequenceEnd rest
  else if c = '\x7d' then s.closeFlow .flowMappingEnd rest
  else if c = ',' then s.flowEntry rest
  else if c = '-' && endsWord rest then s.blockEntry rest
  else if c = '?' && (s.inFlow || endsWord rest) then s.explicitKey rest
  else if c = ':' && (s.inFlow || endsWord rest) then s.value rest
  else s.content c rest

/-- The scanner after the next token, which begins with the character `c`. -/
def nextToken (s : Scanner) (c : Char) (rest : List Char) : Option Scanner :=
  if s.position.column = 0 && c = '%' then s.directive rest
  else if s.position.column = 0 && startsMarker (c :: rest) then
    s.outermost (markerToken c) (rest.drop 2)
  else s.structureOrContent c rest

/-! ## Every token takes characters -/

theorem length_skipGap {inFlow keyAllowed atLineStart inComment : Bool} {cs : List Char} :
    (skipGap inFlow keyAllowed atLineStart inComment cs).2.length ≤ cs.length := by
  induction cs generalizing keyAllowed atLineStart inComment with
  | nil => exact Nat.le_refl _
  | cons c rest ih =>
    rw [skipGap]
    split
    · exact Nat.le_succ_of_le ih
    split
    · exact Nat.le_succ_of_le ih
    split
    · exact Nat.le_succ_of_le ih
    split
    · exact Nat.le_succ_of_le ih
    split
    · exact Nat.le_succ_of_le ih
    · exact Nat.le_refl _

theorem rest_closeTo (s : Scanner) (column : Nat) : (s.closeTo column).rest = s.rest := by
  unfold closeTo
  split <;> rfl

theorem rest_refreshKeys {s next : Scanner} (h : s.refreshKeys = some next) :
    next.rest = s.rest := by
  simp only [refreshKeys, Option.bind_eq_bind, Option.bind_eq_some_iff] at h
  obtain ⟨_, -, _, -, heq⟩ := h
  cases heq
  rfl

theorem length_toToken {s next : Scanner} (h : s.toToken = some next) :
    next.rest.length ≤ s.rest.length := by
  obtain ⟨_, hKeys, rfl⟩ := Option.map_eq_some_iff.1 h
  rw [rest_closeTo, rest_refreshKeys hKeys]
  exact length_skipGap

theorem rest_openFlow {s next : Scanner} {token : Token} {rest : List Char}
    (h : s.openFlow token rest = some next) : next.rest = rest := by
  obtain ⟨_, -, rfl⟩ := Option.map_eq_some_iff.1 h
  rfl

theorem rest_closeFlow {s next : Scanner} {token : Token} {rest : List Char}
    (h : s.closeFlow token rest = some next) : next.rest = rest := by
  obtain ⟨_, -, rfl⟩ := Option.map_eq_some_iff.1 h
  dsimp only
  split <;> rfl

theorem rest_flowEntry {s next : Scanner} {rest : List Char}
    (h : s.flowEntry rest = some next) : next.rest = rest := by
  obtain ⟨_, -, rfl⟩ := Option.map_eq_some_iff.1 h
  rfl

theorem rest_blockEntry {s next : Scanner} {rest : List Char}
    (h : s.blockEntry rest = some next) : next.rest = rest := by
  unfold blockEntry at h
  split at h
  · cases h
  · obtain ⟨_, -, rfl⟩ := Option.map_eq_some_iff.1 h
    rfl

theorem rest_explicitKey {s next : Scanner} {rest : List Char}
    (h : s.explicitKey rest = some next) : next.rest = rest := by
  unfold explicitKey at h
  split at h
  · cases h
  · obtain ⟨_, -, rfl⟩ := Option.map_eq_some_iff.1 h
    rfl

theorem rest_value {s next : Scanner} {rest : List Char}
    (h : s.value rest = some next) : next.rest = rest := by
  unfold value at h
  split at h
  · cases h; rfl
  · split at h
    · cases h
    · cases h; rfl

theorem rest_word {s next : Scanner} {token : Token} {rest : List Char} {keyAllowed : Bool}
    (h : s.word token rest keyAllowed = some next) : next.rest = rest := by
  obtain ⟨_, -, rfl⟩ := Option.map_eq_some_iff.1 h
  rfl

theorem rest_outermost {s next : Scanner} {token : Token} {rest : List Char}
    (h : s.outermost token rest = some next) : next.rest = rest := by
  obtain ⟨_, -, rfl⟩ := Option.map_eq_some_iff.1 h
  rfl

theorem length_blockScalar {s next : Scanner} {style : Style} {rest : List Char}
    (h : s.blockScalar style rest = some next) : next.rest.length ≤ rest.length := by
  simp only [blockScalar, Option.bind_eq_bind, Option.bind_eq_some_iff] at h
  obtain ⟨_, -, _, hScalar, heq⟩ := h
  cases heq
  exact Block.length_scan hScalar

theorem length_plainScalar {s next : Scanner} {c : Char} {rest : List Char}
    (hs : s.rest = c :: rest) (hc : Plain.canStart s.inFlow (c :: rest) = true)
    (h : s.plainScalar = some next) : next.rest.length ≤ rest.length := by
  simp only [plainScalar, Option.bind_eq_bind, Option.bind_eq_some_iff] at h
  obtain ⟨_, hScalar, hWord⟩ := h
  rw [rest_word hWord]
  rw [hs] at hScalar
  exact Plain.length_rest_of_canStart hc hScalar

theorem length_singleQuoted {s next : Scanner} {rest : List Char}
    (h : s.singleQuoted rest = some next) : next.rest.length ≤ rest.length := by
  obtain ⟨_, hText, hWord⟩ := Option.bind_eq_some_iff.1 h
  rw [rest_word hWord]
  exact Quoted.length_rest_single hText

theorem length_doubleQuoted {s next : Scanner} {rest : List Char}
    (h : s.doubleQuoted rest = some next) : next.rest.length ≤ rest.length := by
  obtain ⟨_, hText, hWord⟩ := Option.bind_eq_some_iff.1 h
  rw [rest_word hWord]
  exact Quoted.length_rest_double hText

theorem length_named {s next : Scanner} {token : List Char → Token} {rest : List Char}
    (h : s.named token rest = some next) : next.rest.length ≤ rest.length := by
  obtain ⟨_, hName, hWord⟩ := Option.bind_eq_some_iff.1 h
  rw [rest_word hWord]
  exact Property.length_scanName hName

theorem length_tag {s next : Scanner} {cs : List Char}
    (h : s.tag cs = some next) : next.rest.length < cs.length := by
  obtain ⟨_, hName, hWord⟩ := Option.bind_eq_some_iff.1 h
  rw [rest_word hWord]
  exact Property.length_scanTag hName

theorem length_directive {s next : Scanner} {rest : List Char}
    (h : s.directive rest = some next) : next.rest.length ≤ rest.length := by
  obtain ⟨_, hToken, hOutermost⟩ := Option.bind_eq_some_iff.1 h
  rw [rest_outermost hOutermost]
  exact Directive.length_scan hToken

theorem length_content {s next : Scanner} {c : Char} {rest : List Char}
    (hs : s.rest = c :: rest) (h : s.content c rest = some next) :
    next.rest.length ≤ rest.length := by
  unfold content at h
  split at h
  · exact length_named h
  split at h
  · exact length_named h
  split at h
  · exact Nat.le_of_lt_succ (length_tag h)
  split at h
  · exact length_blockScalar h
  split at h
  · exact length_blockScalar h
  split at h
  · exact length_singleQuoted h
  split at h
  · exact length_doubleQuoted h
  split at h
  · next hc => exact length_plainScalar hs hc h
  · cases h

theorem length_structureOrContent {s next : Scanner} {c : Char} {rest : List Char}
    (hs : s.rest = c :: rest) (h : s.structureOrContent c rest = some next) :
    next.rest.length ≤ rest.length := by
  unfold structureOrContent at h
  split at h
  · exact Nat.le_of_eq (congrArg _ (rest_openFlow h))
  split at h
  · exact Nat.le_of_eq (congrArg _ (rest_openFlow h))
  split at h
  · exact Nat.le_of_eq (congrArg _ (rest_closeFlow h))
  split at h
  · exact Nat.le_of_eq (congrArg _ (rest_closeFlow h))
  split at h
  · exact Nat.le_of_eq (congrArg _ (rest_flowEntry h))
  split at h
  · exact Nat.le_of_eq (congrArg _ (rest_blockEntry h))
  split at h
  · exact Nat.le_of_eq (congrArg _ (rest_explicitKey h))
  split at h
  · exact Nat.le_of_eq (congrArg _ (rest_value h))
  · exact length_content hs h

theorem length_nextToken {s next : Scanner} {c : Char} {rest : List Char}
    (hs : s.rest = c :: rest) (h : s.nextToken c rest = some next) :
    next.rest.length < s.rest.length := by
  rw [hs, List.length_cons, Nat.lt_succ_iff]
  unfold nextToken at h
  split at h
  · exact length_directive h
  split at h
  · rw [rest_outermost h]
    exact (List.drop_sublist 2 rest).length_le
  · exact length_structureOrContent hs h

/-! ## The whole text -/

/-- The tokens of the text that is left, after those before it. -/
def finish? (s : Scanner) : Option (List Token) :=
  match hToken : s.toToken with
  | none => none
  | some s' =>
    match hRest : s'.rest with
    | [] => s'.closeAll.dropKey.map (fun s => s.tokens.reverse)
    | c :: rest =>
      match hNext : s'.nextToken c rest with
      | none => none
      | some next =>
        have : next.rest.length < s.rest.length :=
          Nat.lt_of_lt_of_le (length_nextToken hRest hNext) (length_toToken hToken)
        finish? next
termination_by s.rest.length

end Scanner

/-- The tokens of a text. -/
def Token.ofText? (cs : List Char) : Option (List Token) :=
  (Scanner.start cs).finish?

end CompilerDriver.Yaml
