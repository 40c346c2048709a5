import CompilerDriver.Yaml.Event
/-!
# The grammar of YAML

The grammar turns tokens into events. It is a stack of goals, each of which says what comes next. A goal
looks at the next tokens, gives events, and is replaced by further goals (`Goal.expand`). What is left gets
smaller each time, since a replacement takes a token or leaves lighter goals (`Goal.left_lt_of_expand`).
-/

namespace CompilerDriver.Yaml

/-- The meanings of tag handles. -/
abbrev TagHandles := List (List Char × List Char)

/-- The handles that need no directive. -/
def TagHandles.standard : TagHandles :=
  [(['!'], ['!']), (['!', '!'], "tag:yaml.org,2002:".toList)]

/-- The tag that a written tag stands for, if its handle has a meaning. -/
def TagName.resolve? (name : TagName) (handles : TagHandles) : Option (List Char) :=
  if name.handle.isEmpty then
    some name.suffix
  else
    (handles.find? (fun handle => handle.1 = name.handle)).map (fun handle => handle.2 ++ name.suffix)

/-- What the rest of a text has to be. -/
inductive Goal where
  /-- The documents of a stream, the first of which needs no marker. -/
  | documents (isFirst : Bool)
  /-- The content of a document behind its marker. -/
  | documentContent
  | documentEnd
  /-- A node, which may be a block collection, or a sequence as far in as its key. -/
  | node (allowsBlock allowsIndentless : Bool)
  | blockItems
  | indentlessItems
  | blockKey
  | blockValue
  | flowItems (isFirst : Bool)
  /-- The key of a pair that is an item of a flow sequence. -/
  | flowPairKey
  | flowPairValue
  | flowPairEnd
  | flowKey (isFirst : Bool)
  | flowValue
  /-- The value of a key without a question mark, where there is no colon either. -/
  | flowEmptyValue
  deriving DecidableEq, Repr

namespace Goal

/-- A bound on the number of replacements of the goal that take no token. It is small enough that a goal
that takes one may leave any goals that it does. -/
def weight : Goal → Nat
  | documents true => 9
  | documents false => 1
  | documentContent => 6
  | documentEnd => 2
  | node _ _ => 3
  | flowPairKey => 8
  | flowItems true => 6
  | flowKey true => 7
  | flowPairValue => 4
  | flowPairEnd | blockValue | flowValue | flowEmptyValue => 3
  | flowItems false | flowKey false => 2
  | blockItems | indentlessItems | blockKey => 1

/-- What becomes of a goal: events, the goals in its place, the tokens left, and the tag handles. -/
structure Outcome where
  events : List Event
  goals : List Goal
  rest : List Token
  handles : TagHandles

/-- The directives at the start of a document: whether a version was given, and the tag handles. -/
def directives? : Bool → TagHandles → List Token → Option (TagHandles × List Token)
  | versioned, handles, .version major minor :: rest =>
    if versioned || major ≠ 1 || (minor ≠ 1 && minor ≠ 2) then
      none
    else
      directives? true handles rest
  | versioned, handles, .tagHandle handle meaning :: rest =>
    if handles.any (fun other => other.1 = handle) then
      none
    else
      directives? versioned ((handle, meaning) :: handles) rest
  | _, handles, rest => some (handles ++ .standard, rest)

/-- The anchor and the tag before a node, in any order. -/
def properties : List Token → Option (List Char) × Option TagName × List Token
  | .anchor name :: .tag tag :: rest => (some name, some tag, rest)
  | .tag tag :: .anchor name :: rest => (some name, some tag, rest)
  | .anchor name :: rest => (some name, none, rest)
  | .tag tag :: rest => (none, some tag, rest)
  | rest => (none, none, rest)

/-- Goals in place of the current one, with the events before them and the tokens left. -/
def replace (events : List Event) (goals : List Goal) (rest : List Token) (handles : TagHandles) :
    Option Outcome :=
  some ⟨events, goals, rest, handles⟩

/-- An empty scalar in place of a node of which only an anchor or a tag is written. -/
def bareNode (anchor tag : Option (List Char)) (rest : List Token) (handles : TagHandles) :
    Option Outcome :=
  if anchor.isSome || tag.isSome then
    replace [.scalar anchor tag .plain []] [] rest handles
  else
    none

/-- What a node becomes behind its anchor and tag. -/
def expandContent (allowsBlock allowsIndentless : Bool) (anchor tag : Option (List Char))
    (handles : TagHandles) (tokens : List Token) : Option Outcome :=
  let sequence := Event.collectionStart anchor tag .sequence
  let mapping := Event.collectionStart anchor tag .mapping
  match tokens with
  | .scalar style text :: rest => replace [.scalar anchor tag style text] [] rest handles
  | .flowSequenceStart :: rest => replace [sequence] [flowItems true] rest handles
  | .flowMappingStart :: rest => replace [mapping] [flowKey true] rest handles
  | .blockEntry :: _ =>
    if allowsIndentless then
      replace [sequence] [indentlessItems] tokens handles
    else
      bareNode anchor tag tokens handles
  | .blockSequenceStart :: rest =>
    if allowsBlock then
      replace [sequence] [blockItems] rest handles
    else
      bareNode anchor tag tokens handles
  | .blockMappingStart :: rest =>
    if allowsBlock then
      replace [mapping] [blockKey] rest handles
    else
      bareNode anchor tag tokens handles
  | _ => bareNode anchor tag tokens handles

/-- The tag that stands before a node, if there is one; there is no answer if its handle has no meaning. -/
def resolve? (handles : TagHandles) : Option TagName → Option (Option (List Char))
  | none => some none
  | some name => (name.resolve? handles).map some

/-- What a node becomes. -/
def expandNode (allowsBlock allowsIndentless : Bool) (handles : TagHandles)
    (tokens : List Token) : Option Outcome :=
  match tokens with
  | .alias name :: rest => replace [.alias name] [] rest handles
  | tokens =>
    let (anchor, name, rest) := properties tokens
    match resolve? handles name with
    | some tag => expandContent allowsBlock allowsIndentless anchor tag handles rest
    | none => none

/-- Whether the next token is one of the given ones. The end of the text is none of them. -/
def comesNext (tokens : List Token) (among : List Token) : Bool :=
  tokens.head?.any (fun token => among.contains token)

/-- Whether the next token begins what may come before or after a document, or the text ends. -/
def endsContent : List Token → Bool
  | [] => true
  | .version _ _ :: _ | .tagHandle _ _ :: _ | .documentStart :: _ | .documentEnd :: _ => true
  | _ => false

/-- A node and a further goal, or nothing in place of the node if one of the given tokens comes next. -/
def nodeUnless (among : List Token) (allowsBlock allowsIndentless : Bool) (next : Goal)
    (tokens : List Token) (handles : TagHandles) : Option Outcome :=
  if comesNext tokens among then
    replace [.nothing] [next] tokens handles
  else
    replace [] [node allowsBlock allowsIndentless, next] tokens handles

/-- The next item of a flow sequence, or its end. An item can be a pair of key and value. -/
def flowItem (tokens : List Token) (handles : TagHandles) : Option Outcome :=
  match tokens with
  | .flowSequenceEnd :: rest => replace [.collectionEnd] [] rest handles
  | .key :: rest =>
    replace [.collectionStart none none .mapping] [flowPairKey, flowItems false] rest handles
  | _ => replace [] [node false false, flowItems false] tokens handles

/-- The next entry of a flow mapping, or its end. -/
def flowEntry (tokens : List Token) (handles : TagHandles) : Option Outcome :=
  match tokens with
  | .flowMappingEnd :: rest => replace [.collectionEnd] [] rest handles
  | .key :: rest => nodeUnless [.value, .flowEntry, .flowMappingEnd] false false flowValue rest handles
  | _ => replace [] [node false false, flowEmptyValue] tokens handles

/-- The start of a document with a marker. -/
def markedDocument (tokens : List Token) : Option Outcome :=
  match directives? false [] tokens with
  | some (handles, .documentStart :: rest) =>
    replace [.documentStart] [documentContent] rest handles
  | _ => none

/-- The first document, which needs no marker, or a further one. -/
def document (isFirst : Bool) (tokens : List Token) (handles : TagHandles) : Option Outcome :=
  if tokens.isEmpty then
    replace [] [] [] handles
  else if isFirst && !endsContent tokens then
    replace [.documentStart] [node true false, documentEnd] tokens .standard
  else
    markedDocument tokens

/-- What becomes of the goal, given the tokens and tag handles. -/
def expand (goal : Goal) (tokens : List Token) (handles : TagHandles) : Option Outcome :=
  match goal with
  | documents true => document true tokens handles
  | documents false => document false (tokens.dropWhile (· = .documentEnd)) handles
  | documentContent =>
    if endsContent tokens then
      replace [.nothing] [documentEnd] tokens handles
    else
      replace [] [node true false, documentEnd] tokens handles
  | documentEnd =>
    match tokens with
    | .documentEnd :: rest => replace [.documentEnd] [documents false] rest handles
    | _ => replace [.documentEnd] [documents false] tokens handles
  | node allowsBlock allowsIndentless => expandNode allowsBlock allowsIndentless handles tokens
  | blockItems =>
    match tokens with
    | .blockEntry :: rest => nodeUnless [.blockEntry, .blockEnd] true false blockItems rest handles
    | .blockEnd :: rest => replace [.collectionEnd] [] rest handles
    | _ => none
  | indentlessItems =>
    match tokens with
    | .blockEntry :: rest =>
      nodeUnless [.blockEntry, .key, .value, .blockEnd] true false indentlessItems rest handles
    | _ => replace [.collectionEnd] [] tokens handles
  | blockKey =>
    match tokens with
    | .key :: rest => nodeUnless [.key, .value, .blockEnd] true true blockValue rest handles
    | .blockEnd :: rest => replace [.collectionEnd] [] rest handles
    | _ => none
  | blockValue =>
    match tokens with
    | .value :: rest => nodeUnless [.key, .value, .blockEnd] true true blockKey rest handles
    | _ => replace [.nothing] [blockKey] tokens handles
  | flowItems true => flowItem tokens handles
  | flowItems false =>
    match tokens with
    | .flowEntry :: rest => flowItem rest handles
    | .flowSequenceEnd :: rest => replace [.collectionEnd] [] rest handles
    | _ => none
  | flowPairKey =>
    if comesNext tokens [.value, .flowEntry, .flowSequenceEnd] then
      replace [.nothing] [flowPairValue] tokens.tail handles
    else
      replace [] [node false false, flowPairValue] tokens handles
  | flowPairValue =>
    match tokens with
    | .value :: rest =>
      nodeUnless [.flowEntry, .flowSequenceEnd] false false flowPairEnd rest handles
    | _ => replace [.nothing] [flowPairEnd] tokens handles
  | flowPairEnd => replace [.collectionEnd] [] tokens handles
  | flowKey true => flowEntry tokens handles
  | flowKey false =>
    match tokens with
    | .flowEntry :: rest => flowEntry rest handles
    | .flowMappingEnd :: rest => replace [.collectionEnd] [] rest handles
    | _ => none
  | flowValue =>
    match tokens with
    | .value :: rest =>
      nodeUnless [.flowEntry, .flowMappingEnd] false false (flowKey false) rest handles
    | _ => replace [.nothing] [flowKey false] tokens handles
  | flowEmptyValue => replace [.nothing] [flowKey false] tokens handles

/-! ## Reading all tokens -/

/-- The weight of the goals together. -/
@[simp]
def weights : List Goal → Nat
  | [] => 0
  | goal :: goals => goal.weight + weights goals

/-- A bound on the number of replacements that are left. -/
def left (goals : List Goal) (tokens : List Token) : Nat :=
  12 * tokens.length + weights goals

theorem length_directives {versioned : Bool} {handles handles' : TagHandles}
    {tokens rest : List Token} (h : directives? versioned handles tokens = some (handles', rest)) :
    rest.length ≤ tokens.length := by
  fun_induction directives? versioned handles tokens with
  | case1 => cases h
  | case2 _ _ _ _ _ _ ih => exact Nat.le_succ_of_le (ih h)
  | case3 => cases h
  | case4 _ _ _ _ _ _ ih => exact Nat.le_succ_of_le (ih h)
  | case5 => cases h; exact Nat.le_refl _

theorem left_replace {events : List Event} {goals : List Goal} {rest : List Token}
    {handles : TagHandles} {next : Outcome} (h : replace events goals rest handles = some next) :
    left next.goals next.rest = 12 * rest.length + weights goals := by
  cases h; rfl

theorem left_singleton (goal : Goal) (tokens : List Token) :
    left [goal] tokens = 12 * tokens.length + goal.weight := by
  simp [left]

theorem left_nodeUnless {among : List Token} {block indentless : Bool} {goal : Goal}
    {tokens : List Token} {handles : TagHandles} {next : Outcome}
    (h : nodeUnless among block indentless goal tokens handles = some next) :
    left next.goals next.rest ≤ 12 * tokens.length + 3 + goal.weight := by
  unfold nodeUnless replace at h
  split at h
  · cases h
    simp [left]
  · cases h
    simp [left, weight]
    omega

theorem left_flowItem {tokens : List Token} {handles : TagHandles} {next : Outcome}
    (h : flowItem tokens handles = some next) :
    left next.goals next.rest < 12 * tokens.length + 6 := by
  unfold flowItem replace at h
  split at h <;> cases h <;> simp [left, weight] <;> omega

theorem left_flowEntry {tokens : List Token} {handles : TagHandles} {next : Outcome}
    (h : flowEntry tokens handles = some next) :
    left next.goals next.rest < 12 * tokens.length + 7 := by
  unfold flowEntry at h
  split at h
  · cases h; simp [left]; omega
  · have := left_nodeUnless h
    simp only [weight, List.length_cons] at *
    omega
  · cases h; simp [left, weight]

theorem left_document {isFirst : Bool} {tokens : List Token} {handles : TagHandles}
    {next : Outcome} (h : document isFirst tokens handles = some next) :
    left next.goals next.rest < 12 * tokens.length + (if isFirst then 9 else 1) := by
  unfold document at h
  split at h
  · cases h; simp [left]; split <;> omega
  · split at h
    · next hf =>
      cases h
      simp only [Bool.and_eq_true] at hf
      simp [left, weight, hf.1]
    · unfold markedDocument at h
      split at h
      · next hd =>
        have := length_directives hd
        cases h
        simp only [left, weight, weights, List.length_cons] at *
        omega
      · cases h

theorem length_properties (tokens : List Token) :
    (properties tokens).2.2.length
        + (if (properties tokens).1.isSome || (properties tokens).2.1.isSome then 1 else 0)
      ≤ tokens.length := by
  unfold properties
  split <;> simp

theorem left_bareNode {anchor tag : Option (List Char)} {tokens : List Token}
    {handles : TagHandles} {next : Outcome} (h : bareNode anchor tag tokens handles = some next) :
    left next.goals next.rest = 12 * tokens.length ∧ (anchor.isSome || tag.isSome) = true := by
  unfold bareNode replace at h
  split at h
  · next hs => cases h; exact ⟨by simp [left], hs⟩
  · cases h

theorem left_expandContent {block indentless : Bool} {anchor tag : Option (List Char)}
    {handles : TagHandles} {tokens : List Token} {next : Outcome}
    (h : expandContent block indentless anchor tag handles tokens = some next) :
    left next.goals next.rest < 12 * tokens.length + 3 := by
  have bare (h : bareNode anchor tag tokens handles = some next) :
      left next.goals next.rest < 12 * tokens.length + 3 := by
    rw [(left_bareNode h).1]
    omega
  unfold expandContent at h
  split at h
  · cases h; simp [left]; omega
  · cases h; simp [left, weight]; omega
  · cases h; simp [left, weight]; omega
  · split at h
    · cases h; simp [left, weight]
    · exact bare h
  · split at h
    · cases h; simp [left, weight]; omega
    · exact bare h
  · split at h
    · cases h; simp [left, weight]; omega
    · exact bare h
  · exact bare h

theorem left_expandNode {block indentless : Bool} {handles : TagHandles} {tokens : List Token}
    {next : Outcome} (h : expandNode block indentless handles tokens = some next) :
    left next.goals next.rest < 12 * tokens.length + 3 := by
  unfold expandNode at h
  split at h
  · cases h; simp [left]; omega
  · have hl := length_properties tokens
    generalize properties tokens = found at h hl
    obtain ⟨anchor, name, rest⟩ := found
    dsimp only at h hl
    split at h
    · have := left_expandContent h
      omega
    · cases h

/-- A replacement takes a token or leaves lighter goals. -/
theorem left_lt_of_expand {goal : Goal} {tokens : List Token} {handles : TagHandles}
    {next : Outcome} (h : goal.expand tokens handles = some next) :
    left next.goals next.rest < left [goal] tokens := by
  rw [left_singleton]
  unfold expand at h
  split at h
  · exact left_document h
  · have := left_document h
    have := (List.dropWhile_sublist (· = Token.documentEnd) (l := tokens)).length_le
    simp only [weight, Bool.false_eq_true, if_false] at *
    omega
  · split at h <;> have := left_replace h <;> simp [weight] at * <;> omega
  · split at h <;> have := left_replace h <;> simp [weight] at * <;> omega
  · exact left_expandNode h
  · split at h
    · have := left_nodeUnless h; simp [weight] at *; omega
    · have := left_replace h; simp [weight] at *; omega
    · cases h
  · split at h
    · have := left_nodeUnless h; simp [weight] at *; omega
    · have := left_replace h; simp [weight] at *; omega
  · split at h
    · have := left_nodeUnless h; simp [weight] at *; omega
    · have := left_replace h; simp [weight] at *; omega
    · cases h
  · split at h
    · have := left_nodeUnless h; simp [weight] at *; omega
    · have := left_replace h; simp [weight] at *; omega
  · exact left_flowItem h
  · split at h
    · have := left_flowItem h; simp [weight] at *; omega
    · have := left_replace h; simp [weight] at *; omega
    · cases h
  · split at h
    · next hc =>
      have := left_replace h
      cases tokens with
      | nil => simp [comesNext] at hc
      | cons => simp [weight] at *; omega
    · have := left_replace h; simp [weight] at *; omega
  · split at h
    · have := left_nodeUnless h; simp [weight] at *; omega
    · have := left_replace h; simp [weight] at *; omega
  · have := left_replace h; simp [weight] at *; omega
  · exact left_flowEntry h
  · split at h
    · have := left_flowEntry h; simp [weight] at *; omega
    · have := left_replace h; simp [weight] at *; omega
    · cases h
  · split at h
    · have := left_nodeUnless h; simp [weight] at *; omega
    · have := left_replace h; simp [weight] at *; omega
  · have := left_replace h; simp [weight] at *; omega

theorem weights_append (goals more : List Goal) :
    weights (goals ++ more) = weights goals + weights more := by
  induction goals with
  | nil => simp
  | cons goal goals ih => simp [ih, Nat.add_assoc]

theorem left_append (goals more : List Goal) (tokens : List Token) :
    left (goals ++ more) tokens = left goals tokens + weights more := by
  simp [left, weights_append, Nat.add_assoc]

theorem left_lt_of_expand_cons {goal : Goal} {tokens : List Token} {handles : TagHandles}
    {next : Outcome} (goals : List Goal) (h : goal.expand tokens handles = some next) :
    left (next.goals ++ goals) next.rest < left (goal :: goals) tokens := by
  have := left_lt_of_expand h
  rw [left_append, ← List.singleton_append, left_append]
  omega

/-- The events of the tokens, if they are what the goals say. -/
def run? (goals : List Goal) (tokens : List Token) (handles : TagHandles) : Option (List Event) :=
  match goals with
  | [] => if tokens.isEmpty then some [] else none
  | goal :: goals =>
    match h : goal.expand tokens handles with
    | none => none
    | some next =>
      have := left_lt_of_expand_cons goals h
      (run? (next.goals ++ goals) next.rest next.handles).map (fun events => next.events ++ events)
termination_by left goals tokens

theorem run?_nil (handles : TagHandles) : run? [] [] handles = some [] := by
  rw [run?]
  rfl

theorem run?_cons {goal : Goal} {goals : List Goal} {tokens : List Token} {handles : TagHandles}
    {next : Outcome} (h : goal.expand tokens handles = some next) :
    run? (goal :: goals) tokens handles =
      (run? (next.goals ++ goals) next.rest next.handles).map
        (fun events => next.events ++ events) := by
  rw [run?]
  split
  · next h' => rw [h] at h'; cases h'
  · next h' => rw [h] at h'; cases h'; rfl

end Goal

/-- The events of a text given by its tokens. -/
def Event.ofTokens? (tokens : List Token) : Option (List Event) :=
  Goal.run? [.documents true] tokens .standard

end CompilerDriver.Yaml
