import CompilerDriver.Number.Digits
import CompilerDriver.Yaml.Character
import CompilerDriver.Yaml.Token
/-!
# Anchors and tags

The names that can stand before a node. The text of a tag is a text of octets: an escape in it names the
octets of one character in hexadecimal, and each is kept as the character with its number. A tag ends at
its first octet that is zero, but what stands behind that octet has to be well formed as well.
-/

namespace CompilerDriver.Yaml.Property

/-- Reads the name of an anchor or alias, behind its first character. -/
def scanName? (cs : List Char) : Option (List Char × List Char) :=
  let name := cs.takeWhile isNameChar
  let rest := cs.dropWhile isNameChar
  let ends := endsWord rest || rest.head?.any (fun c => "?:,]\x7d%@`".toList.contains c)
  if name.isEmpty || !ends then none else some (name, rest)

/-- Whether the character can stand in a tag. A tag between angle brackets holds some more. -/
def isTagChar (bracketed : Bool) (c : Char) : Bool :=
  isNameChar c || ";/?:@&=+$.!~*'()".toList.contains c || (bracketed && ",[]".toList.contains c)

/-- The number of octets that follow the first octet of a character. -/
def moreOctets? (octet : Nat) : Option Nat :=
  if octet < 0x80 then some 0
  else if octet < 0xC0 then none
  else if octet < 0xE0 then some 1
  else if octet < 0xF0 then some 2
  else if octet < 0xF8 then some 3
  else none

/-- The number of octets still missing after one more octet. -/
def missingOctets? (missing octet : Nat) : Option Nat :=
  if missing = 0 then moreOctets? octet
  else if 0x80 ≤ octet ∧ octet < 0xC0 then some (missing - 1)
  else none

/-- Reads the characters of a tag while so many octets of one of them are still missing. -/
def scanTagChars? (bracketed : Bool) : Nat → List Char → Option (List Char × List Char)
  | missing, '%' :: high :: low :: rest =>
    match Number.hexDigit? high, Number.hexDigit? low with
    | some high, some low =>
      let octet := high * 16 + low
      match missingOctets? missing octet with
      | some missing =>
        (scanTagChars? bracketed missing rest).map
          (fun (text, rest) => (Char.ofNat octet :: text, rest))
      | none => none
    | _, _ => none
  | missing, c :: rest =>
    if missing ≠ 0 || c = '%' then
      none
    else if isTagChar bracketed c then
      (scanTagChars? bracketed 0 rest).map (fun (text, rest) => (c :: text, rest))
    else
      some ([], c :: rest)
  | missing, [] => if missing = 0 then some ([], []) else none

/-- The octets before the first one that is zero. -/
def beforeZero (text : List Char) : List Char :=
  text.takeWhile (· ≠ '\x00')

/-- Reads a tag handle: an exclamation mark, and possibly a name and another mark. -/
def scanHandle? : List Char → Option (List Char × List Char)
  | '!' :: rest =>
    let name := rest.takeWhile isNameChar
    match rest.dropWhile isNameChar with
    | '!' :: rest => some ('!' :: name ++ ['!'], rest)
    | rest => some ('!' :: name, rest)
  | _ => none

/-- Whether the handle ends in a mark of its own. -/
def isClosed (handle : List Char) : Bool :=
  1 < handle.length && handle.getLast? = some '!'

/-- Reads a tag without the check of what comes next. -/
def scanTagName? (cs : List Char) : Option (TagName × List Char) :=
  match cs with
  | '!' :: '<' :: rest => do
    let (text, rest) ← scanTagChars? true 0 rest
    match rest with
    | '>' :: rest => if text.isEmpty then none else some (⟨[], beforeZero text⟩, rest)
    | _ => none
  | cs => do
    let (handle, rest) ← scanHandle? cs
    let (text, rest) ← scanTagChars? false 0 rest
    if isClosed handle then
      if text.isEmpty then none else some (⟨handle, beforeZero text⟩, rest)
    else
      let suffix := beforeZero (handle.tail ++ text)
      if suffix.isEmpty then some (⟨[], ['!']⟩, rest) else some (⟨['!'], suffix⟩, rest)

/-- Reads a tag. A blank or break follows it, or inside brackets a comma. -/
def scanTag? (inFlow : Bool) (cs : List Char) : Option (TagName × List Char) := do
  let (name, rest) ← scanTagName? cs
  if endsWord rest || (inFlow && rest.head? = some ',') then some (name, rest) else none

/-! ## Names take characters -/

theorem length_scanName {cs name rest : List Char} (h : scanName? cs = some (name, rest)) :
    rest.length ≤ cs.length := by
  simp only [scanName?] at h
  split at h
  · cases h
  · cases h
    exact (List.dropWhile_sublist isNameChar).length_le

theorem length_scanTagChars {bracketed : Bool} {missing : Nat} {cs text rest : List Char}
    (h : scanTagChars? bracketed missing cs = some (text, rest)) : rest.length ≤ cs.length := by
  fun_induction scanTagChars? bracketed missing cs generalizing text with
  | case1 missing high low more =>
    rename_i ih
    obtain ⟨⟨later, _⟩, hl, heq⟩ := Option.map_eq_some_iff.1 h
    cases heq
    exact Nat.le_trans (ih hl) (Nat.le_add_right _ 3)
  | case2 => cases h
  | case3 => cases h
  | case4 => cases h
  | case5 missing c more _ _ _ ih =>
    obtain ⟨⟨later, _⟩, hl, heq⟩ := Option.map_eq_some_iff.1 h
    cases heq
    exact Nat.le_succ_of_le (ih hl)
  | case6 => cases h; exact Nat.le_refl _
  | case7 => cases h; exact Nat.le_refl _
  | case8 => cases h

theorem length_scanHandle {cs handle rest : List Char} (h : scanHandle? cs = some (handle, rest)) :
    rest.length < cs.length := by
  unfold scanHandle? at h
  split at h
  · next more =>
    have hd := (List.dropWhile_sublist isNameChar (l := more)).length_le
    split at h
    · next hm =>
      cases h
      rw [hm] at hd
      exact Nat.lt_succ_of_le (Nat.le_of_succ_le hd)
    · cases h
      exact Nat.lt_succ_of_le hd
  · cases h

theorem length_scanTagName {cs rest : List Char} {name : TagName}
    (h : scanTagName? cs = some (name, rest)) : rest.length < cs.length := by
  unfold scanTagName? at h
  split at h
  · next more =>
    simp only [Option.bind_eq_bind, Option.bind_eq_some_iff] at h
    obtain ⟨⟨text, behind⟩, hText, h⟩ := h
    have := length_scanTagChars hText
    grind
  · simp only [Option.bind_eq_bind, Option.bind_eq_some_iff] at h
    obtain ⟨⟨handle, behind⟩, hHandle, ⟨text, after⟩, hText, h⟩ := h
    have := length_scanHandle hHandle
    have := length_scanTagChars hText
    grind

theorem length_scanTag {inFlow : Bool} {cs rest : List Char} {name : TagName}
    (h : scanTag? inFlow cs = some (name, rest)) : rest.length < cs.length := by
  simp only [scanTag?, Option.bind_eq_bind, Option.bind_eq_some_iff] at h
  obtain ⟨⟨_, behind⟩, hName, h⟩ := h
  have := length_scanTagName hName
  grind

end CompilerDriver.Yaml.Property
