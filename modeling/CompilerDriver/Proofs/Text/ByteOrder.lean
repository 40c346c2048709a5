/-!
# The order of texts and of their bytes

Texts are compared by the numbers of their characters. `octets_lt_iff`: comparing the bytes of their UTF-8
forms gives the same order, because of two different characters the lesser one has the lesser byte where
their forms first differ (`encoding_parts`).
-/

namespace CompilerDriver.Text

/-- The numbers of the characters. -/
def scalars (text : String) : List Nat :=
  text.toList.map Char.toNat

/-- The bytes of the UTF-8 form. -/
def octets (text : String) : List Nat :=
  text.toUTF8.data.toList.map UInt8.toNat

/-! ## One character -/

/-- The bytes of the UTF-8 form of a character. -/
def encoding (c : Char) : List Nat :=
  (String.utf8EncodeChar c).map UInt8.toNat

theorem toNat_lt (c : Char) : c.toNat < 0x110000 := by
  have := c.valid
  simp only [UInt32.isValidChar, Nat.isValidChar] at this
  simp only [Char.toNat]
  omega

/-- The four lengths of a form. -/
theorem encoding_cases (c : Char) :
    (c.toNat < 0x80 ∧ encoding c = [c.toNat]) ∨
    (0x80 ≤ c.toNat ∧ c.toNat < 0x800 ∧
      encoding c = [c.toNat / 64 + 0xc0, c.toNat % 64 + 0x80]) ∨
    (0x800 ≤ c.toNat ∧ c.toNat < 0x10000 ∧
      encoding c = [c.toNat / 4096 + 0xe0, c.toNat / 64 % 64 + 0x80, c.toNat % 64 + 0x80]) ∨
    (0x10000 ≤ c.toNat ∧
      encoding c = [c.toNat / 262144 + 0xf0, c.toNat / 4096 % 64 + 0x80, c.toNat / 64 % 64 + 0x80,
        c.toNat % 64 + 0x80]) := by
  have hBound := toNat_lt c
  unfold encoding String.utf8EncodeChar
  simp only [Char.toNat] at hBound ⊢
  generalize c.val.toNat = n at *
  split
  · refine .inl ⟨by omega, ?_⟩
    simp only [List.map_cons, List.map_nil, UInt8.toNat_ofNat', List.cons.injEq, and_true]
    omega
  split
  · refine .inr (.inl ⟨by omega, by omega, ?_⟩)
    simp only [List.map_cons, List.map_nil, UInt8.toNat_ofNat', List.cons.injEq, and_true]
    omega
  split
  · refine .inr (.inr (.inl ⟨by omega, by omega, ?_⟩))
    simp only [List.map_cons, List.map_nil, UInt8.toNat_ofNat', List.cons.injEq, and_true]
    omega
  · refine .inr (.inr (.inr ⟨by omega, ?_⟩))
    simp only [List.map_cons, List.map_nil, UInt8.toNat_ofNat', List.cons.injEq, and_true]
    omega

theorem encoding_ne_nil (c : Char) : encoding c ≠ [] := by
  rcases encoding_cases c with ⟨-, h⟩ | ⟨-, -, h⟩ | ⟨-, -, h⟩ | ⟨-, h⟩ <;> simp [h]

/-- The first list has a lesser number where the two first differ. What follows makes no difference then. -/
def Parts : List Nat → List Nat → Prop
  | a :: x, b :: y => a < b ∨ (a = b ∧ Parts x y)
  | _, _ => False

theorem append_lt_append_of_parts {x y : List Nat} (h : Parts x y) (v w : List Nat) :
    x ++ v < y ++ w := by
  fun_induction Parts x y with
  | case1 a x b y ih =>
    rcases h with hLess | ⟨rfl, hParts⟩
    · exact List.Lex.rel hLess
    · exact List.Lex.cons (ih hParts)
  | case2 => exact h.elim

/-- The forms of two characters part the way that their numbers do. -/
theorem encoding_parts {c d : Char} (h : c.toNat < d.toNat) : Parts (encoding c) (encoding d) := by
  rcases encoding_cases c with ⟨hc, hcs⟩ | ⟨hc, hc', hcs⟩ | ⟨hc, hc', hcs⟩ | ⟨hc, hcs⟩ <;>
  rcases encoding_cases d with ⟨hd, hds⟩ | ⟨hd, hd', hds⟩ | ⟨hd, hd', hds⟩ | ⟨hd, hds⟩ <;>
  rw [hcs, hds] <;> simp only [Parts] <;> have := toNat_lt c <;> have := toNat_lt d <;> omega

/-! ## Whole texts -/

theorem octets_eq (text : String) : octets text = text.toList.flatMap encoding := by
  have hBytes : text.toUTF8.data.toList = text.toList.flatMap String.utf8EncodeChar := by
    rw [String.toUTF8_eq_toByteArray, ← String.utf8Encode_toList, List.utf8Encode]
    simp
  rw [octets, hBytes, List.map_flatMap]
  rfl

theorem append_lt_append_iff (x : List Nat) {v w : List Nat} : x ++ v < x ++ w ↔ v < w := by
  induction x with
  | nil => rfl
  | cons a x ih => rw [List.cons_append, List.cons_append, List.cons_lt_cons_self, ih]

theorem flatMap_encoding_lt_iff {cs ds : List Char} :
    cs.flatMap encoding < ds.flatMap encoding ↔ cs.map Char.toNat < ds.map Char.toNat := by
  induction cs generalizing ds with
  | nil =>
    cases ds with
    | nil => simp
    | cons d ds =>
      obtain ⟨b, more, hEncoding⟩ := List.exists_cons_of_ne_nil (encoding_ne_nil d)
      simp [hEncoding]
  | cons c cs ih =>
    cases ds with
    | nil => simp
    | cons d ds =>
      simp only [List.flatMap_cons, List.map_cons, List.cons_lt_cons_iff]
      rcases Nat.lt_trichotomy c.toNat d.toNat with hLess | hSame | hMore
      · simp only [hLess, true_or, iff_true]
        exact append_lt_append_of_parts (encoding_parts hLess) _ _
      · -- Equal heads have equal forms, and the rests decide.
        obtain rfl : c = d := Char.toNat_inj.1 hSame
        simp only [append_lt_append_iff, ih, Nat.lt_irrefl, true_and, false_or]
      · have hAfter := append_lt_append_of_parts (encoding_parts hMore) (ds.flatMap encoding)
          (cs.flatMap encoding)
        constructor
        · intro h
          exact absurd h (List.lt_asymm hAfter)
        · rintro (h | ⟨h, -⟩) <;> omega

/-- The order of the bytes is that of the characters. -/
theorem octets_lt_iff {s t : String} : octets s < octets t ↔ scalars s < scalars t := by
  rw [octets_eq, octets_eq, flatMap_encoding_lt_iff]
  rfl

/-- The order of texts is that of their characters. -/
theorem lt_iff_scalars_lt {s t : String} : s < t ↔ scalars s < scalars t := by
  have hChars : ∀ cs ds : List Char, cs < ds ↔ cs.map Char.toNat < ds.map Char.toNat := by
    intro cs
    induction cs with
    | nil => intro ds; cases ds <;> simp
    | cons c cs ih =>
      intro ds
      cases ds with
      | nil => simp
      | cons d ds =>
        rw [List.map_cons, List.map_cons, List.cons_lt_cons_iff, List.cons_lt_cons_iff, ih,
          Char.lt_def, UInt32.lt_iff_toNat_lt, ← Char.toNat_inj]
        rfl
  exact hChars s.toList t.toList

end CompilerDriver.Text
