import CompilerDriver.Yaml.Writer
/-!
# Numbers in capital hexadecimal digits

A number that fits the width is written with exactly so many digits, the last of them its remainder by
sixteen, and the digits have the number as their value.
-/

namespace CompilerDriver.Number

/-- The values of the last `width` digits of a number in base sixteen. -/
def hexValues : (width n : Nat) → List Nat
  | 0, _ => []
  | width + 1, n => hexValues width (n / 16) ++ [n % 16]

/-- The capital digit with the value. -/
def capitalDigit (value : Nat) : Char :=
  (Nat.digitChar value).toUpper

theorem hexDigit?_capitalDigit : ∀ value < 16, hexDigit? (capitalDigit value) = some value := by
  decide

theorem isPrintable_capitalDigit : ∀ value < 16, Yaml.isPrintable (capitalDigit value) = true := by
  decide

@[simp]
theorem length_hexValues (width n : Nat) : (hexValues width n).length = width := by
  induction width generalizing n with
  | zero => rfl
  | succ width ih => simp [hexValues, ih]

theorem lt_of_mem_hexValues {width n value : Nat} (h : value ∈ hexValues width n) : value < 16 := by
  induction width generalizing n with
  | zero => cases h
  | succ width ih =>
    rcases List.mem_append.1 h with h | h
    · exact ih h
    · rw [List.mem_singleton.1 h]
      exact Nat.mod_lt n (by decide)

/-- The digits of a number have it as their value if there are enough of them. -/
theorem foldl_hexValues {width n : Nat} (h : n < Nat.pow 16 width) :
    (hexValues width n).foldl (fun value digit => value * 16 + digit) 0 = n := by
  induction width generalizing n with
  | zero => exact (Nat.lt_one_iff.1 h).symm
  | succ width ih =>
    have hQuotient : n / 16 < Nat.pow 16 width := (Nat.div_lt_iff_lt_mul (by decide)).2 h
    rw [hexValues, List.foldl_append, ih hQuotient, List.foldl_cons, List.foldl_nil]
    omega

theorem hexadecimal_one {n : Nat} (h : n < 16) : hexadecimal 1 n = [Nat.digitChar n] := by
  rw [hexadecimal, Nat.toDigits_of_lt_base h]
  rfl

theorem hexadecimal_succ {width n : Nat} (h : 0 < width) :
    hexadecimal (width + 1) n = hexadecimal width (n / 16) ++ [Nat.digitChar (n % 16)] := by
  obtain ⟨width, rfl⟩ := Nat.exists_eq_succ_of_ne_zero (Nat.ne_of_gt h)
  by_cases hn : n < 16
  · have hQuotient : n / 16 = 0 := Nat.div_eq_of_lt hn
    rw [hQuotient, Nat.mod_eq_of_lt hn, hexadecimal, hexadecimal, Nat.toDigits_of_lt_base hn,
      Nat.toDigits_of_lt_base (by decide)]
    simp [List.replicate_succ', Nat.digitChar]
  · rw [hexadecimal, Nat.toDigits_of_base_le (by decide) (Nat.le_of_not_lt hn), hexadecimal]
    simp

/-- A number that fits is written by its digits. -/
theorem capitalHexadecimal_eq {width n : Nat} (hWidth : 0 < width) (h : n < Nat.pow 16 width) :
    Yaml.capitalHexadecimal width n = (hexValues width n).map capitalDigit := by
  induction width generalizing n with
  | zero => cases hWidth
  | succ width ih =>
    rw [Yaml.capitalHexadecimal]
    by_cases hZero : width = 0
    · subst hZero
      have hn : n < 16 := h
      rw [hexadecimal_one hn, hexValues, hexValues, Nat.mod_eq_of_lt hn]
      rfl
    · have hPos := Nat.pos_of_ne_zero hZero
      have hQuotient : n / 16 < Nat.pow 16 width := (Nat.div_lt_iff_lt_mul (by decide)).2 h
      rw [hexadecimal_succ hPos, List.map_append, ← Yaml.capitalHexadecimal, ih hPos hQuotient,
        hexValues, List.map_append]
      rfl

end CompilerDriver.Number
