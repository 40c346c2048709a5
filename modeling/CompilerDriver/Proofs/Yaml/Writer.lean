import CompilerDriver.Proofs.Yaml.Scalar.Block
import CompilerDriver.Proofs.Yaml.Scalar.Plain
import CompilerDriver.Proofs.Yaml.Scalar.Quoted
/-!
# Written scalars

A style is chosen only for texts that it can be read back from (`writtenAs_writeScalar`), and whatever the
style is, only printable characters are written (`isPrintable_of_mem_writeScalar`).
-/

namespace CompilerDriver.Yaml

/-- A text in a style that it may be written in, and what is written then. -/
inductive WrittenAs (width : Nat) (cs : List Char) : Style → List Char → Prop
  | plain : Plain.IsBare cs → (∀ c ∈ cs, isPrintable c = true) →
      WrittenAs width cs .plain (cs ++ ['\n'])
  | singleQuoted : '\n' ∉ cs → allowsSingleQuotes cs = true →
      WrittenAs width cs .singleQuoted ('\'' :: writeSingle width false cs ++ ['\'', '\n'])
  | doubleQuoted :
      WrittenAs width cs .doubleQuoted ('"' :: cs.flatMap writeDoubleChar ++ ['"', '\n'])
  | literal : cs ≠ [] → (∀ c ∈ cs, isPrintable c = true) →
      WrittenAs width cs .literal
        ('|' :: Block.headerSigns cs ++ '\n' :: writeLiteral width true (Block.ended cs))

/-- A style is chosen only for texts that it can be read back from. -/
theorem writtenAs_writeScalar (width : Nat) (cs : List Char) :
    WrittenAs width cs (styleOf cs) (writeScalar width cs) := by
  by_cases hFeed : '\n' ∈ cs
  · have hContains : cs.contains '\n' = true := List.contains_iff_mem.2 hFeed
    by_cases hBlock : allowsBlock cs = true
    · have hStyle : styleOf cs = .literal := by rw [styleOf, if_pos hContains, if_pos hBlock]
      have hSome : cs ≠ [] := List.ne_nil_of_mem hFeed
      have hPrintable : ∀ c ∈ cs, isPrintable c = true := by
        simp only [allowsBlock, Bool.and_eq_true, List.all_eq_true] at hBlock
        exact hBlock.1.1
      have hWritten : writeScalar width cs =
          '|' :: Block.headerSigns cs ++ '\n' :: writeLiteral width true (Block.ended cs) := by
        rw [writeScalar, hStyle, ← Block.writeLiteral_ended, ← Block.literalHeader_eq]
        exact List.append_assoc _ _ _
      rw [hStyle, hWritten]
      exact .literal hSome hPrintable
    · have hStyle : styleOf cs = .doubleQuoted := by rw [styleOf, if_pos hContains, if_neg hBlock]
      rw [writeScalar, hStyle]
      exact .doubleQuoted
  · have hContains : ¬ cs.contains '\n' = true := fun h => hFeed (List.contains_iff_mem.1 h)
    by_cases hPlain : (!needsQuotes cs && allowsPlain cs) = true
    · have hStyle : styleOf cs = .plain := by rw [styleOf, if_neg hContains, if_pos hPlain]
      simp only [Bool.and_eq_true, Bool.not_eq_true', needsQuotes, Bool.or_eq_false_iff] at hPlain
      obtain ⟨⟨⟨⟨⟨⟨hNull, -⟩, -⟩, -⟩, -⟩, -⟩, hAllowed⟩ := hPlain
      have hPrintable : ∀ c ∈ cs, isPrintable c = true := by
        simp only [allowsPlain, Bool.and_eq_true, List.all_eq_true] at hAllowed
        exact hAllowed.1.1.1.1.1.1
      rw [writeScalar, hStyle]
      exact .plain (Plain.isBare_of_allowsPlain hNull hAllowed) hPrintable
    · by_cases hQuotes : allowsSingleQuotes cs = true
      · have hStyle : styleOf cs = .singleQuoted := by
          rw [styleOf, if_neg hContains, if_neg hPlain, if_pos hQuotes]
        rw [writeScalar, hStyle]
        exact .singleQuoted hFeed hQuotes
      · have hStyle : styleOf cs = .doubleQuoted := by
          rw [styleOf, if_neg hContains, if_neg hPlain, if_neg hQuotes]
        rw [writeScalar, hStyle]
        exact .doubleQuoted

theorem WrittenAs.isPrintable {width : Nat} {cs written : List Char} {style : Style}
    (h : WrittenAs width cs style written) : ∀ c ∈ written, isPrintable c = true := by
  cases h with
  | plain hBare hPrintable =>
    exact List.forall_mem_append.2 ⟨hPrintable, List.forall_mem_singleton.2 rfl⟩
  | singleQuoted hFeed hAllowed =>
    have hPrintable : ∀ c ∈ cs, Yaml.isPrintable c = true := by
      simp only [allowsSingleQuotes, Bool.and_eq_true, List.all_eq_true] at hAllowed
      exact hAllowed.1.1
    have hText : ∀ c ∈ writeSingle width false cs, Yaml.isPrintable c = true :=
      Quoted.isPrintable_of_mem_writeSingle hPrintable
    exact List.forall_mem_append.2 ⟨List.forall_mem_cons.2 ⟨rfl, hText⟩, List.all_eq_true.1 rfl⟩
  | doubleQuoted =>
    have hText : ∀ c ∈ cs.flatMap writeDoubleChar, Yaml.isPrintable c = true := by
      intro c hc
      obtain ⟨d, -, hd⟩ := List.mem_flatMap.1 hc
      exact Quoted.isPrintable_of_mem_writeDoubleChar c hd
    exact List.forall_mem_append.2 ⟨List.forall_mem_cons.2 ⟨rfl, hText⟩, List.all_eq_true.1 rfl⟩
  | literal hSome hPrintable =>
    have hEnded : ∀ c ∈ Block.ended cs, Yaml.isPrintable c = true := by
      unfold Block.ended
      split
      · exact hPrintable
      · exact List.forall_mem_append.2 ⟨hPrintable, List.forall_mem_singleton.2 rfl⟩
    have hHeader : ∀ c ∈ '|' :: Block.headerSigns cs, Yaml.isPrintable c = true :=
      List.forall_mem_cons.2 ⟨rfl, Block.isPrintable_of_mem_headerSigns⟩
    have hBody : ∀ c ∈ writeLiteral width true (Block.ended cs), Yaml.isPrintable c = true :=
      Block.isPrintable_of_mem_writeLiteral hEnded
    exact List.forall_mem_append.2 ⟨hHeader, List.forall_mem_cons.2 ⟨rfl, hBody⟩⟩

/-- Only printable characters are written. -/
theorem isPrintable_of_mem_writeScalar {width : Nat} {cs : List Char} :
    ∀ c ∈ writeScalar width cs, isPrintable c = true :=
  (writtenAs_writeScalar width cs).isPrintable

end CompilerDriver.Yaml
