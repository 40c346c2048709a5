import CompilerDriver.Help.Listing
import CompilerDriver.Proofs.Text.Lowercase
/-!
# The keys that options are ordered by

A key is a text in lowercase with no dash in front, and every such text is its own key. Dashes in front of a
spelling do not count, and it is the same whether they are taken away before or after lowercasing
(`sortKey_canonical`).
-/

namespace CompilerDriver.Help

/-- The text without the dashes in front of it. -/
def withoutDashes (s : String) : String :=
  String.ofList (s.toList.dropWhile (· == '-'))

theorem sortKey_eq_lowercase (s : String) : sortKey s = Text.lowercase (withoutDashes s) :=
  rfl

theorem toList_sortKey (s : String) :
    (sortKey s).toList = (Text.lowerAfter [] s.toList).dropWhile (· == '-') := by
  rw [sortKey, Text.lowercase, String.toList_ofList, String.toList_ofList, Text.dropWhile_lowerAfter]

theorem withoutDashes_lowercase (s : String) : withoutDashes (Text.lowercase s) = sortKey s := by
  rw [withoutDashes, Text.lowercase, String.toList_ofList, ← toList_sortKey, String.ofList_toList]

theorem sortKey_dashes_append (n : Nat) (s : String) :
    sortKey (String.ofList (List.replicate n '-') ++ s) = sortKey s := by
  have hDashes : ∀ c ∈ List.replicate n '-', (c == '-') = true := by
    intro c hc
    exact beq_iff_eq.2 (List.eq_of_mem_replicate hc)
  rw [sortKey, String.toList_append, String.toList_ofList, List.dropWhile_append_of_pos hDashes, sortKey]

theorem head?_sortKey (s : String) : (sortKey s).toList.head? ≠ some '-' := by
  intro hHead
  have hFirst := List.head?_dropWhile_not (· == '-') (Text.lowerAfter [] s.toList)
  rw [← toList_sortKey, hHead] at hFirst
  simp at hFirst

theorem withoutDashes_of_head? {s : String} (h : s.toList.head? ≠ some '-') : withoutDashes s = s := by
  rw [withoutDashes]
  cases hs : s.toList with
  | nil => rw [List.dropWhile_nil, ← hs, String.ofList_toList]
  | cons c cs =>
    rw [hs, List.head?_cons, ne_eq, Option.some.injEq] at h
    rw [List.dropWhile_cons_of_neg (by simpa using h), ← hs, String.ofList_toList]

theorem lowercase_sortKey (s : String) : Text.lowercase (sortKey s) = sortKey s :=
  Text.lowercase_lowercase _

theorem sortKey_sortKey (s : String) : sortKey (sortKey s) = sortKey s := by
  rw [sortKey_eq_lowercase (sortKey s), withoutDashes_of_head? (head?_sortKey s), lowercase_sortKey]

/-- The key is the same for all numbers of dashes in front of a spelling. It starts with no dash, is in lowercase
and is its own key, and it is what is left of the spelling in lowercase without the dashes in front. -/
theorem sortKey_canonical (s : String) :
    (∀ n, sortKey (String.ofList (List.replicate n '-') ++ s) = sortKey s) ∧
      (sortKey s).toList.head? ≠ some '-' ∧
      sortKey (sortKey s) = sortKey s ∧ Text.lowercase (sortKey s) = sortKey s ∧
      withoutDashes (Text.lowercase s) = Text.lowercase (withoutDashes s) ∧
      sortKey s = Text.lowercase (withoutDashes s) := by
  refine ⟨fun n => sortKey_dashes_append n s, head?_sortKey s, sortKey_sortKey s, lowercase_sortKey s, ?_,
    sortKey_eq_lowercase s⟩
  rw [withoutDashes_lowercase, sortKey_eq_lowercase]

example : sortKey "--\u0130ΑΣ-Σ" = "i\u0307ας-σ" := by
  decide +kernel

end CompilerDriver.Help
