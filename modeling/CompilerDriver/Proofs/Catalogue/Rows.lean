import CompilerDriver.Catalogue.Rows
import CompilerDriver.Proofs.Registry.Findings
/-!
# What resolving the rows of a catalogue gives

If the rows are regular, every line shares its construction with the line of a canonical option that its values name
(`exists_option`). Whatever the rows are, a construction is known by its number (`numbered_resolveAfter`). The
driver's own rows are regular, none of them copies what is not there (`map_row_lines`), and the checks of tables find
no fault with their entries (`findings_driverOptions`).
-/

namespace CompilerDriver

namespace Catalogue

theorem mem_of_lookup {made : List (String × Construction)} {spelling : String} {construction : Construction}
    (h : made.lookup spelling = some construction) : (spelling, construction) ∈ made := by
  obtain ⟨later, earlier, rfl, -⟩ := List.lookup_eq_some_iff.1 h
  exact List.mem_append_right _ List.mem_cons_self

theorem mem_tableOf {lines : List Line} {e : Entry Occurrence} :
    e ∈ (tableOf lines).entries ↔ ∃ line ∈ lines, line.entry = e :=
  List.mem_map

theorem map_row_sublist (made : List (String × Construction)) (rows : List Row) :
    ((resolveAfter made rows).map (·.row)).Sublist rows := by
  fun_induction resolveAfter made rows with
  | case1 made => exact List.Sublist.slnil
  | case2 made row rows kind option hSupply construction ih => exact ih.cons_cons row
  | case3 made row rows spelling hSupply construction hFound ih => exact ih.cons_cons row
  | case4 made row rows spelling hSupply hNotFound ih => exact ih.cons row

/-! ## Names -/

/-- The line is that of a canonical option, has the construction, and the values name it. -/
structure Line.IsNamedBy (option : Line) (made : Construction) : Prop where
  canonical : option.row.isAlias = false
  construction : option.construction = made
  naming : made.option = option.row.spelling

/-- What the line of a canonical option is to the lines that have its generator or a copy of it. -/
structure Line.IsOptionOf (option line : Line) : Prop extends option.IsNamedBy line.construction where
  self : line.row.isAlias = false → option = line

/-- A generator that is made for a row names the spelling of the row, which is a canonical option, and copies are for
aliases. -/
def Row.isRegular (row : Row) : Bool :=
  match row.generator with
  | .made _ option => option == row.spelling && !row.isAlias
  | .copied _ => row.isAlias

/-- Regular rows have lines that go back to the options they name, possibly to those of earlier rows. -/
theorem exists_option (before : List Line) (made : List (String × Construction)) (rows : List Row)
    (hRegular : ∀ row ∈ rows, row.isRegular = true)
    (hMade : ∀ pair ∈ made, ∃ option ∈ before, option.IsNamedBy pair.2) :
    ∀ line ∈ resolveAfter made rows, ∃ option ∈ before ++ resolveAfter made rows, option.IsOptionOf line := by
  fun_induction resolveAfter made rows generalizing before with
  | case1 made => simp
  | case2 made row rows kind option hSupply construction ih =>
    obtain ⟨hRow, hRows⟩ := List.forall_mem_cons.1 hRegular
    obtain ⟨rfl, hCanonical⟩ : option = row.spelling ∧ row.isAlias = false := by
      simpa [Row.isRegular, hSupply] using hRow
    have hOwn : Line.IsNamedBy ⟨row, construction⟩ construction := ⟨hCanonical, rfl, rfl⟩
    refine List.forall_mem_cons.2 ⟨?_, ?_⟩
    · exact ⟨_, List.mem_append_right _ List.mem_cons_self, hOwn, fun _ => rfl⟩
    · -- the line of this row is an earlier one to the others
      rw [List.append_cons]
      refine ih _ hRows (List.forall_mem_cons.2 ⟨?_, ?_⟩)
      · exact ⟨_, List.mem_append_right _ List.mem_cons_self, hOwn⟩
      · intro pair hPair
        obtain ⟨option, hOption, hNamed⟩ := hMade pair hPair
        exact ⟨option, List.mem_append_left _ hOption, hNamed⟩
  | case3 made row rows spelling hSupply construction hFound ih =>
    obtain ⟨hRow, hRows⟩ := List.forall_mem_cons.1 hRegular
    have hAlias : row.isAlias = true := by
      simpa [Row.isRegular, hSupply] using hRow
    refine List.forall_mem_cons.2 ⟨?_, ?_⟩
    · obtain ⟨option, hOption, hNamed⟩ := hMade _ (mem_of_lookup hFound)
      refine ⟨option, List.mem_append_left _ hOption, hNamed, ?_⟩
      intro hNoAlias
      cases hAlias.symm.trans hNoAlias
    · intro line hLine
      obtain ⟨option, hOption, hIs⟩ := ih before hRows hMade line hLine
      refine ⟨option, ?_, hIs⟩
      rcases List.mem_append.1 hOption with hOption | hOption
      · exact List.mem_append_left _ hOption
      · exact List.mem_append_right _ (List.mem_cons_of_mem _ hOption)
  | case4 made row rows spelling hSupply hNotFound ih =>
    exact ih before (List.forall_mem_cons.1 hRegular).2 hMade

/-! ## Numbers -/

/-- The constructions are known by their numbers. -/
def Numbered (constructions : List Construction) : Prop :=
  ∀ a ∈ constructions, ∀ b ∈ constructions, a.number = b.number → a = b

theorem Numbered.mono {constructions more : List Construction} (h : Numbered more) (hSub : constructions ⊆ more) :
    Numbered constructions :=
  fun a ha b hb => h a (hSub ha) b (hSub hb)

theorem Numbered.cons {construction : Construction} {constructions : List Construction} (h : Numbered constructions)
    (hNew : ∀ c ∈ constructions, c.number ≠ construction.number) : Numbered (construction :: constructions) := by
  intro a ha b hb hNumber
  rcases List.mem_cons.1 ha with rfl | haRest <;> rcases List.mem_cons.1 hb with rfl | hbRest
  · rfl
  · exact absurd hNumber.symm (hNew b hbRest)
  · exact absurd hNumber (hNew a haRest)
  · exact h a haRest b hbRest hNumber

/-- What is made gets a number that nothing had before. -/
theorem numbered_resolveAfter (made : List (String × Construction)) (rows : List Row)
    (hMade : Numbered (made.map (·.2))) (hBelow : ∀ pair ∈ made, pair.2.number < made.length) :
    Numbered (made.map (·.2) ++ (resolveAfter made rows).map (·.construction)) := by
  fun_induction resolveAfter made rows with
  | case1 made => simpa using hMade
  | case2 made row rows kind option hSupply construction ih =>
    have hNew : ∀ c ∈ made.map (·.2), c.number ≠ made.length := by
      intro c hc
      obtain ⟨pair, hPair, rfl⟩ := List.mem_map.1 hc
      exact Nat.ne_of_lt (hBelow pair hPair)
    have hNext : ∀ pair ∈ (row.spelling, construction) :: made, pair.2.number < made.length + 1 :=
      List.forall_mem_cons.2 ⟨Nat.lt_succ_self _, fun pair hPair => Nat.lt_succ_of_lt (hBelow pair hPair)⟩
    have hMore : Numbered (construction :: made.map (·.2)) := hMade.cons hNew
    exact (ih hMore hNext).mono (by simp)
  | case3 made row rows spelling hSupply construction hFound ih =>
    refine (ih hMade hBelow).mono (List.append_subset.2 ⟨List.subset_append_left _ _, ?_⟩)
    have hMem : construction ∈ made.map (·.2) := List.mem_map_of_mem (mem_of_lookup hFound)
    exact List.cons_subset.2 ⟨List.mem_append_left _ hMem, List.subset_append_right _ _⟩
  | case4 made row rows spelling hSupply hNotFound ih => exact ih hMade hBelow

/-! ## The driver's own options -/

/-- No row copies what was not made before it, so every row has its line. -/
theorem map_row_lines : Catalogue.lines.map (·.row) = Catalogue.rows := by
  apply (map_row_sublist [] Catalogue.rows).eq_of_length
  rw [List.length_map]
  decide +kernel

theorem isRegular_of_mem_rows : ∀ row ∈ Catalogue.rows, row.isRegular = true := by
  decide +kernel

theorem exists_option_of_mem_lines {line : Line} (h : line ∈ Catalogue.lines) :
    ∃ option ∈ Catalogue.lines, option.IsOptionOf line :=
  exists_option [] [] Catalogue.rows isRegular_of_mem_rows (by simp) line h

theorem numbered_lines : Numbered (Catalogue.lines.map (·.construction)) :=
  numbered_resolveAfter [] Catalogue.rows (by simp [Numbered]) (by simp)

end Catalogue

theorem findings_driverOptions : driverOptions.findings = [] := by
  decide +kernel

theorem nodup_spellings_driverOptions : (driverOptions.entries.map (·.spelling)).Nodup :=
  (Table.findings_eq_nil_iff.1 findings_driverOptions).2

end CompilerDriver
