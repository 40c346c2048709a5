import CompilerDriver.Proofs.Registry.Reports
import Mathlib.Data.List.Indexes
/-!
# Findings about a table that is extended

The spellings that the scan has met reach from a table into what follows it, and canonical options count
for the aliases on either side. So an entry of the table keeps its findings, but for that of an orphan whose
option the extension has, and an entry of the extension has one finding more if its spelling stands in the
table and is new in the extension (`findings_extend_eq_append`).
-/

namespace CompilerDriver

universe u

variable {V : Type u}

/-! ## Findings about one entry -/

namespace Finding

/-- Whether the finding is that an alias has no canonical option. -/
def isOrphan : Finding → Bool
  | .orphanAlias _ => true
  | _ => false

/-- Whether the finding is that a spelling lacks the leading dash. -/
def isUndashed : Finding → Bool
  | .missingPrefix _ => true
  | _ => false

/-- The findings about an entry and one more, that its spelling repeats. Only a missing dash is reported
before it. -/
def insertRepeat (spelling : String) (findings : List Finding) : List Finding :=
  findings.takeWhile isUndashed ++ .duplicateSpelling spelling :: findings.dropWhile isUndashed

/-- The findings about an entry that has a spelling, by what is wrong with it. -/
def ofFaults (spelling : String) (lacksDash isRepeat hasHelp isOrphan : Bool) : List Finding :=
  (if lacksDash then [.missingPrefix spelling] else [])
    ++ (if isRepeat then [.duplicateSpelling spelling] else [])
    ++ (if hasHelp then [.aliasWithHelp spelling] else [])
    ++ (if isOrphan then [.orphanAlias spelling] else [])

variable (spelling : String) (lacksDash isRepeat hasHelp orphan : Bool)

theorem insertRepeat_ofFaults : insertRepeat spelling (ofFaults spelling lacksDash false hasHelp orphan) =
    ofFaults spelling lacksDash true hasHelp orphan := by
  cases lacksDash <;> cases hasHelp <;> cases orphan <;> rfl

theorem filter_ofFaults (isShared : Bool) :
    (ofFaults spelling lacksDash isRepeat hasHelp orphan).filter (fun f => !(f.isOrphan && isShared)) =
      ofFaults spelling lacksDash isRepeat hasHelp (orphan && !isShared) := by
  cases lacksDash <;> cases isRepeat <;> cases hasHelp <;> cases orphan <;> cases isShared <;> rfl

end Finding

namespace Entry

/-- Whether a canonical option of the table shares the transform of the entry. -/
def isSharedBy (entry : Entry V) (table : Table V) : Bool :=
  table.canonical.any (fun option => option.generator.sharesTransform entry.generator)

variable (entry : Entry V) (earlier past : List String)

theorem findings_eq_ofFaults (h : entry.spelling ≠ "") (table : Table V) :
    entry.findings earlier table.canonical =
      Finding.ofFaults entry.spelling entry.lacksDash (entry.spelling ∈ earlier)
        (entry.isAlias && entry.hasHelp) (entry.isAlias && !entry.isSharedBy table) := by
  simp only [findings, if_neg h, Finding.ofFaults, decide_eq_true_eq, isSharedBy]
  rfl

/-- With the canonical options of another table at hand no finding goes but that of an orphan. -/
theorem findings_of_isSharedBy {table more all : Table V}
    (h : entry.isSharedBy all = (entry.isSharedBy table || entry.isSharedBy more)) :
    entry.findings earlier all.canonical =
      (entry.findings earlier table.canonical).filter (fun f => !(f.isOrphan && entry.isSharedBy more)) := by
  by_cases hEmpty : entry.spelling = ""
  · simp [findings, hEmpty, Finding.isOrphan]
  · rw [findings_eq_ofFaults _ _ hEmpty, findings_eq_ofFaults _ _ hEmpty, Finding.filter_ofFaults, h,
      Bool.not_or, Bool.and_assoc]

/-- Behind more spellings an entry has one more finding if its own is among them and was new. -/
theorem findings_append (table : Table V) :
    entry.findings (earlier ++ past) table.canonical =
      if entry.spelling ≠ "" ∧ entry.spelling ∈ past ∧ entry.spelling ∉ earlier then
        Finding.insertRepeat entry.spelling (entry.findings earlier table.canonical)
      else
        entry.findings earlier table.canonical := by
  by_cases hEmpty : entry.spelling = ""
  · simp [findings, hEmpty]
  · rw [findings_eq_ofFaults _ _ hEmpty, findings_eq_ofFaults _ _ hEmpty]
    split
    · next hNew =>
      simp only [List.mem_append, hNew.2.1, hNew.2.2, or_true, decide_true, decide_false,
        Finding.insertRepeat_ofFaults]
    · next hOld =>
      have hSame : entry.spelling ∈ earlier ++ past ↔ entry.spelling ∈ earlier := by
        rw [List.mem_append]
        refine ⟨fun h => h.elim id fun hPast => Classical.byContradiction fun hNew => ?_, .inl⟩
        exact hOld ⟨hEmpty, hPast, hNew⟩
      simp only [hSame]

end Entry

/-! ## Two tables -/

namespace Table

variable (table more : Table V)

theorem canonical_extend : (table.extend more.entries).canonical = table.canonical ++ more.canonical :=
  List.filter_append ..

theorem isSharedBy_extend (entry : Entry V) :
    entry.isSharedBy (table.extend more.entries) = (entry.isSharedBy table || entry.isSharedBy more) := by
  rw [Entry.isSharedBy, canonical_extend, List.any_append]
  rfl

/-- The findings about the entry with the index. -/
def report (index : Nat) (entry : Entry V) : List Finding :=
  entry.findings ((table.entries.take index).map (·.spelling)).reverse table.canonical

theorem findings_eq_flatten_report : table.findings = (table.entries.mapIdx table.report).flatten := by
  rw [findings, findingsFrom_eq_flatten, List.mapIdx_eq_ofFn]
  simp only [List.append_nil]
  rfl

/-- The findings about an entry of the table that another table follows: those without it, but for that of an
orphan whose option the other table has. -/
def reportBefore (index : Nat) (entry : Entry V) : List Finding :=
  (table.report index entry).filter (fun f => !(f.isOrphan && entry.isSharedBy more))

/-- Whether the entry with the index is the first one of the table with its spelling, and another table has the
spelling as well. -/
def IsRepeat (index : Nat) (entry : Entry V) : Prop :=
  entry.spelling ≠ "" ∧ entry.spelling ∈ more.entries.map (·.spelling) ∧
    entry.spelling ∉ (table.entries.take index).map (·.spelling)

instance (index : Nat) (entry : Entry V) : Decidable (table.IsRepeat more index entry) :=
  inferInstanceAs (Decidable (_ ∧ _ ∧ _))

/-- The findings about an entry of the table that follows another table: those without it, but for that of an
orphan whose option the other table has, and one more if it is the first to repeat a spelling from there. -/
def reportAfter (index : Nat) (entry : Entry V) : List Finding :=
  let kept := (table.report index entry).filter (fun f => !(f.isOrphan && entry.isSharedBy more))
  if table.IsRepeat more index entry then Finding.insertRepeat entry.spelling kept else kept

theorem report_extend_of_lt {index : Nat} (h : index < table.entries.length) (entry : Entry V) :
    (table.extend more.entries).report index entry = table.reportBefore more index entry := by
  rw [report, extend, List.take_append_of_le_length (Nat.le_of_lt h)]
  exact entry.findings_of_isSharedBy _ (table.isSharedBy_extend more entry)

theorem report_extend_add_length (index : Nat) (entry : Entry V) :
    (table.extend more.entries).report (index + table.entries.length) entry =
      more.reportAfter table index entry := by
  have hShared : entry.isSharedBy (table.extend more.entries) =
      (entry.isSharedBy more || entry.isSharedBy table) := by
    rw [isSharedBy_extend, Bool.or_comm]
  -- first what is met in the table, then the options that the table has
  rw [report, extend, Nat.add_comm, List.take_length_add_append, List.map_append, List.reverse_append]
  rw [← extend, Entry.findings_append, entry.findings_of_isSharedBy _ hShared]
  simp only [List.mem_reverse]
  rfl

/-- The findings about an extended table are those about its first entries and then those about the others. -/
theorem findings_extend : (table.extend more.entries).findings =
    (table.entries.mapIdx (table.reportBefore more)).flatten ++
      (more.entries.mapIdx (more.reportAfter table)).flatten := by
  have hBefore : table.entries.mapIdx (table.extend more.entries).report =
      table.entries.mapIdx (table.reportBefore more) := by
    apply List.mapIdx_eq_mapIdx_iff.2
    intro index h
    exact report_extend_of_lt table more h _
  have hAfter : (fun index => (table.extend more.entries).report (index + table.entries.length)) =
      more.reportAfter table := by
    funext index entry
    exact report_extend_add_length table more index entry
  rw [findings_eq_flatten_report, extend, List.mapIdx_append, List.flatten_append, ← extend, hBefore, hAfter]

/-! ## What stays -/

section MapIdx

variable {α : Type u} {β : Type} {f g : Nat → α → List β} {l : List α}

theorem flatten_mapIdx_sublist (h : ∀ index a, (f index a).Sublist (g index a)) :
    (l.mapIdx f).flatten.Sublist (l.mapIdx g).flatten := by
  induction l generalizing f g with
  | nil => exact List.Sublist.refl _
  | cons a l ih =>
    rw [List.mapIdx_cons, List.mapIdx_cons, List.flatten_cons, List.flatten_cons]
    exact (h 0 a).append (ih fun index b => h (index + 1) b)

theorem filter_flatten_mapIdx {p : β → Bool} (h : ∀ index a, (f index a).filter p = (g index a).filter p) :
    (l.mapIdx f).flatten.filter p = (l.mapIdx g).flatten.filter p := by
  induction l generalizing f g with
  | nil => rfl
  | cons a l ih =>
    rw [List.mapIdx_cons, List.mapIdx_cons, List.flatten_cons, List.flatten_cons, List.filter_append,
      List.filter_append, h 0 a, ih fun index b => h (index + 1) b]

end MapIdx

/-- No finding about an entry of the table is new. -/
theorem reportsBefore_sublist :
    (table.entries.mapIdx (table.reportBefore more)).flatten.Sublist table.findings := by
  rw [findings_eq_flatten_report]
  exact flatten_mapIdx_sublist (fun _ _ => List.filter_sublist)

/-- No finding about an entry of the table goes but those of orphans. -/
theorem filter_reportsBefore :
    (table.entries.mapIdx (table.reportBefore more)).flatten.filter (!·.isOrphan) =
      table.findings.filter (!·.isOrphan) := by
  rw [findings_eq_flatten_report]
  apply filter_flatten_mapIdx
  intro index entry
  rw [reportBefore, List.filter_filter]
  congr 1
  funext f
  cases f.isOrphan <;> rfl

/-- The findings about a table extended by another one are the findings about its own entries, in order and
without the orphans that share a transform with a canonical option of the other table, and behind them the
findings about the other table's entries. Those are what they are without the table, but for the orphans that
share a transform with one of its canonical options, and for a repeat at the first entry with each of its
spellings. -/
theorem findings_extend_eq_append :
    (∀ t : Table V, t.findings = (t.entries.mapIdx t.report).flatten) ∧
      (table.extend more.entries).findings =
        (table.entries.mapIdx (table.reportBefore more)).flatten ++
          (more.entries.mapIdx (more.reportAfter table)).flatten ∧
      (table.entries.mapIdx (table.reportBefore more)).flatten.Sublist table.findings ∧
      (table.entries.mapIdx (table.reportBefore more)).flatten.filter (!·.isOrphan) =
        table.findings.filter (!·.isOrphan) :=
  ⟨findings_eq_flatten_report, findings_extend table more, reportsBefore_sublist table more,
    filter_reportsBefore table more⟩

/-- An orphan finds its option in the extension, which repeats its spelling. -/
example : let g : Generator Unit := ⟨.flag, fun _ => (), .made 0⟩
    (Table.mk [.ofAlias "-x" g false]).findings = [.orphanAlias "-x"] ∧
      ((Table.mk [.ofAlias "-x" g false]).extend [.ofOption "-x" g false none none]).findings =
        [.duplicateSpelling "-x"] := by
  decide

end Table

end CompilerDriver
