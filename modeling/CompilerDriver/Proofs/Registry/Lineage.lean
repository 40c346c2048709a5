import CompilerDriver.Proofs.Registry.Assembly
import CompilerDriver.Proofs.Registry.Lookup
import Mathlib.Data.List.Forall2
import Mathlib.Data.List.Nodup
/-!
# Lines of descent in a session

Every generator of a session goes back to one constructor call: that of a row of the catalogue, or one that
a step of the session makes. A `Lineage` keeps these calls for every place where a session keeps a
generator, and `Lineage.step` says what each step does to them: a copy and a change of kind keep the call of
their source, an added entry has the call of its source, and what is looked up, selected, saved or restored
has the call of the place it comes from. No origin is read for that.

`Session.follows_of_run`: at the end of a run the origin of a generator tells its constructor call.
-/

namespace CompilerDriver

universe u

variable {V : Type u}

/-- A call of a constructor. -/
inductive Call where
  /-- The call with this number among those for rows of the catalogue. -/
  | row (index : Nat)
  /-- The call in this step of the session, for the addition with this number. -/
  | made (step addition : Nat)
  deriving DecidableEq, Repr

/-! ## The constructor calls of a run -/

/-- The constructor calls that additions make, where the first one has the given number. -/
def Addition.calls (step : Nat) : Nat → List (Addition V) → List Call
  | _, [] => []
  | number, addition :: rest =>
    match addition.source with
    | .held _ => calls step (number + 1) rest
    | .fresh _ => .made step number :: calls step (number + 1) rest

namespace Operation

/-- The constructor calls that the step with the number makes. -/
def calls (number : Nat) : Operation V → List Call
  | .make _ _ => [.made number 0]
  | .add addition => Addition.calls number 0 [addition]
  | .extend additions => Addition.calls number 0 additions
  | _ => []

/-- The constructor calls of a run, in their order, where the first step has the given number. -/
def callsFrom : Nat → List (Operation V) → List Call
  | _, [] => []
  | number, operation :: rest => operation.calls number ++ callsFrom (number + 1) rest

end Operation

theorem Addition.of_mem_calls {step number : Nat} {additions : List (Addition V)} {call : Call}
    (h : call ∈ calls step number additions) : ∃ i, number ≤ i ∧ call = .made step i := by
  induction additions generalizing number with
  | nil => cases h
  | cons addition rest ih =>
    have hRest : call ∈ calls step (number + 1) rest → ∃ i, number ≤ i ∧ call = .made step i := by
      intro hCall
      obtain ⟨i, hi, rfl⟩ := ih hCall
      exact ⟨i, Nat.le_of_succ_le hi, rfl⟩
    unfold calls at h
    split at h
    · exact hRest h
    · rcases List.mem_cons.1 h with rfl | h
      · exact ⟨number, Nat.le_refl _, rfl⟩
      · exact hRest h

theorem Addition.calls_cons (step number : Nat) (addition : Addition V) (rest : List (Addition V)) :
    calls step number (addition :: rest) =
      calls step number [addition] ++ calls step (number + 1) rest := by
  rw [calls, calls]
  split <;> rfl

theorem Addition.nodup_calls (step number : Nat) (additions : List (Addition V)) :
    (calls step number additions).Nodup := by
  induction additions generalizing number with
  | nil => exact List.nodup_nil
  | cons addition rest ih =>
    unfold calls
    split
    · exact ih (number + 1)
    · refine List.nodup_cons.2 ⟨?_, ih (number + 1)⟩
      intro h
      obtain ⟨i, hi, heq⟩ := of_mem_calls h
      cases heq
      exact absurd hi (Nat.not_succ_le_self _)

namespace Operation

theorem of_mem_calls {number : Nat} {operation : Operation V} {call : Call}
    (h : call ∈ operation.calls number) : ∃ i, call = .made number i := by
  cases operation with
  | make name recipe => exact ⟨0, List.mem_singleton.1 h⟩
  | add addition | extend additions =>
    obtain ⟨i, -, hCall⟩ := Addition.of_mem_calls h
    exact ⟨i, hCall⟩
  | _ => cases h

theorem nodup_calls (number : Nat) (operation : Operation V) : (operation.calls number).Nodup := by
  cases operation with
  | make name recipe => exact List.nodup_singleton _
  | add addition | extend additions => exact Addition.nodup_calls _ _ _
  | _ => exact List.nodup_nil

theorem of_mem_callsFrom {number : Nat} {operations : List (Operation V)} {call : Call}
    (h : call ∈ callsFrom number operations) : ∃ step i, number ≤ step ∧ call = .made step i := by
  induction operations generalizing number with
  | nil => cases h
  | cons operation rest ih =>
    rcases List.mem_append.1 h with h | h
    · obtain ⟨i, rfl⟩ := of_mem_calls h
      exact ⟨number, i, Nat.le_refl _, rfl⟩
    · obtain ⟨step, i, hStep, rfl⟩ := ih h
      exact ⟨step, i, Nat.le_of_succ_le hStep, rfl⟩

/-- No call of a run is made twice. -/
theorem nodup_callsFrom (number : Nat) (operations : List (Operation V)) :
    (callsFrom number operations).Nodup := by
  induction operations generalizing number with
  | nil => exact List.nodup_nil
  | cons operation rest ih =>
    refine List.nodup_append'.2 ⟨nodup_calls number operation, ih (number + 1), ?_⟩
    -- a later step has a greater number
    intro call hFirst hLater
    obtain ⟨i, rfl⟩ := of_mem_calls hFirst
    obtain ⟨step, j, hStep, heq⟩ := of_mem_callsFrom hLater
    cases heq
    exact Nat.not_succ_le_self _ hStep

theorem callsFrom_prefix (number : Nat) {before operations : List (Operation V)}
    (h : before <+: operations) : callsFrom number before <+: callsFrom number operations := by
  induction before generalizing number operations with
  | nil => exact List.nil_prefix
  | cons operation before ih =>
    obtain ⟨rest, rfl⟩ := h
    exact (List.prefix_append_right_inj _).2 (ih (number + 1) (List.prefix_append _ _))

end Operation

/-! ## Lineages -/

/-- The constructor calls that the generators of a session descend from, in the order of the places. -/
structure Lineage where
  catalogue : List Call
  table : List Call
  saved : List Call
  held : List (String × Call)

namespace Lineage

/-- The call behind the generator held under the name. -/
def held? (lineage : Lineage) (name : String) : Option Call :=
  (lineage.held.find? (fun pair => pair.1 == name)).map (·.2)

/-- Holds a generator that goes back to the call. -/
def hold (lineage : Lineage) (name : String) (call : Call) : Lineage :=
  { lineage with held := (name, call) :: lineage.held }

/-- The call behind what a table finds for the spelling: the first canonical entry with it, or else the
first alias. -/
def found? (table : Table V) (calls : List Call) (spelling : String) : Option Call :=
  let pairs := table.entries.zip calls
  ((pairs.find? (fun pair => !pair.1.isAlias && pair.1.spelling == spelling)).or
    (pairs.find? (fun pair => pair.1.isAlias && pair.1.spelling == spelling))).map (·.2)

/-- The call behind what the current table of the session, or the catalogue, finds for the spelling. -/
def lookup? (lineage : Lineage) (session : Session V) (spelling : String) (fromCatalogue : Bool) :
    Option Call :=
  if fromCatalogue then found? session.catalogue lineage.catalogue spelling
  else found? session.table lineage.table spelling

/-- The calls behind the selected entries of a table. -/
def selected (selection : Selection) (table : Table V) (calls : List Call) : List Call :=
  let pick := fun (chosen : Entry V → Bool) =>
    ((table.entries.zip calls).filter (fun pair => chosen pair.1)).map (·.2)
  match selection with
  | .canonical => pick (fun entry => !entry.isAlias)
  | .aliases => pick (fun entry => entry.isAlias)
  | .hidden => pick (fun entry => entry.isHidden)
  | .shown => pick (fun entry => !entry.isHidden)
  | .reverse => calls.reverse
  | .places indices => indices.filterMap (calls[·]?)

/-- The lineage after an addition, which has the number in the step. -/
def add (lineage : Lineage) (step number : Nat) (addition : Addition V) : Option Lineage :=
  match addition.source with
  | .held name =>
    (lineage.held? name).map (fun call => { lineage with table := lineage.table ++ [call] })
  | .fresh _ => some { lineage with table := lineage.table ++ [.made step number] }

/-- The lineage after additions, of which the first has the number in the step. -/
def extend (lineage : Lineage) (step : Nat) : Nat → List (Addition V) → Option Lineage
  | _, [] => some lineage
  | number, addition :: rest =>
    (lineage.add step number addition).bind (fun next => next.extend step (number + 1) rest)

/-- The lineage after the step with the number, which the session is about to take. -/
def step (session : Session V) (number : Nat) (lineage : Lineage) : Operation V → Option Lineage
  | .make name _ => some (lineage.hold name (.made number 0))
  | .duplicate name source => (lineage.held? source).map (lineage.hold name)
  | .rekind name source _ => (lineage.held? source).map (lineage.hold name)
  | .take name spelling fromCatalogue =>
    match lineage.lookup? session spelling fromCatalogue with
    | some call => some (lineage.hold name call)
    | none => some lineage
  | .add addition => lineage.add number 0 addition
  | .extend additions => lineage.extend number 0 additions
  | .extendFromCatalogue spellings =>
    some { lineage with
      table := lineage.table ++ spellings.filterMap (found? session.catalogue lineage.catalogue) }
  | .keep selection =>
    some { lineage with table := selected selection session.table lineage.table }
  | .snapshot => some { lineage with saved := lineage.table }
  | .restore => some { lineage with table := lineage.saved }

end Lineage

/-- The session after a run of steps, of which the first has the number, together with its lineage. -/
def Session.track (session : Session V) (lineage : Lineage) :
    Nat → List (Operation V) → Option (Session V × Lineage)
  | _, [] => some (session, lineage)
  | number, operation :: rest =>
    (session.step operation).bind (fun next =>
      (lineage.step session number operation).bind (fun nextLineage =>
        next.track nextLineage (number + 1) rest))

/-! ## Origins and calls -/

/-- The call that an origin stands for, after these calls in a run. -/
def Origin.call? (calls : List Call) : Origin → Option Call
  | .row index => some (.row index)
  | .made index => calls[index]?

/-- The generator has the origin that the call gave. -/
def Generator.Born (calls : List Call) (g : Generator V) (call : Call) : Prop :=
  g.origin.call? calls = some call

/-- Entries with the origins that the calls gave. -/
def Table.Born (calls : List Call) (table : Table V) (lines : List Call) : Prop :=
  List.Forall₂ (fun entry call => entry.generator.Born calls call) table.entries lines

/-- The lineage tells for every generator of the session what its origin tells, after these calls. -/
structure Follows (calls : List Call) (session : Session V) (lineage : Lineage) : Prop where
  made : session.made = calls.length
  catalogue : session.catalogue.Born calls lineage.catalogue
  table : session.table.Born calls lineage.table
  saved : session.saved.Born calls lineage.saved
  held : List.Forall₂ (fun held line => held.1 = line.1 ∧ held.2.Born calls line.2)
    session.held lineage.held

section Lists

variable {α : Type u} {β : Type} {R : α → β → Prop} {l : List α} {m : List β}

theorem forall₂_filter (p : α → Bool) (h : List.Forall₂ R l m) :
    List.Forall₂ R (l.filter p) (((l.zip m).filter (fun pair => p pair.1)).map (·.2)) := by
  induction h with
  | nil => exact .nil
  | @cons a b l m hR _ ih =>
    rw [List.zip_cons_cons, List.filter_cons, List.filter_cons]
    split
    · exact .cons hR ih
    · exact ih

theorem rel_find (p : α → Bool) (h : List.Forall₂ R l m) :
    Option.Rel R (l.find? p) (((l.zip m).find? (fun pair => p pair.1)).map (·.2)) := by
  induction h with
  | nil => exact .none
  | @cons a b l m hR _ ih =>
    rw [List.zip_cons_cons, List.find?_cons, List.find?_cons]
    dsimp only
    cases p a with
    | true => exact .some hR
    | false => exact ih

theorem rel_getElem (h : List.Forall₂ R l m) (i : Nat) : Option.Rel R l[i]? m[i]? := by
  induction h generalizing i with
  | nil => exact .none
  | cons hR _ ih =>
    cases i with
    | zero => exact .some hR
    | succ i => exact ih i

theorem rel_named {l : List (String × α)} {m : List (String × β)} (name : String)
    (h : List.Forall₂ (fun a b => a.1 = b.1 ∧ R a.2 b.2) l m) :
    Option.Rel R ((l.find? (fun pair => pair.1 == name)).map (·.2))
      ((m.find? (fun pair => pair.1 == name)).map (·.2)) := by
  induction h with
  | nil => exact .none
  | @cons a b l m hPair _ ih =>
    rw [List.find?_cons, List.find?_cons, hPair.1]
    cases b.1 == name with
    | true => exact .some hPair.2
    | false => exact ih

theorem rel_or {a a' : Option α} {b b' : Option β} (h : Option.Rel R a b) (h' : Option.Rel R a' b') :
    Option.Rel R (a.or a') (b.or b') := by
  cases h with
  | some hR => exact .some hR
  | none => exact h'

theorem exists_of_rel {a : α} {o : Option α} {o' : Option β} (h : Option.Rel R o o') (ho : o = some a) :
    ∃ b, o' = some b ∧ R a b := by
  subst ho
  cases h with
  | some hR => exact ⟨_, rfl, hR⟩

end Lists

section

variable {calls : List Call} {session session' : Session V} {lineage : Lineage}

/-! ## Tables -/

theorem Generator.Born.append {g : Generator V} {call : Call} (h : g.Born calls call)
    (more : List Call) : g.Born (calls ++ more) call := by
  unfold Born Origin.call? at h ⊢
  split at h
  · exact h
  · next index =>
    obtain ⟨hIndex, -⟩ := List.getElem?_eq_some_iff.1 h
    rw [List.getElem?_append_left hIndex]
    exact h

namespace Table

variable {table : Table V} {lines : List Call}

theorem Born.append (h : table.Born calls lines) (more : List Call) :
    table.Born (calls ++ more) lines :=
  List.Forall₂.imp (fun _ _ hBorn => hBorn.append more) h

theorem Born.found (h : table.Born calls lines) (spelling : String) :
    Option.Rel (fun entry call => entry.generator.Born calls call) (table.find? spelling)
      (Lineage.found? table lines spelling) := by
  rw [find?_eq_or, Lineage.found?, Option.map_or]
  exact rel_or (rel_find (fun entry => !entry.isAlias && entry.spelling == spelling) h)
    (rel_find (fun entry => entry.isAlias && entry.spelling == spelling) h)

theorem Born.selected (h : table.Born calls lines) (selection : Selection) :
    (⟨selection.entries table⟩ : Table V).Born calls (Lineage.selected selection table lines) := by
  cases selection with
  | reverse => exact List.rel_reverse h
  | places indices =>
    refine List.rel_filterMap (R := Eq) ?_ (List.forall₂_refl indices)
    rintro index _ rfl
    exact rel_getElem h index
  | _ => exact forall₂_filter _ h

theorem Born.push {entry : Entry V} {call : Call} (h : table.Born calls lines)
    (hEntry : entry.generator.Born calls call) : (table.push entry).Born calls (lines ++ [call]) :=
  List.rel_append h (.cons hEntry .nil)

theorem Born.extend {catalogue : Table V} {stock : List Call} (h : table.Born calls lines)
    (hStock : catalogue.Born calls stock) (spellings : List String) :
    (table.extend (spellings.filterMap catalogue.find?)).Born calls
      (lines ++ spellings.filterMap (Lineage.found? catalogue stock)) := by
  refine List.rel_append h (List.rel_filterMap (R := Eq) ?_ (List.forall₂_refl spellings))
  rintro spelling _ rfl
  exact hStock.found spelling

end Table

/-! ## Steps -/

namespace Follows

theorem unchanged (h : Follows calls session lineage) : Follows (calls ++ []) session lineage := by
  rwa [List.append_nil]

theorem held_line {name : String} {g : Generator V} (h : Follows calls session lineage)
    (hHeld : session.held? name = some g) :
    ∃ call, lineage.held? name = some call ∧ g.Born calls call :=
  exists_of_rel (rel_named name h.held) hHeld

theorem lookup_line (h : Follows calls session lineage) (spelling : String) (fromCatalogue : Bool) :
    Option.Rel (fun entry call => entry.generator.Born calls call)
      (session.lookup? spelling fromCatalogue) (lineage.lookup? session spelling fromCatalogue) := by
  unfold Session.lookup? Lineage.lookup?
  split
  · exact h.catalogue.found spelling
  · exact h.table.found spelling

theorem hold {name : String} {g : Generator V} {call : Call} (h : Follows calls session lineage)
    (hg : g.Born calls call) : Follows calls (session.hold name g) (lineage.hold name call) :=
  { h with held := .cons ⟨rfl, hg⟩ h.held }

/-- A new transform gets the number of the call that makes it. -/
theorem make (h : Follows calls session lineage) (recipe : Recipe V) (call : Call) :
    Follows (calls ++ [call]) (session.make recipe).2 lineage ∧
      (session.make recipe).1.Born (calls ++ [call]) call := by
  constructor
  · refine ⟨?_, h.catalogue.append _, h.table.append _, h.saved.append _, ?_⟩
    · rw [List.length_append, ← h.made]
      rfl
    · exact List.Forall₂.imp (fun _ _ hHeld => ⟨hHeld.1, hHeld.2.append _⟩) h.held
  · show (calls ++ [call])[session.made]? = some call
    rw [h.made, List.getElem?_concat_length]

theorem add {step number : Nat} {addition : Addition V} (h : Follows calls session lineage)
    (hAdd : session.add addition = some session') :
    ∃ next, lineage.add step number addition = some next ∧
      Follows (calls ++ Addition.calls step number [addition]) session' next := by
  simp only [Session.add, Option.bind_eq_bind, Option.bind_eq_some_iff] at hAdd
  obtain ⟨⟨g, between⟩, hSource, heq⟩ := hAdd
  cases heq
  unfold Lineage.add Addition.calls
  cases hOf : addition.source with
  | held name =>
    rw [hOf] at hSource
    obtain ⟨g', hHeld, heq⟩ := Option.map_eq_some_iff.1 hSource
    cases heq
    obtain ⟨call, hLine, hBorn⟩ := h.held_line hHeld
    exact ⟨_, Option.map_eq_some_iff.2 ⟨call, hLine, rfl⟩,
      Follows.unchanged { h with table := h.table.push hBorn }⟩
  | fresh recipe =>
    rw [hOf] at hSource
    cases hSource
    obtain ⟨hFollows, hBorn⟩ := h.make recipe (.made step number)
    exact ⟨_, rfl, { hFollows with table := hFollows.table.push hBorn }⟩

theorem extend {step : Nat} {additions : List (Addition V)} {number : Nat}
    (h : Follows calls session lineage) (hExtend : additions.foldlM Session.add session = some session') :
    ∃ next, lineage.extend step number additions = some next ∧
      Follows (calls ++ Addition.calls step number additions) session' next := by
  induction additions generalizing calls session lineage number with
  | nil =>
    cases hExtend
    exact ⟨lineage, rfl, h.unchanged⟩
  | cons addition rest ih =>
    obtain ⟨between, hAdd, hRest⟩ := Option.bind_eq_some_iff.1 hExtend
    obtain ⟨first, hFirst, hFollows⟩ := h.add hAdd
    obtain ⟨next, hNext, hFollows⟩ := ih hFollows hRest
    refine ⟨next, ?_, ?_⟩
    · rw [Lineage.extend, hFirst]
      exact hNext
    · rw [Addition.calls_cons, ← List.append_assoc]
      exact hFollows

/-- The lineage stays right in a step. -/
theorem step {number : Nat} {operation : Operation V} (h : Follows calls session lineage)
    (hStep : session.step operation = some session') :
    ∃ next, lineage.step session number operation = some next ∧
      Follows (calls ++ operation.calls number) session' next := by
  cases operation with
  | make name recipe =>
    cases hStep
    obtain ⟨hFollows, hBorn⟩ := h.make recipe (.made number 0)
    exact ⟨_, rfl, hFollows.hold hBorn⟩
  | duplicate name source =>
    obtain ⟨g, hHeld, rfl⟩ := Option.map_eq_some_iff.1 hStep
    obtain ⟨call, hLine, hBorn⟩ := h.held_line hHeld
    exact ⟨_, Option.map_eq_some_iff.2 ⟨call, hLine, rfl⟩, (h.hold hBorn).unchanged⟩
  | rekind name source kind =>
    simp only [Session.step, Option.bind_eq_bind, Option.bind_eq_some_iff] at hStep
    obtain ⟨g, hHeld, g', hKind, heq⟩ := hStep
    cases heq
    obtain ⟨call, hLine, hBorn⟩ := h.held_line hHeld
    have hBorn' : g'.Born calls call := by
      rwa [Generator.Born, (Generator.of_withKind hKind).2.1]
    exact ⟨_, Option.map_eq_some_iff.2 ⟨call, hLine, rfl⟩, (h.hold hBorn').unchanged⟩
  | take name spelling fromCatalogue =>
    have hRel := h.lookup_line spelling fromCatalogue
    unfold Lineage.step
    dsimp only [Session.step] at hStep ⊢
    revert hRel hStep
    generalize session.lookup? spelling fromCatalogue = found
    generalize lineage.lookup? session spelling fromCatalogue = line
    intro hStep hRel
    -- both look-ups find something, or neither does
    cases hRel with
    | none =>
      cases hStep
      exact ⟨_, rfl, h.unchanged⟩
    | some hBorn =>
      cases hStep
      exact ⟨_, rfl, (h.hold hBorn).unchanged⟩
  | add addition => exact h.add hStep
  | extend additions => exact h.extend hStep
  | extendFromCatalogue spellings =>
    cases hStep
    exact ⟨_, rfl, Follows.unchanged { h with table := h.table.extend h.catalogue spellings }⟩
  | keep selection =>
    cases hStep
    exact ⟨_, rfl, Follows.unchanged { h with table := h.table.selected selection }⟩
  | snapshot =>
    cases hStep
    exact ⟨_, rfl, Follows.unchanged { h with saved := h.table }⟩
  | restore =>
    cases hStep
    exact ⟨_, rfl, Follows.unchanged { h with table := h.saved }⟩

end Follows

/-! ## Runs -/

namespace Session

/-- A run with its lineage is a run. -/
theorem run_of_track {number : Nat} {operations : List (Operation V)} {lineage' : Lineage}
    (h : session.track lineage number operations = some (session', lineage')) :
    session.run operations = some session' := by
  induction operations generalizing session lineage number with
  | nil =>
    cases h
    rfl
  | cons operation rest ih =>
    obtain ⟨next, hStep, hLineage⟩ := Option.bind_eq_some_iff.1 h
    obtain ⟨line, -, hRest⟩ := Option.bind_eq_some_iff.1 hLineage
    exact Option.bind_eq_some_iff.2 ⟨next, hStep, ih hRest⟩

/-- Every run has a lineage, which stays right to its end. -/
theorem follows_of_run (number : Nat) {operations : List (Operation V)} (h : Follows calls session lineage)
    (hRun : session.run operations = some session') :
    ∃ lineage', session.track lineage number operations = some (session', lineage') ∧
      Follows (calls ++ Operation.callsFrom number operations) session' lineage' := by
  induction operations generalizing calls session lineage number with
  | nil =>
    cases hRun
    exact ⟨lineage, rfl, h.unchanged⟩
  | cons operation rest ih =>
    obtain ⟨next, hStep, hRest⟩ := Option.bind_eq_some_iff.1 hRun
    obtain ⟨line, hLine, hFollows⟩ := h.step hStep
    obtain ⟨lineage', hTrack, hFollows⟩ := ih (number + 1) hFollows hRest
    refine ⟨lineage', ?_, ?_⟩
    · rw [track, hStep, Option.bind_some, hLine, Option.bind_some]
      exact hTrack
    · rw [Operation.callsFrom, ← List.append_assoc]
      exact hFollows

end Session

end

/-! ## Places -/

/-- Where a session keeps a generator. -/
inductive Place where
  /-- Under a name. -/
  | held (name : String)
  /-- In this entry of the current table. -/
  | table (index : Nat)
  /-- In this entry of the saved table. -/
  | saved (index : Nat)
  /-- In this entry of the catalogue. -/
  | catalogue (index : Nat)

/-- The generator at the place. -/
def Session.at? (session : Session V) : Place → Option (Generator V)
  | .held name => session.held? name
  | .table index => session.table.entries[index]?.map (·.generator)
  | .saved index => session.saved.entries[index]?.map (·.generator)
  | .catalogue index => session.catalogue.entries[index]?.map (·.generator)

/-- The constructor call that the generator at the place descends from. -/
def Lineage.at? (lineage : Lineage) : Place → Option Call
  | .held name => lineage.held? name
  | .table index => lineage.table[index]?
  | .saved index => lineage.saved[index]?
  | .catalogue index => lineage.catalogue[index]?

theorem Table.Born.generator {calls lines : List Call} {table : Table V} (h : table.Born calls lines)
    (index : Nat) :
    Option.Rel (fun g call => g.Born calls call) (table.entries[index]?.map (·.generator)) lines[index]? := by
  rw [← List.getElem?_map]
  exact rel_getElem (List.forall₂_map_left_iff.2 h) index

theorem Follows.at? {calls : List Call} {session : Session V} {lineage : Lineage}
    (h : Follows calls session lineage) (place : Place) :
    Option.Rel (fun g call => g.Born calls call) (session.at? place) (lineage.at? place) := by
  cases place with
  | held name => exact rel_named name h.held
  | table index => exact h.table.generator index
  | saved index => exact h.saved.generator index
  | catalogue index => exact h.catalogue.generator index

end CompilerDriver
