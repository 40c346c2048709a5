import CompilerDriver.Proofs.Catalogue.Rows
import CompilerDriver.Proofs.Registry.Lineage
/-!
# Which generators of a session share a transform

`Session.sharesTransform_iff_descends`: two generators that a session ever has share their transform just if
they are of one kind and descend from one constructor call. So sharing is an equivalence on them, and
generators that share do the same. The calls are those of the lineage (`Lineage`), which reads no origin;
that they do the same comes from how generators are obtained (`Assembly`).
-/

namespace CompilerDriver

/-! ## Where sessions begin -/

/-- Where a construction is known by its number, its generator was made once and is copied otherwise. -/
theorem Catalogue.Numbered.obtained {constructions : List Catalogue.Construction}
    (h : Catalogue.Numbered constructions) : Obtained (constructions.map (·.generator)) := by
  induction constructions with
  | nil => exact .nothing
  | cons construction rest ih =>
    have hRest : Obtained (rest.map (·.generator)) := ih (h.mono (List.subset_cons_self _ _))
    by_cases hMade : construction ∈ rest
    · exact .copied hRest (List.mem_map_of_mem hMade)
    · refine .constructed _ _ hRest ?_
      intro g hg hOrigin
      obtain ⟨other, hOther, rfl⟩ := List.mem_map.1 hg
      have hSame : other = construction :=
        h other (List.mem_cons_of_mem _ hOther) construction List.mem_cons_self (Origin.row.inj hOrigin)
      exact hMade (hSame ▸ hOther)

/-- The constructor calls behind the driver's own options. The line of a copy has the call that it goes back to. -/
def driverCalls : List Call :=
  Catalogue.lines.map (fun line => .row line.construction.number)

/-- The generators of the driver's own options. -/
def driverGenerators : List (Generator Occurrence) :=
  (Catalogue.lines.map (·.construction)).map (·.generator)

theorem obtained_driverGenerators : Obtained driverGenerators :=
  Catalogue.numbered_lines.obtained

theorem born_driverOptions (calls : List Call) : driverOptions.Born calls driverCalls :=
  List.forall₂_map_left_iff.2 (List.forall₂_map_right_iff.2 (List.forall₂_same.2 fun _ _ => rfl))

theorem assembled_driverOptions : Assembled driverGenerators driverOptions := by
  apply assembled_iff.2
  intro e he
  obtain ⟨line, hLine, rfl⟩ := Catalogue.mem_tableOf.1 he
  exact List.mem_map_of_mem (List.mem_map_of_mem hLine)

/-- How sessions begin, with their lineages: with no entries anywhere, or beside the driver's own options,
then with an empty table or with a copy of them. -/
inductive Begins : {V : Type} → Session V → Lineage → Prop
  | bare {V : Type} : Begins (.start .empty .empty : Session V) ⟨[], [], [], []⟩
  | driver : Begins (.start driverOptions .empty) ⟨driverCalls, [], [], []⟩
  | driverCopy : Begins (.start driverOptions driverOptions) ⟨driverCalls, driverCalls, [], []⟩

variable {V : Type} {session : Session V} {lineage : Lineage}

theorem Begins.follows (h : Begins session lineage) : Follows [] session lineage := by
  cases h with
  | bare => exact ⟨rfl, .nil, .nil, .nil, .nil⟩
  | driver => exact ⟨rfl, born_driverOptions [], .nil, .nil, .nil⟩
  | driverCopy => exact ⟨rfl, born_driverOptions [], born_driverOptions [], .nil, .nil⟩

theorem Begins.traced (h : Begins session lineage) : ∃ pool, Session.Traced pool session := by
  have hPool := obtained_driverGenerators
  have hUnmade : ∀ g ∈ driverGenerators, ∀ n, g.origin = .made n → n < 0 := by
    intro g hg n hn
    obtain ⟨construction, -, rfl⟩ := List.mem_map.1 hg
    cases hn
  cases h with
  | bare => exact ⟨[], .nothing, .empty, .empty, .empty, by simp [Session.start], by simp⟩
  | driver =>
    exact ⟨_, hPool, assembled_driverOptions, .empty, .empty, by simp [Session.start], hUnmade⟩
  | driverCopy =>
    exact ⟨_, hPool, assembled_driverOptions, assembled_driverOptions, .empty, by simp [Session.start],
      hUnmade⟩

/-! ## The generators of a run -/

namespace Session

variable {operations : List (Operation V)} {a b g : Generator V} {c d call : Call}

/-- The session has the generator at some place after some beginning of the run. -/
def Arises (session : Session V) (operations : List (Operation V)) (g : Generator V) : Prop :=
  ∃ before, before <+: operations ∧
    ∃ reached place, session.run before = some reached ∧ reached.at? place = some g

/-- At some place after some beginning of the run there is the generator, and the lineage has the call. -/
def Descends (session : Session V) (lineage : Lineage) (operations : List (Operation V)) (g : Generator V)
    (call : Call) : Prop :=
  ∃ before, before <+: operations ∧ ∃ reached line place,
    session.track lineage 0 before = some (reached, line) ∧
      reached.at? place = some g ∧ line.at? place = some call

theorem arises_iff (h : Begins session lineage) :
    session.Arises operations g ↔ ∃ call, session.Descends lineage operations g call := by
  constructor
  · rintro ⟨before, hBefore, reached, place, hRun, hPlace⟩
    obtain ⟨line, hTrack, hFollows⟩ := follows_of_run 0 h.follows hRun
    obtain ⟨call, hCall, -⟩ := exists_of_rel (hFollows.at? place) hPlace
    exact ⟨call, before, hBefore, reached, line, place, hTrack, hPlace, hCall⟩
  · rintro ⟨call, before, hBefore, reached, line, place, hTrack, hPlace, -⟩
    exact ⟨before, hBefore, reached, place, run_of_track hTrack, hPlace⟩

/-- What a generator descends from is what its origin tells at the end of the run. -/
theorem Descends.born (h : Begins session lineage) (hDescends : session.Descends lineage operations g call) :
    g.Born (Operation.callsFrom 0 operations) call := by
  obtain ⟨before, hBefore, reached, line, place, hTrack, hPlace, hCall⟩ := hDescends
  obtain ⟨line', hTrack', hFollows⟩ := follows_of_run 0 h.follows (run_of_track hTrack)
  cases hTrack.symm.trans hTrack'
  obtain ⟨call', hCall', hBorn⟩ := exists_of_rel (hFollows.at? place) hPlace
  cases hCall.symm.trans hCall'
  obtain ⟨more, hMore⟩ := Operation.callsFrom_prefix 0 hBefore
  rw [← hMore]
  exact hBorn.append more

/-- In a run no two origins tell the same call. -/
theorem origin_eq_of_call {o o' : Origin} (h : o.call? (Operation.callsFrom 0 operations) = some call)
    (h' : o'.call? (Operation.callsFrom 0 operations) = some call) : o = o' := by
  -- the calls of the run are none of the catalogue's
  have hMade : ∀ i, Call.row i ∉ Operation.callsFrom 0 operations := by
    intro i hi
    obtain ⟨step, j, -, heq⟩ := Operation.of_mem_callsFrom hi
    cases heq
  cases o with
  | row i =>
    cases h
    cases o' with
    | row j =>
      cases h'
      rfl
    | made n => exact absurd (List.mem_of_getElem? h') (hMade i)
  | made n =>
    cases o' with
    | row j =>
      cases h'
      exact absurd (List.mem_of_getElem? h) (hMade j)
    | made m =>
      obtain ⟨hn, -⟩ := List.getElem?_eq_some_iff.1 h
      rw [(List.getElem?_inj hn (Operation.nodup_callsFrom 0 operations)).1 (h.trans h'.symm)]

/-- Origins are the same just if the calls are. -/
theorem Descends.origin_eq_iff (h : Begins session lineage)
    (ha : session.Descends lineage operations a c) (hb : session.Descends lineage operations b d) :
    a.origin = b.origin ↔ c = d := by
  have hc := ha.born h
  have hd := hb.born h
  constructor
  · intro hOrigin
    rw [Generator.Born, hOrigin, hd] at hc
    cases hc
    rfl
  · rintro rfl
    exact origin_eq_of_call hc hd

theorem Traced.at_mem {pool : List (Generator V)} {place : Place} (h : Traced pool session)
    (hPlace : session.at? place = some g) : g ∈ pool := by
  have hEntries : ∀ {table : Table V} {index : Nat}, Assembled pool table →
      table.entries[index]?.map (·.generator) = some g → g ∈ pool := by
    intro table index hTable hIndex
    obtain ⟨e, he, rfl⟩ := Option.map_eq_some_iff.1 hIndex
    exact assembled_iff.1 hTable e (List.mem_of_getElem? he)
  cases place with
  | held name => exact h.held_mem hPlace
  | table index => exact hEntries h.table hPlace
  | saved index => exact hEntries h.saved hPlace
  | catalogue index => exact hEntries h.catalogue hPlace

/-- What arises in a longer beginning of a run comes about after what arises in a shorter one. -/
theorem exists_pool_of_prefix {before rest : List (Operation V)} {reached reached' : Session V}
    {place place' : Place} (h : Begins session lineage) (hRun : session.run before = some reached)
    (hRest : session.run (before ++ rest) = some reached') (ha : reached.at? place = some a)
    (hb : reached'.at? place' = some b) : ∃ pool, Obtained pool ∧ a ∈ pool ∧ b ∈ pool := by
  obtain ⟨start, hStart⟩ := h.traced
  obtain ⟨pool, -, hTraced⟩ := hStart.foldlM Traced.step hRun
  have hLater : reached.run rest = some reached' := by
    rwa [run, List.foldlM_append, ← run, hRun] at hRest
  obtain ⟨pool', hMore, hTraced'⟩ := hTraced.foldlM Traced.step hLater
  exact ⟨pool', hTraced'.obtained, hMore (hTraced.at_mem ha), hTraced'.at_mem hb⟩

theorem Arises.exists_pool (h : Begins session lineage) (ha : session.Arises operations a)
    (hb : session.Arises operations b) : ∃ pool, Obtained pool ∧ a ∈ pool ∧ b ∈ pool := by
  obtain ⟨before, hBefore, reached, place, hRun, hPlace⟩ := ha
  obtain ⟨before', hBefore', reached', place', hRun', hPlace'⟩ := hb
  rcases List.prefix_or_prefix_of_prefix hBefore hBefore' with ⟨rest, rfl⟩ | ⟨rest, rfl⟩
  · exact exists_pool_of_prefix h hRun hRun' hPlace hPlace'
  · obtain ⟨pool, hPool, hb, ha⟩ := exists_pool_of_prefix h hRun' hRun hPlace' hPlace
    exact ⟨pool, hPool, ha, hb⟩

/-- Over a whole run, the generators that arise are those that descend from a constructor call; two of them
share their transform just if the call and the kind are the same. So sharing is an equivalence on them, and
generators that share give the same results and the same errors. -/
theorem sharesTransform_iff_descends (hBegins : Begins session lineage) (operations : List (Operation V)) :
    (∀ g, session.Arises operations g ↔ ∃ call, session.Descends lineage operations g call) ∧
    (∀ a b c d, session.Descends lineage operations a c → session.Descends lineage operations b d →
      (a.sharesTransform b = true ↔ c = d ∧ a.kind = b.kind)) ∧
    Equivalence (fun a b : { g // session.Arises operations g } => a.1.sharesTransform b.1 = true) ∧
    ∀ a b, session.Arises operations a → session.Arises operations b → a.sharesTransform b = true →
      (∀ material, a.generate material = b.generate material) ∧
        ∀ token, a.generateFromCommas token = b.generateFromCommas token := by
  refine ⟨fun _ => arises_iff hBegins, ?_, ⟨?_, ?_, ?_⟩, ?_⟩
  · intro a b c d ha hb
    rw [Generator.sharesTransform_iff, Descends.origin_eq_iff hBegins ha hb, and_comm]
  · intro a
    exact Generator.sharesTransform_iff.2 ⟨rfl, rfl⟩
  · intro a b hab
    obtain ⟨hKind, hOrigin⟩ := Generator.sharesTransform_iff.1 hab
    exact Generator.sharesTransform_iff.2 ⟨hKind.symm, hOrigin.symm⟩
  · intro a b c hab hbc
    obtain ⟨hKind, hOrigin⟩ := Generator.sharesTransform_iff.1 hab
    obtain ⟨hKind', hOrigin'⟩ := Generator.sharesTransform_iff.1 hbc
    exact Generator.sharesTransform_iff.2 ⟨hKind.trans hKind', hOrigin.trans hOrigin'⟩
  · intro a b ha hb hShares
    obtain ⟨pool, hPool, ha, hb⟩ := Arises.exists_pool hBegins ha hb
    exact hPool.generate_eq ha hb hShares

/-! ## A run of four steps -/

namespace Sample

def lines : Lineage :=
  ⟨driverCalls, [], [], []⟩

def steps : List (Operation Occurrence) :=
  [.take "input" "<input>" true, .rekind "joined" "input" .joined,
    .make "again" (Recipe.naming .input "<input>"), .duplicate "copy" "joined"]

def input : Generator Occurrence :=
  (Recipe.naming .input "<input>").make (.row 0)

/-- The transform of `input` under the kind of a suffix. -/
def joined : Generator Occurrence :=
  { kind := .joined, transform := input.transform, origin := .row 0 }

/-- A generator like `input`, made a second time. -/
def again : Generator Occurrence :=
  (Recipe.naming .input "<input>").make (.made 0)

end Sample

theorem sharesTransform_sample :
    Begins (start driverOptions .empty) Sample.lines ∧
      (start driverOptions .empty).Descends Sample.lines Sample.steps Sample.input (.row 0) ∧
      (start driverOptions .empty).Descends Sample.lines Sample.steps Sample.joined (.row 0) ∧
      (start driverOptions .empty).Descends Sample.lines Sample.steps Sample.again (.made 2 0) ∧
      Sample.joined.sharesTransform Sample.joined = true ∧
      Sample.joined.sharesTransform Sample.input ≠ true ∧
      Sample.again.sharesTransform Sample.input ≠ true := by
  have hInput : (start driverOptions .empty).Descends Sample.lines Sample.steps Sample.input (.row 0) :=
    ⟨_, List.prefix_rfl, _, _, .held "input", rfl, rfl, rfl⟩
  have hJoined : (start driverOptions .empty).Descends Sample.lines Sample.steps Sample.joined (.row 0) :=
    ⟨_, List.prefix_rfl, _, _, .held "copy", rfl, rfl, rfl⟩
  have hAgain : (start driverOptions .empty).Descends Sample.lines Sample.steps Sample.again (.made 2 0) :=
    ⟨_, List.prefix_rfl, _, _, .held "again", rfl, rfl, rfl⟩
  obtain ⟨-, hShares, -⟩ := sharesTransform_iff_descends .driver Sample.steps
  refine ⟨.driver, hInput, hJoined, hAgain, ?_, ?_, ?_⟩
  · exact (hShares _ _ _ _ hJoined hJoined).2 ⟨rfl, rfl⟩
  · intro h
    cases ((hShares _ _ _ _ hJoined hInput).1 h).2
  · intro h
    cases ((hShares _ _ _ _ hAgain hInput).1 h).1

end Session

end CompilerDriver
