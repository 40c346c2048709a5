import CompilerDriver.Registry.Session
/-!
# How generators and tables come about

A generator is constructed, copied from another one, or given the transform of another one under a
further kind. `Obtained pool` says that the generators of the pool came about in some sequence of such
acts. `Assembled pool table` says that some sequence of registrations made the table, with generators of
the pool only.

`Obtained.action_eq`: generators of one origin do the same with their content, however they were passed
on. `Session.traced_of_run`: whatever a session holds and registers comes about in these ways.
-/

namespace CompilerDriver

universe u

variable {V : Type u}

/-- The generators obtained so far, latest first. A constructor gives its transform an origin that no
generator had before. -/
inductive Obtained : List (Generator V) → Prop
  | nothing : Obtained []
  | constructed {pool : List (Generator V)} (recipe : Recipe V) (origin : Origin) :
      Obtained pool → (∀ g ∈ pool, g.origin ≠ origin) → Obtained (recipe.make origin :: pool)
  | copied {pool : List (Generator V)} {g : Generator V} :
      Obtained pool → g ∈ pool → Obtained (g :: pool)
  | rekinded {pool : List (Generator V)} {g g' : Generator V} (kind : Kind) :
      Obtained pool → g ∈ pool → g.withKind? kind = some g' → Obtained (g' :: pool)

/-- The tables that registrations make out of generators of the pool. -/
inductive Assembled (pool : List (Generator V)) : Table V → Prop
  | empty : Assembled pool .empty
  | addOption {table : Table V} {g : Generator V} (spelling : String) (isHidden : Bool)
      (metaVariable helpText : Option String) :
      Assembled pool table → g ∈ pool →
      Assembled pool (table.addOption spelling g isHidden metaVariable helpText)
  | addAlias {table : Table V} {g : Generator V} (spelling : String) (isHidden : Bool) :
      Assembled pool table → g ∈ pool → Assembled pool (table.addAlias spelling g isHidden)
  | extend {table : Table V} (more : List (Entry V)) :
      Assembled pool table → (∀ e ∈ more, e.generator ∈ pool) → Assembled pool (table.extend more)
  | collect (entries : List (Entry V)) :
      (∀ e ∈ entries, e.generator ∈ pool) → Assembled pool ⟨entries⟩

/-! ## What a generator does -/

namespace Generator

/-- The transform together with the shape of its content, which is all that a further kind keeps. -/
def action (g : Generator V) : (shape : Shape) × (shape.Content → V) :=
  ⟨g.kind.shape, g.transform⟩

theorem action_cast {shape shape' : Shape} (same : shape = shape') (f : shape'.Content → V) :
    (⟨shape, fun content => f (same ▸ content)⟩ : (shape : Shape) × (shape.Content → V)) =
      ⟨shape', f⟩ := by
  subst same
  rfl

/-- A further kind keeps the transform and its origin. -/
theorem of_withKind {g g' : Generator V} {kind : Kind} (h : g.withKind? kind = some g') :
    g'.kind = kind ∧ g'.origin = g.origin ∧ g'.action = g.action := by
  unfold withKind? at h
  split at h
  · next same =>
    cases h
    exact ⟨rfl, rfl, action_cast same g.transform⟩
  · cases h

/-- Generators of one kind that do the same give the same results and the same errors. -/
theorem generate_congr {a b : Generator V} (hKind : a.kind = b.kind) (hAction : a.action = b.action) :
    (∀ material, a.generate material = b.generate material) ∧
      ∀ token, a.generateFromCommas token = b.generateFromCommas token := by
  obtain ⟨kind, f, origin⟩ := a
  obtain ⟨kind', f', origin'⟩ := b
  cases hKind
  simp only [action, Sigma.mk.injEq, heq_eq_eq, true_and] at hAction
  subst hAction
  -- Only the origins still differ, and neither function reads an origin.
  constructor
  · intro material
    unfold generate
    dsimp only
    split <;> rfl
  · intro token
    cases kind <;> rfl

theorem sharesTransform_iff {a b : Generator V} :
    a.sharesTransform b = true ↔ a.kind = b.kind ∧ a.origin = b.origin := by
  simp [sharesTransform]

end Generator

/-! ## Pools -/

/-- Generators of one origin do the same. -/
theorem Obtained.action_eq {pool : List (Generator V)} (h : Obtained pool) :
    ∀ a ∈ pool, ∀ b ∈ pool, a.origin = b.origin → a.action = b.action := by
  induction h with
  | nothing => simp
  | constructed recipe origin _ hFresh ih =>
    intro a ha b hb hOrigin
    rcases List.mem_cons.1 ha with rfl | ha <;> rcases List.mem_cons.1 hb with rfl | hb
    · rfl
    · exact absurd hOrigin.symm (hFresh b hb)
    · exact absurd hOrigin (hFresh a ha)
    · exact ih a ha b hb hOrigin
  | @copied pool g _ hg ih =>
    have hOld : ∀ x ∈ g :: pool, x ∈ pool := by
      intro x hx
      rcases List.mem_cons.1 hx with rfl | hx
      · exact hg
      · exact hx
    intro a ha b hb hOrigin
    exact ih a (hOld a ha) b (hOld b hb) hOrigin
  | @rekinded pool g g' kind _ hg hKind ih =>
    obtain ⟨-, hSame, hAction⟩ := Generator.of_withKind hKind
    -- The new generator stands for the one whose transform it has.
    have hOld : ∀ x ∈ g' :: pool, ∃ y ∈ pool, y.origin = x.origin ∧ y.action = x.action := by
      intro x hx
      rcases List.mem_cons.1 hx with rfl | hx
      · exact ⟨g, hg, hSame.symm, hAction.symm⟩
      · exact ⟨x, hx, rfl, rfl⟩
    intro a ha b hb hOrigin
    obtain ⟨a', ha', haOrigin, haAction⟩ := hOld a ha
    obtain ⟨b', hb', hbOrigin, hbAction⟩ := hOld b hb
    rw [← haAction, ← hbAction]
    exact ih a' ha' b' hb' (haOrigin.trans (hOrigin.trans hbOrigin.symm))

/-- Two generators that share a transform are alike in all that they do. -/
theorem Obtained.generate_eq {pool : List (Generator V)} (h : Obtained pool) {a b : Generator V}
    (ha : a ∈ pool) (hb : b ∈ pool) (hShares : a.sharesTransform b = true) :
    (∀ material, a.generate material = b.generate material) ∧
      ∀ token, a.generateFromCommas token = b.generateFromCommas token := by
  obtain ⟨hKind, hOrigin⟩ := Generator.sharesTransform_iff.1 hShares
  exact Generator.generate_congr hKind (h.action_eq a ha b hb hOrigin)

theorem Table.mem_push {table : Table V} {entry e : Entry V} :
    e ∈ (table.push entry).entries ↔ e ∈ table.entries ∨ e = entry := by
  simp [push]

theorem Table.generator_mem_push {pool : List (Generator V)} {table : Table V} {entry : Entry V}
    (hTable : ∀ e ∈ table.entries, e.generator ∈ pool) (hEntry : entry.generator ∈ pool) :
    ∀ e ∈ (table.push entry).entries, e.generator ∈ pool := by
  intro e he
  rcases mem_push.1 he with he | rfl
  · exact hTable e he
  · exact hEntry

/-- Registrations make just the tables whose generators are in the pool. -/
theorem assembled_iff {pool : List (Generator V)} {table : Table V} :
    Assembled pool table ↔ ∀ e ∈ table.entries, e.generator ∈ pool := by
  constructor
  · intro h
    induction h with
    | empty => simp [Table.empty]
    | addOption _ _ _ _ _ hg ih => exact Table.generator_mem_push ih hg
    | addAlias _ _ _ hg ih => exact Table.generator_mem_push ih hg
    | extend more _ hMore ih =>
      intro e he
      rcases List.mem_append.1 he with he | he
      · exact ih e he
      · exact hMore e he
    | collect _ hEntries => exact hEntries
  · intro h
    exact .collect table.entries h

theorem Assembled.mono {pool pool' : List (Generator V)} {table : Table V} (h : Assembled pool table)
    (hPool : pool ⊆ pool') : Assembled pool' table :=
  assembled_iff.2 (fun e he => hPool (assembled_iff.1 h e he))

/-! ## Sessions -/

theorem Table.mem_of_find {table : Table V} {spelling : String} {entry : Entry V}
    (h : table.find? spelling = some entry) : entry ∈ table.entries := by
  unfold find? at h
  dsimp only at h
  split at h
  · next hFound =>
    cases h
    exact (List.mem_filter.1 (List.mem_of_find?_eq_some hFound)).1
  · exact (List.mem_filter.1 (List.mem_of_find?_eq_some h)).1

namespace Session

/-- All that the session holds comes from the pool, and the pool has no number that is still to be given
to a transform. -/
structure Traced (pool : List (Generator V)) (session : Session V) : Prop where
  obtained : Obtained pool
  catalogue : Assembled pool session.catalogue
  table : Assembled pool session.table
  saved : Assembled pool session.saved
  held : ∀ pair ∈ session.held, pair.2 ∈ pool
  numbered : ∀ g ∈ pool, ∀ n, g.origin = .made n → n < session.made

/-- A later state of a session, with the pool it has then. -/
def TracedFrom (pool : List (Generator V)) (session : Session V) : Prop :=
  ∃ pool', pool ⊆ pool' ∧ Traced pool' session

variable {pool : List (Generator V)} {session session' : Session V}

theorem Traced.hold {name : String} {g : Generator V} (h : Traced pool session) (hg : g ∈ pool) :
    Traced pool (session.hold name g) := by
  refine { h with held := ?_ }
  intro pair hPair
  rcases List.mem_cons.1 hPair with rfl | hPair
  · exact hg
  · exact h.held pair hPair

theorem Traced.make (h : Traced pool session) (recipe : Recipe V) :
    Traced ((session.make recipe).1 :: pool) (session.make recipe).2 := by
  have hMore : pool ⊆ (session.make recipe).1 :: pool := List.subset_cons_self _ _
  refine ⟨.constructed recipe _ h.obtained ?_, h.catalogue.mono hMore, h.table.mono hMore,
    h.saved.mono hMore, fun pair hPair => hMore (h.held pair hPair), ?_⟩
  · -- The number it gets is the next one, which no generator of the pool has.
    intro g hg hOrigin
    exact absurd (h.numbered g hg _ hOrigin) (Nat.lt_irrefl _)
  · intro g hg n hn
    rcases List.mem_cons.1 hg with rfl | hg
    · cases hn
      exact Nat.lt_succ_self _
    · exact Nat.lt_succ_of_lt (h.numbered g hg n hn)

theorem Traced.rekind {g g' : Generator V} {kind : Kind} (h : Traced pool session) (hg : g ∈ pool)
    (hKind : g.withKind? kind = some g') : Traced (g' :: pool) session := by
  have hMore : pool ⊆ g' :: pool := List.subset_cons_self _ _
  refine ⟨.rekinded kind h.obtained hg hKind, h.catalogue.mono hMore, h.table.mono hMore,
    h.saved.mono hMore, fun pair hPair => hMore (h.held pair hPair), ?_⟩
  intro x hx n hn
  rcases List.mem_cons.1 hx with rfl | hx
  · exact h.numbered g hg n ((Generator.of_withKind hKind).2.1.symm.trans hn)
  · exact h.numbered x hx n hn

theorem Traced.held_mem {name : String} {g : Generator V} (h : Traced pool session)
    (hg : session.held? name = some g) : g ∈ pool := by
  obtain ⟨pair, hFound, rfl⟩ := Option.map_eq_some_iff.1 hg
  exact h.held pair (List.mem_of_find?_eq_some hFound)

theorem Traced.lookup_mem {spelling : String} {fromCatalogue : Bool} {entry : Entry V}
    (h : Traced pool session) (hFound : session.lookup? spelling fromCatalogue = some entry) :
    entry.generator ∈ pool := by
  unfold lookup? at hFound
  split at hFound
  · exact assembled_iff.1 h.catalogue entry (Table.mem_of_find hFound)
  · exact assembled_iff.1 h.table entry (Table.mem_of_find hFound)

theorem Traced.resolve {source : Source V} {g : Generator V} (h : Traced pool session)
    (hSource : session.resolve source = some (g, session')) :
    ∃ pool', pool ⊆ pool' ∧ Traced pool' session' ∧ g ∈ pool' := by
  cases source with
  | held name =>
    obtain ⟨g', hHeld, heq⟩ := Option.map_eq_some_iff.1 hSource
    cases heq
    exact ⟨pool, List.Subset.refl _, h, h.held_mem hHeld⟩
  | fresh recipe =>
    cases hSource
    exact ⟨_, List.subset_cons_self _ _, h.make recipe, List.mem_cons_self⟩

theorem Traced.add {addition : Addition V} (h : Traced pool session)
    (hAdd : session.add addition = some session') : TracedFrom pool session' := by
  simp only [Session.add, Option.bind_eq_bind, Option.bind_eq_some_iff] at hAdd
  obtain ⟨⟨g, between⟩, hSource, heq⟩ := hAdd
  cases heq
  obtain ⟨pool', hMore, hTraced, hg⟩ := h.resolve hSource
  refine ⟨pool', hMore, { hTraced with table := ?_ }⟩
  exact assembled_iff.2 (Table.generator_mem_push (assembled_iff.1 hTraced.table) hg)

theorem TracedFrom.trans {pool' : List (Generator V)} (hMore : pool ⊆ pool')
    (h : TracedFrom pool' session) : TracedFrom pool session := by
  obtain ⟨pool'', hMore', hTraced⟩ := h
  exact ⟨pool'', List.Subset.trans hMore hMore', hTraced⟩

/-- What each of some moves keeps, a sequence of them keeps. -/
theorem Traced.foldlM {α : Type u} {move : Session V → α → Option (Session V)}
    (hMove : ∀ {pool session session' a}, Traced pool session → move session a = some session' →
      TracedFrom pool session')
    {moves : List α} (h : Traced pool session) (hRun : moves.foldlM move session = some session') :
    TracedFrom pool session' := by
  induction moves generalizing pool session with
  | nil =>
    cases hRun
    exact ⟨pool, List.Subset.refl _, h⟩
  | cons a moves ih =>
    obtain ⟨between, hFirst, hRest⟩ := Option.bind_eq_some_iff.1 hRun
    obtain ⟨pool', hMore, hTraced⟩ := hMove h hFirst
    exact (ih hTraced hRest).trans hMore

theorem Traced.mem_selection {selection : Selection} {table : Table V} {entry : Entry V}
    (h : Assembled pool table) (hEntry : entry ∈ selection.entries table) : entry.generator ∈ pool := by
  apply assembled_iff.1 h
  cases selection with
  | reverse => exact List.mem_reverse.1 hEntry
  | places indices =>
    obtain ⟨index, -, hPlace⟩ := List.mem_filterMap.1 hEntry
    exact List.mem_of_getElem? hPlace
  | _ => exact (List.mem_filter.1 hEntry).1

/-- A step takes no generator from anywhere but the pool, and makes new ones as a constructor does. -/
theorem Traced.step {operation : Operation V} (h : Traced pool session)
    (hStep : session.step operation = some session') : TracedFrom pool session' := by
  cases operation with
  | make name recipe =>
    cases hStep
    exact ⟨_, List.subset_cons_self _ _, (h.make recipe).hold List.mem_cons_self⟩
  | duplicate name source =>
    obtain ⟨g, hHeld, rfl⟩ := Option.map_eq_some_iff.1 hStep
    exact ⟨pool, List.Subset.refl _, h.hold (h.held_mem hHeld)⟩
  | rekind name source kind =>
    simp only [Session.step, Option.bind_eq_bind, Option.bind_eq_some_iff] at hStep
    obtain ⟨g, hHeld, g', hKind, heq⟩ := hStep
    cases heq
    exact ⟨_, List.subset_cons_self _ _, (h.rekind (h.held_mem hHeld) hKind).hold List.mem_cons_self⟩
  | take name spelling fromCatalogue =>
    simp only [Session.step] at hStep
    split at hStep
    · next entry hFound =>
      cases hStep
      exact ⟨pool, List.Subset.refl _, h.hold (h.lookup_mem hFound)⟩
    · -- Nothing is found, and the session stays as it is.
      cases hStep
      exact ⟨pool, List.Subset.refl _, h⟩
  | add addition => exact h.add hStep
  | extend additions => exact h.foldlM Traced.add hStep
  | extendFromCatalogue spellings =>
    cases hStep
    refine ⟨pool, List.Subset.refl _, { h with table := .extend _ h.table ?_ }⟩
    -- Spellings that the catalogue does not know add nothing.
    intro e he
    obtain ⟨spelling, -, hFound⟩ := List.mem_filterMap.1 he
    exact assembled_iff.1 h.catalogue e (Table.mem_of_find hFound)
  | keep selection =>
    cases hStep
    exact ⟨pool, List.Subset.refl _,
      { h with table := .collect _ (fun _ he => Traced.mem_selection h.table he) }⟩
  | snapshot =>
    cases hStep
    exact ⟨pool, List.Subset.refl _, { h with saved := h.table }⟩
  | restore =>
    cases hStep
    exact ⟨pool, List.Subset.refl _, { h with table := h.saved }⟩

/-- A session that starts from assembled tables only ever has assembled ones. -/
theorem traced_of_run {catalogue table : Table V} {operations : List (Operation V)}
    (hPool : Obtained pool) (hCatalogue : Assembled pool catalogue) (hTable : Assembled pool table)
    (hUnmade : ∀ g ∈ pool, ∀ n, g.origin ≠ .made n)
    (hRun : (start catalogue table).run operations = some session) : TracedFrom pool session := by
  have hStart : Traced pool (start catalogue table) :=
    ⟨hPool, hCatalogue, hTable, .empty, by simp [start], fun g hg n hn => absurd hn (hUnmade g hg n)⟩
  exact hStart.foldlM Traced.step hRun

end Session

end CompilerDriver
