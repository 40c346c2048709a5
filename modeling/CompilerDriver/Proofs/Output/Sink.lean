import CompilerDriver.Output.Sink
/-!
# What a sink takes

A sink takes the front of the bytes that it is offered, as far as it has room, however small the pieces are that
it takes at a time (`writeAll_spec`). Writing fails just if there is no room for all of them. What happens at a
sink is a run of writes and flushes. Delivering a text is a run of writes, with one flush behind them just if the
whole text was written (`exists_run_deliver`).
-/

namespace CompilerDriver.Output.Sink

variable {sink : Sink} {bytes : List UInt8}

/-- How many of so many bytes the sink has room for. -/
def capacity (sink : Sink) (count : Nat) : Nat :=
  match sink.room with
  | some room => min room count
  | none => count

theorem capacity_le (sink : Sink) (count : Nat) : sink.capacity count ≤ count := by
  unfold capacity
  split <;> omega

theorem capacity_of_room_eq_none (h : sink.room = none) (count : Nat) : sink.capacity count = count := by
  rw [capacity, h]

theorem accepts_eq (sink : Sink) (count : Nat) : sink.accepts count =
    match sink.pieces with
    | [] => sink.capacity count
    | piece :: _ => min (piece + 1) (sink.capacity count) :=
  rfl

theorem accepts_le_capacity (sink : Sink) (count : Nat) : sink.accepts count ≤ sink.capacity count := by
  rw [accepts_eq]
  split <;> omega

/-- A write takes nothing only where there is room for nothing. -/
theorem capacity_eq_zero_of_accepts {count : Nat} (h : sink.accepts count = 0) : sink.capacity count = 0 := by
  rw [accepts_eq] at h
  split at h <;> omega

theorem capacity_take (sink : Sink) (bytes : List UInt8) (count : Nat) :
    (sink.take bytes).capacity (count - bytes.length) = sink.capacity count - bytes.length := by
  unfold capacity take
  cases sink.room with
  | none => rfl
  | some room =>
    simp only [Option.map_some]
    omega

/-- The sink takes the bytes that it has room for, each once and in order, and is not flushed. -/
theorem writeAll_spec (sink : Sink) (bytes : List UInt8) :
    (sink.writeAll bytes).1.taken = sink.taken ++ bytes.take (sink.capacity bytes.length) ∧
      (sink.writeAll bytes).1.flushes = sink.flushes ∧
      (sink.writeAll bytes).2 =
        if sink.capacity bytes.length = bytes.length then none else some .incomplete := by
  fun_induction writeAll sink bytes with
  | case1 sink =>
    have hNone : sink.capacity 0 = 0 := Nat.le_zero.1 (sink.capacity_le 0)
    simp [hNone]
  | case2 sink bytes hBytes count hProgress hLess ih =>
    have hCount : count ≤ sink.capacity bytes.length := sink.accepts_le_capacity bytes.length
    have hFits := sink.capacity_le bytes.length
    have hTaken : (bytes.take count).length = count := by
      rw [List.length_take]
      omega
    have hRest : (sink.take (bytes.take count)).capacity (bytes.drop count).length =
        sink.capacity bytes.length - count := by
      have h := sink.capacity_take (bytes.take count) bytes.length
      rwa [hTaken, ← List.length_drop] at h
    rw [hRest, List.length_drop] at ih
    obtain ⟨ihTaken, ihFlushes, ihError⟩ := ih
    refine ⟨?_, ihFlushes, ?_⟩
    · have hSplit : bytes.take (sink.capacity bytes.length) =
          bytes.take count ++ (bytes.drop count).take (sink.capacity bytes.length - count) := by
        rw [← List.take_add, Nat.add_sub_cancel' hCount]
      rw [ihTaken, hSplit, ← List.append_assoc]
      rfl
    · have hAll : sink.capacity bytes.length - count = bytes.length - count ↔
          sink.capacity bytes.length = bytes.length := by
        omega
      rw [ihError]
      simp only [hAll]
  | case3 sink bytes hBytes count hStuck =>
    have hLength : 0 < bytes.length := List.length_pos_iff.2 hBytes
    have hRoom : sink.capacity bytes.length = 0 :=
      capacity_eq_zero_of_accepts (Nat.eq_zero_of_not_pos fun hCount => hStuck ⟨hCount, hLength⟩)
    rw [hRoom, List.take_zero, List.append_nil, if_neg (Nat.ne_of_lt hLength)]
    exact ⟨rfl, rfl, rfl⟩

/-! ## Runs -/

/-- What happens at a sink. -/
inductive Event where
  | written (bytes : List UInt8)
  | flushed

/-- The bytes that an event brings. -/
def Event.content : Event → List UInt8
  | written bytes => bytes
  | flushed => []

/-- Whether the event is a flush. -/
def Event.isFlush : Event → Bool
  | written _ => false
  | flushed => true

/-- A run from the sink: the events, and the sink after them. A write brings some bytes, as many as the sink then
takes at once. -/
inductive Run : Sink → List Event → Sink → Prop
  | nil {sink : Sink} : Run sink [] sink
  | written {sink final : Sink} {bytes : List UInt8} {events : List Event} (hSome : bytes ≠ [])
      (hAccepts : sink.accepts bytes.length = bytes.length) (rest : Run (sink.take bytes) events final) :
      Run sink (.written bytes :: events) final
  | flushed {sink final : Sink} {events : List Event} (rest : Run sink.flush events final) :
      Run sink (.flushed :: events) final

variable {middle final : Sink} {events more : List Event}

theorem Run.append (h : Run sink events middle) (h' : Run middle more final) :
    Run sink (events ++ more) final := by
  induction h with
  | nil => exact h'
  | written hSome hAccepts _ ih => exact .written hSome hAccepts (ih h')
  | flushed _ ih => exact .flushed (ih h')

/-- The sink has taken the bytes of the writes in their order, and counts the flushes. -/
theorem Run.taken_and_flushes (h : Run sink events final) :
    final.taken = sink.taken ++ events.flatMap Event.content ∧
      final.flushes = sink.flushes + events.countP Event.isFlush := by
  induction h with
  | nil => simp
  | @written sink final bytes events _ _ _ ih =>
    obtain ⟨hTaken, hFlushes⟩ := ih
    constructor
    · rw [hTaken, List.flatMap_cons, ← List.append_assoc]
      rfl
    · rw [hFlushes, List.countP_cons_of_neg (by simp [Event.isFlush])]
      rfl
  | @flushed sink final events _ ih =>
    obtain ⟨hTaken, hFlushes⟩ := ih
    constructor
    · rw [hTaken, List.flatMap_cons]
      rfl
    · rw [hFlushes, List.countP_cons_of_pos rfl, flush, Nat.add_right_comm, Nat.add_assoc]

theorem flatMap_content_written (writes : List (List UInt8)) :
    (writes.map Event.written).flatMap Event.content = writes.flatten := by
  rw [List.flatMap_map, ← List.flatMap_id]
  rfl

theorem accepts_accepts (sink : Sink) (count : Nat) :
    sink.accepts (sink.accepts count) = sink.accepts count := by
  unfold accepts
  cases sink.room <;> cases sink.pieces <;> simp only [] <;> omega

/-- Writing is a run of writes. -/
theorem exists_run_writeAll (sink : Sink) (bytes : List UInt8) :
    ∃ writes : List (List UInt8), Run sink (writes.map .written) (sink.writeAll bytes).1 := by
  fun_induction writeAll sink bytes with
  | case1 sink => exact ⟨[], .nil⟩
  | case2 sink bytes hBytes count hProgress hLess ih =>
    obtain ⟨writes, hRun⟩ := ih
    have hCount : count ≤ bytes.length := Nat.le_trans (sink.accepts_le_capacity _) (sink.capacity_le _)
    have hTaken : (bytes.take count).length = count := List.length_take_of_le hCount
    refine ⟨bytes.take count :: writes, .written ?_ ?_ hRun⟩
    · rw [← List.length_pos_iff, hTaken]
      exact hProgress.1
    · rw [hTaken]
      exact sink.accepts_accepts bytes.length
  | case3 sink bytes hBytes count hStuck => exact ⟨[], .nil⟩

/-! ## Delivering -/

/-- The sink is flushed once it has the whole text, and there is an error where it has no room for that. -/
theorem deliver_eq (sink : Sink) (text : String) : sink.deliver text =
    if sink.capacity text.toUTF8.data.toList.length = text.toUTF8.data.toList.length then
      ((sink.writeAll text.toUTF8.data.toList).1.flush, none)
    else ((sink.writeAll text.toUTF8.data.toList).1, some .incomplete) := by
  obtain ⟨-, -, hError⟩ := sink.writeAll_spec text.toUTF8.data.toList
  unfold deliver
  split
  · next written hWritten =>
    rw [hWritten] at hError ⊢
    split at hError
    · next hRoom => rw [if_pos hRoom]
    · cases hError
  · next written error hWritten =>
    rw [hWritten] at hError ⊢
    split at hError
    · cases hError
    · next hRoom =>
      cases hError
      rw [if_neg hRoom]

/-- The front of the text for which there is room arrives. -/
theorem taken_deliver (sink : Sink) (text : String) : (sink.deliver text).1.taken =
    sink.taken ++ text.toUTF8.data.toList.take (sink.capacity text.toUTF8.data.toList.length) := by
  obtain ⟨hTaken, -, -⟩ := sink.writeAll_spec text.toUTF8.data.toList
  rw [deliver_eq]
  split
  · exact hTaken
  · exact hTaken

/-- A text for which there is room arrives in full, and the sink is flushed after it. -/
theorem deliver_of_capacity {text : String}
    (h : sink.capacity text.toUTF8.data.toList.length = text.toUTF8.data.toList.length) :
    (sink.deliver text).1.taken = sink.taken ++ text.toUTF8.data.toList ∧
      (sink.deliver text).1.flushes = sink.flushes + 1 ∧ (sink.deliver text).2 = none := by
  obtain ⟨-, hFlushes, -⟩ := sink.writeAll_spec text.toUTF8.data.toList
  have hTaken := sink.taken_deliver text
  rw [h, List.take_length] at hTaken
  refine ⟨hTaken, ?_⟩
  rw [deliver_eq, if_pos h]
  exact ⟨congrArg (· + 1) hFlushes, rfl⟩

/-- With no room for the whole text there is an error, and no flush. -/
theorem deliver_of_capacity_ne {text : String}
    (h : sink.capacity text.toUTF8.data.toList.length ≠ text.toUTF8.data.toList.length) :
    (sink.deliver text).1.flushes = sink.flushes ∧ (sink.deliver text).2 = some .incomplete := by
  obtain ⟨-, hFlushes, -⟩ := sink.writeAll_spec text.toUTF8.data.toList
  rw [deliver_eq, if_neg h]
  exact ⟨hFlushes, rfl⟩

/-- Delivering is a run: the writes bring the front of the text for which there is room, and one flush comes
behind them if that is the whole text. -/
theorem exists_run_deliver (sink : Sink) (text : String) :
    ∃ writes : List (List UInt8),
      writes.flatten = text.toUTF8.data.toList.take (sink.capacity text.toUTF8.data.toList.length) ∧
        Run sink (writes.map .written ++
          if sink.capacity text.toUTF8.data.toList.length = text.toUTF8.data.toList.length then [.flushed]
          else []) (sink.deliver text).1 := by
  obtain ⟨writes, hRun⟩ := sink.exists_run_writeAll text.toUTF8.data.toList
  refine ⟨writes, ?_, ?_⟩
  · have hTaken := hRun.taken_and_flushes.1
    rw [(sink.writeAll_spec _).1, flatMap_content_written] at hTaken
    exact (List.append_cancel_left hTaken).symm
  · rw [deliver_eq]
    split
    · exact hRun.append (.flushed .nil)
    · exact hRun.append .nil

end CompilerDriver.Output.Sink
