import CompilerDriver.Help.Page
import CompilerDriver.Proofs.Output.Sink
/-!
# What of the help page arrives

A sink with a limit takes the front of the page up to the limit, counted in bytes, whatever sizes its writes have
(`deliver_to_limited`). Delivery succeeds just if the limit leaves room for the whole page. Then the sink is
flushed, once and behind the last write, and else it is not flushed at all.
-/

namespace CompilerDriver.Help

universe u

open Output

variable {V : Type u}

/-- A sink that has taken nothing yet and takes so many bytes in all, the next writes in pieces. -/
def limited (limit : Nat) (pieces : List Nat) : Sink :=
  { room := some limit, pieces := pieces }

/-- The bytes of the help page. -/
def pageBytes (table : Table V) (settings : Settings) (includeHidden : Bool) : List UInt8 :=
  (page table settings includeHidden).toUTF8.data.toList

theorem capacity_limited_eq_iff {limit : Nat} {pieces : List Nat} {count : Nat} :
    (limited limit pieces).capacity count = count ↔ count ≤ limit := by
  rw [show (limited limit pieces).capacity count = min limit count from rfl]
  omega

/-- What the sink has taken of the page is its front up to the limit. Delivery succeeds with one flush just if the
page is no longer than that, and fails without any flush just if it is longer. In either case what happens at the
sink is a run of writes that bring the bytes taken, with a flush only behind the last of them. -/
theorem deliver_to_limited (table : Table V) (settings : Settings) (includeHidden : Bool) (limit : Nat)
    (pieces : List Nat) :
    let bytes := pageBytes table settings includeHidden
    let result := deliver (limited limit pieces) table settings includeHidden
    result.1.taken = bytes.take (min limit bytes.length) ∧
      (result.2 = none ∧ result.1.flushes = 1 ↔ bytes.length ≤ limit) ∧
      (result.2 = some .incomplete ∧ result.1.flushes = 0 ↔ limit < bytes.length) ∧
      ∃ writes : List (List UInt8), writes.flatten = result.1.taken ∧
        Sink.Run (limited limit pieces)
          (writes.map .written ++ if bytes.length ≤ limit then [.flushed] else []) result.1 := by
  intro bytes result
  have hTaken : result.1.taken = bytes.take (min limit bytes.length) :=
    (limited limit pieces).taken_deliver (page table settings includeHidden)
  have hRun : ∃ writes : List (List UInt8), writes.flatten = result.1.taken ∧
      Sink.Run (limited limit pieces)
        (writes.map .written ++ if bytes.length ≤ limit then [.flushed] else []) result.1 := by
    obtain ⟨writes, hWrites, hRun⟩ :=
      (limited limit pieces).exists_run_deliver (page table settings includeHidden)
    refine ⟨writes, hWrites.trans hTaken.symm, ?_⟩
    simp only [capacity_limited_eq_iff] at hRun
    exact hRun
  rcases Nat.lt_or_ge limit bytes.length with hLong | hShort
  · have hNoRoom : ¬ bytes.length ≤ limit := Nat.not_le_of_lt hLong
    obtain ⟨hFlushes, hError⟩ := Sink.deliver_of_capacity_ne (mt capacity_limited_eq_iff.1 hNoRoom)
    have hFails : result.2 = some .incomplete := hError
    refine ⟨hTaken, ?_, ?_, hRun⟩
    · simp [hFails, hNoRoom]
    · exact iff_of_true ⟨hFails, hFlushes⟩ hLong
  · obtain ⟨-, hFlushes, hError⟩ := Sink.deliver_of_capacity (capacity_limited_eq_iff.2 hShort)
    have hSucceeds : result.2 = none := hError
    refine ⟨hTaken, ?_, ?_, hRun⟩
    · exact iff_of_true ⟨hSucceeds, hFlushes⟩ hShort
    · simp [hSucceeds, Nat.not_lt_of_le hShort]

end CompilerDriver.Help
