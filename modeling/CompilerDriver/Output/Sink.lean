/-!
# Sinks

A sink takes bytes, possibly fewer than it is offered and possibly a limited number in all. Writing a
whole text offers what is left again and again until nothing is left, and fails when the sink takes
nothing. `deliver` flushes the sink after the last byte, and never after a failure.
-/

namespace CompilerDriver.Output

/-- Where bytes go. -/
structure Sink where
  /-- How many more bytes the sink takes, if there is a limit. -/
  room : Option Nat := none
  /-- For each of the next writes, the number of bytes after the first that it takes at most. Later
  writes take all they can. -/
  pieces : List Nat := []
  /-- The bytes taken so far. -/
  taken : List UInt8 := []
  /-- The number of times the sink was flushed. -/
  flushes : Nat := 0
  deriving Repr

/-- Why a text was not written. -/
inductive WriteError where
  /-- The sink took nothing although bytes were left. -/
  | incomplete
  deriving DecidableEq, Repr

/-- The text that reports the error. -/
def WriteError.message : WriteError → String
  | .incomplete => "failed to write whole buffer"

namespace Sink

/-- How many of the offered bytes the next write takes. -/
def accepts (sink : Sink) (offered : Nat) : Nat :=
  let offered := match sink.room with
    | some room => min room offered
    | none => offered
  match sink.pieces with
  | [] => offered
  | piece :: _ => min (piece + 1) offered

/-- The sink after it took the bytes in one write. -/
def take (sink : Sink) (bytes : List UInt8) : Sink :=
  { sink with
    room := sink.room.map (· - bytes.length)
    pieces := sink.pieces.tail
    taken := sink.taken ++ bytes }

/-- The sink after one more flush. -/
def flush (sink : Sink) : Sink :=
  { sink with flushes := sink.flushes + 1 }

/-- Offers the bytes until the sink has taken all of them or takes nothing. -/
def writeAll (sink : Sink) (bytes : List UInt8) : Sink × Option WriteError :=
  if bytes = [] then
    (sink, none)
  else
    let count := sink.accepts bytes.length
    if progress : 0 < count ∧ 0 < bytes.length then
      have : (bytes.drop count).length < bytes.length := by
        rw [List.length_drop]
        exact Nat.sub_lt progress.2 progress.1
      writeAll (sink.take (bytes.take count)) (bytes.drop count)
    else
      (sink, some .incomplete)
termination_by bytes.length

/-- Writes a text and then flushes, or reports the error of writing. -/
def deliver (sink : Sink) (text : String) : Sink × Option WriteError :=
  match sink.writeAll text.toUTF8.data.toList with
  | (sink, none) => (sink.flush, none)
  | (sink, some error) => (sink, some error)

end Sink

end CompilerDriver.Output
