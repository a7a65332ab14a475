/-
# Sinks

A sink takes bytes and may take fewer than it is offered: at most `chunk` bytes at a time and
`limit` bytes in all. Once the limit is used up every further byte is refused. `writeAll` offers
what is left again and again until all of it is taken or a write fails; a write that takes nothing
is a failure too, since it could be repeated for ever.

Key definitions: `Sink`, `Sink.write`, `Sink.writeAll`.
-/
import InstructionSheet.Output.Fault

namespace InstructionSheet

/-- A place for bytes, with the bounds it sets and the bytes it has taken. -/
structure Sink where
  chunk : Option Nat
  limit : Option Nat
  /-- The answer to a byte offered once the limit is used up. -/
  full : Fault
  /-- The answer to a flush, if it is refused. -/
  flushFault : Option Fault
  received : ByteArray

namespace Sink

/-- A sink that takes everything. -/
def unbounded : Sink := ⟨none, none, .noSpace, none, ByteArray.empty⟩

/-- A sink that refuses every byte for want of room. -/
def withoutRoom : Sink := { unbounded with limit := some 0 }

/-- A sink under trial: bounds of one's choice, and a flush that works or not. -/
def trial (chunk limit : Option Nat) (flushFails : Bool) : Sink :=
  ⟨chunk, limit, .other "disk full", if flushFails then some (.other "flush refused") else none,
    ByteArray.empty⟩

/-- The number of bytes that a sink still takes, if that is bounded. -/
def room (s : Sink) : Option Nat := s.limit.map (· - s.received.size)

/-- The first bytes up to a bound, or all of them where there is none. -/
def upTo (bound : Option Nat) (bytes : List UInt8) : List UInt8 :=
  match bound with
  | none => bytes
  | some n => bytes.take n

/-- Offers bytes once. The sink looks at the first of them, as many as it takes at a time. If these
are none it takes nothing, even when its limit is used up; otherwise a used-up limit refuses them,
and a limit with room left takes as many of them as it has room for. -/
def write (s : Sink) (bytes : List UInt8) : Sink × Except Fault Nat :=
  let offered := upTo s.chunk bytes
  if offered.isEmpty then (s, .ok 0)
  else if s.room = some 0 then (s, .error s.full)
  else
    let taken := upTo s.room offered
    ({ s with received := s.received ++ taken.toByteArray }, .ok taken.length)

/-- Offers bytes until they are all taken or a write fails or takes nothing. -/
def writeAll (s : Sink) (bytes : List UInt8) : Sink × Option Fault :=
  match bytes with
  | [] => (s, none)
  | b :: rest =>
    match s.write (b :: rest) with
    | (s', .error f) => (s', some f)
    | (s', .ok 0) => (s', some .nothingTaken)
    | (s', .ok (n + 1)) => s'.writeAll (rest.drop n)
termination_by bytes.length
decreasing_by
  simp only [List.length_drop, List.length_cons]
  omega

example : ((trial (some 0) (some 0) false).writeAll [1]).2 = some .nothingTaken := by
  simp [writeAll, write, trial, upTo]

example : ((trial (some 1) (some 0) false).writeAll [1]).2 = some (.other "disk full") := by
  simp [writeAll, write, trial, upTo, room]

end Sink
end InstructionSheet
