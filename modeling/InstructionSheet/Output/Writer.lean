/-
# Writing a sheet through a buffer

Atoms of output gather in a buffer of `capacity` bytes. The buffer is emptied into the sink only
when the next atom does not fit, and once more after the last row, so an exactly full buffer waits.
A failure while room is made for an atom is an error of a row; one in the last emptying, or in the
flush that follows it, is an error of the finish.

Key definitions: `Writer`, `Writer.put`, `Sheet.writeTo`, `Sheet.toCsv`.
-/
import InstructionSheet.Csv.Atom
import InstructionSheet.Output.Sink

namespace InstructionSheet

/-- A sink and the bytes that wait for it. -/
structure Writer where
  sink : Sink
  pending : ByteArray

namespace Writer

/-- The number of bytes that can wait. -/
def capacity : Nat := 8192

/-- A writer into a sink with nothing waiting. -/
def start (sink : Sink) : Writer := ⟨sink, ByteArray.empty⟩

/-- Hands all waiting bytes to the sink. -/
def drain (w : Writer) : Writer × Option Fault :=
  let result := w.sink.writeAll w.pending.data.toList
  (⟨result.1, ByteArray.empty⟩, result.2)

/-- Lets an atom wait, whether or not there is room. -/
def hold (w : Writer) (a : Csv.Atom) : Writer :=
  { w with pending := w.pending ++ a.bytes.toByteArray }

/-- Takes an atom; what waits is handed over first if the atom does not fit beside it. -/
def put (w : Writer) (a : Csv.Atom) : Writer × Option Fault :=
  if w.pending.size + a.size ≤ capacity then (w.hold a, none)
  else
    let result := w.drain
    (result.1.hold a, result.2)

/-- Takes atoms in order up to the first failure. -/
def putAll : Writer → List Csv.Atom → Writer × Option Fault
  | w, [] => (w, none)
  | w, a :: as =>
    match w.put a with
    | (w', none) => putAll w' as
    | (w', some f) => (w', some f)

/-- Hands over what waits and flushes the sink. -/
def finish (w : Writer) : Writer × Option Fault :=
  match w.drain with
  | (w', none) => (w', w'.sink.flushFault)
  | (w', some f) => (w', some f)

end Writer

namespace Sheet

/-- Writes a sheet into a sink: the sink afterwards, and how the writing ended. -/
def writeTo (s : Sheet) (sink : Sink) : Sink × Except ExportError Unit :=
  match (Writer.start sink).putAll (Csv.atoms s.rows) with
  | (w, some f) => (w.sink, .error (.row f))
  | (w, none) =>
    match w.finish with
    | (w', some f) => (w'.sink, .error (.finish f))
    | (w', none) => (w'.sink, .ok ())

/-- Writes a sheet into memory and reads the bytes as text. -/
def toCsv (s : Sheet) : Except ExportError String :=
  match s.writeTo Sink.unbounded with
  | (_, .error e) => .error e
  | (sink, .ok ()) =>
    match String.fromUTF8? sink.received with
    | some text => .ok text
    | none =>
      .error (.finish (@Fault.invalidText (Text.stop sink.received.data.toList)))

end Sheet
end InstructionSheet
