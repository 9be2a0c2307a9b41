/-!
# Sinks

Where a program prints. What a sink is, is left open: all that a program does with it is to write
bytes and to flush it, and each of these may fail at any time, with any error, and go well again
later (`Sink`). A text is written in the pieces that it is put together from, up to the first
failure. One type of sinks are buffers in memory, which may be limited: what does not fit into a
buffer is cut off, so the bytes for which there is room are written, and then the write fails.
-/

namespace Kiss

/-- An error of input or output: its kind, by name, and its wording. -/
structure IoError where
  kind : String
  text : String
  deriving DecidableEq, Repr

/-- A type of sinks. To write is to hand over some bytes, all of them unless it fails; to flush is
    to pass on what has been written. Beside what has come of it there is the sink to go on with. -/
class Sink (σ : Type) where
  write : σ → ByteArray → Except IoError Unit × σ
  flush : σ → Except IoError Unit × σ

namespace Sink

variable {σ : Type} [Sink σ]

/-- Writes texts one behind the other, up to the first failure. -/
def writeAll (sink : σ) : List String → Except IoError Unit × σ
  | [] => (.ok (), sink)
  | first :: rest =>
      match write sink first.toUTF8 with
      | (.ok (), sink) => writeAll sink rest
      | (.error e, sink) => (.error e, sink)

/-- Prints a text that is given in pieces: writes them, and then flushes the sink. -/
def print (sink : σ) (pieces : List String) : Except IoError Unit × σ :=
  match writeAll sink pieces with
  | (.ok (), sink) => flush sink
  | (.error e, sink) => (.error e, sink)

end Sink

/-- A sink in memory: what has been written, the number of bytes it still takes, if that is
    limited, and whether flushing it fails. -/
structure Buffer where
  written : ByteArray
  room : Option Nat
  flushFails : Bool

namespace Buffer

/-- The error of a write for which there is no room. -/
def full : IoError := ⟨"Other", "sink full"⟩

/-- The error of a flush. -/
def flushFailed : IoError := ⟨"Other", "flush failed"⟩

/-- A buffer with nothing written that takes everything. -/
def unlimited : Buffer := ⟨ByteArray.empty, none, false⟩

/-- A buffer with nothing written that takes the given number of bytes. -/
def limited (room : Nat) : Buffer := ⟨ByteArray.empty, some room, false⟩

/-- Writes bytes as far as there is room. Writing nothing never fails. -/
def write (buffer : Buffer) (bytes : ByteArray) : Except IoError Unit × Buffer :=
  match buffer.room with
  | none => (.ok (), { buffer with written := buffer.written ++ bytes })
  | some room =>
      if bytes.size ≤ room then
        (.ok (),
          { buffer with written := buffer.written ++ bytes, room := some (room - bytes.size) })
      else
        (.error full,
          { buffer with written := buffer.written ++ bytes.extract 0 room, room := some 0 })

/-- Nothing is left to be passed on, but flushing may fail all the same. -/
def flush (buffer : Buffer) : Except IoError Unit × Buffer :=
  (if buffer.flushFails then .error flushFailed else .ok (), buffer)

instance : Sink Buffer where
  write := write
  flush := flush

end Buffer

end Kiss
