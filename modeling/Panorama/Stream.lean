import Panorama.Error

/-!
# Byte streams

A `Source` hands out bytes in pieces of its own choosing and may fail once they are out. A `Sink`
takes bytes and may refuse a write. Both are values: reading returns the source that is left and
writing returns the sink with what it holds.
-/

namespace Panorama

/-- A stream to read from. Every read hands out bytes of one piece only. -/
structure Source where
  /-- The bytes still to come, in the pieces in which they arrive. -/
  pieces : List (List UInt8)
  /-- The failure that follows the last byte, instead of the end of the stream. -/
  failure : Option DeviceFailure
  deriving DecidableEq

namespace Source

/-- A stream that hands out everything it is asked for and then ends. -/
def ofBytes (bytes : List UInt8) : Source := ⟨[bytes], none⟩

/-- A stream that fails from the start. -/
def failing (failure : DeviceFailure) : Source := ⟨[], some failure⟩

/-- All bytes still to come. -/
def bytes (source : Source) : List UInt8 := source.pieces.flatten

/-- Cut bytes into pieces of at most `size` bytes; a size of zero leaves them whole. -/
def cut (size : Nat) (bytes : List UInt8) : List (List UInt8) :=
  if _short : size = 0 ∨ bytes.length ≤ size then [bytes]
  else bytes.take size :: cut size (bytes.drop size)
termination_by bytes.length
decreasing_by simp only [List.length_drop]; omega

/-- The next bytes, at most `count` of them, and the pieces that are left. -/
def next (count : Nat) : List (List UInt8) → List UInt8 × List (List UInt8)
  | [] => ([], [])
  | [] :: pieces => next count pieces
  | (byte :: bytes) :: pieces =>
    ((byte :: bytes).take count, (byte :: bytes).drop count :: pieces)

/-- One read of at most `count` bytes. No byte means that the stream has ended. -/
def read (source : Source) (count : Nat) : Except DeviceFailure (List UInt8 × Source) :=
  match next count source.pieces, source.failure with
  | ([], _), some failure => .error failure
  | (bytes, pieces), _ => .ok (bytes, { source with pieces })

/-- What filling a buffer has come to. -/
structure Filled where
  /-- The bytes that arrived. -/
  bytes : List UInt8
  /-- The stream behind them. -/
  source : Source
  /-- The failure that kept further bytes from arriving. -/
  failure : Option DeviceFailure

/-- Read until there are `count` bytes, the stream ends, or it fails. -/
def fill (source : Source) (count : Nat) : Filled :=
  if count = 0 then ⟨[], source, none⟩
  else
    match source.read count with
    | .error failure => ⟨[], source, some failure⟩
    | .ok ([], source) => ⟨[], source, none⟩
    | .ok (byte :: bytes, source) =>
      let rest := source.fill (count - (bytes.length + 1))
      { rest with bytes := byte :: bytes ++ rest.bytes }
termination_by count
decreasing_by omega

end Source

/-- A stream to write to. -/
structure Sink where
  /-- What has been written. -/
  written : Array UInt8
  /-- The failure with which the sink refuses bytes that are offered after what is written. -/
  refusal : Array UInt8 → List UInt8 → Option DeviceFailure

namespace Sink

/-- An empty sink that refuses nothing. -/
def unlimited : Sink := ⟨#[], fun _ _ ↦ none⟩

/-- An empty sink that refuses every write beyond `limit` bytes in total. -/
def limited (limit : Nat) (failure : DeviceFailure) : Sink :=
  ⟨#[], fun written offered ↦ if limit < written.size + offered.length then some failure else none⟩

/-- One write: all of the bytes or none of them. -/
def write (sink : Sink) (bytes : List UInt8) : Result Sink :=
  match sink.refusal sink.written bytes with
  | some failure => .error (.io failure)
  | none => .ok { sink with written := sink.written ++ bytes }

end Sink

end Panorama
