/-!
# Output

A sink takes bytes, up to a capacity if it has one.  A write stores the bytes
that still fit, and fails when not all of them do.
-/

namespace CallScript

/-- The output of a program. -/
structure Sink where
  /-- The bytes written so far. -/
  stored : List UInt8
  /-- The number of bytes that the sink takes in all. -/
  capacity : Option Nat
  deriving DecidableEq

namespace Sink

/-- The sink without any bytes. -/
def empty (capacity : Option Nat) : Sink :=
  ⟨[], capacity⟩

/-- The bytes that the sink keeps of those that it is given. -/
def kept (sink : Sink) (bytes : List UInt8) : List UInt8 :=
  match sink.capacity with
  | none => bytes
  | some capacity => bytes.take (capacity - sink.stored.length)

/-- The sink after a write. -/
def write (sink : Sink) (bytes : List UInt8) : Sink :=
  { sink with stored := sink.stored ++ sink.kept bytes }

/-- All the bytes fit into the sink. -/
def fits (sink : Sink) (bytes : List UInt8) : Bool :=
  match sink.capacity with
  | none => true
  | some capacity => sink.stored.length + bytes.length ≤ capacity

end Sink

end CallScript
