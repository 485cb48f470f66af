import Textmode.Bytes

/-! Writing to a sink that takes only so many octets at a time, and only so many in all. -/

set_option autoImplicit false

namespace Textmode

inductive SinkFault where
  | closed
  /-- It went on without taking anything. -/
  | stalled
  deriving DecidableEq, Repr

structure Sink where
  /-- The most that one call takes. -/
  chunk : Nat
  room : Nat
  /-- What a call gets that finds the sink full. -/
  whenFull : SinkFault
  written : Bytes := []
  deriving DecidableEq

namespace Sink

/-- One call: the sink after it, and how many octets it took. A sink that can take none is
full, also where its calls never take any. -/
def write (sink : Sink) (bytes : Bytes) : Except SinkFault (Sink × Nat) :=
  let taken := min bytes.length (min sink.chunk sink.room)
  if taken = 0 then .error sink.whenFull
  else
    .ok ({ sink with
      room := sink.room - taken
      written := sink.written ++ bytes.take taken }, taken)

theorem pos_of_write {sink sink' : Sink} {bytes : Bytes} {taken : Nat}
    (h : sink.write bytes = .ok (sink', taken)) : 0 < taken := by
  simp only [write] at h
  split at h
  · simp at h
  · simp only [Except.ok.injEq, Prod.mk.injEq] at h
    omega

/-- Calls the sink until it has taken everything or will take no more. What it took before
a fault stays written. -/
def writeAll (sink : Sink) (bytes : Bytes) : Sink × Option SinkFault :=
  if bytes = [] then (sink, none)
  else
    match _h : sink.write bytes with
    | .error fault => (sink, some fault)
    | .ok (sink', taken) => writeAll sink' (bytes.drop taken)
termination_by bytes.length
decreasing_by
  have := pos_of_write ‹_›
  have : bytes.length ≠ 0 := by simpa using ‹¬bytes = []›
  simp only [List.length_drop]
  omega

end Sink

structure WriteError where
  target : String
  fault : SinkFault
  deriving DecidableEq

def SinkFault.message : SinkFault → String
  | closed => "closed"
  | stalled => "failed to write whole buffer"

def WriteError.message (e : WriteError) : String :=
  s!"IO error writing '{e.target}': " ++ e.fault.message

end Textmode
