import Textmode.Sink
import Mathlib.Data.List.TakeDrop

/-! What a sink holds after a writer is done with it: all of the octets, or as many of the first
ones as there was room for. How many it takes at a time makes no difference, also where it takes
fewer than it could.
-/

set_option autoImplicit false

namespace Textmode.Sink

/-- The calls of a writer to a sink until it has taken everything or will take no more. With each
call it takes as many octets as it likes, within its limits. -/
inductive Calls : Sink → Bytes → Sink → Option SinkFault → Prop where
  | done {sink : Sink} : Calls sink [] sink none
  | full {sink : Sink} {bytes : Bytes} : bytes ≠ [] → sink.room = 0 →
      Calls sink bytes sink (some sink.whenFull)
  | took {sink sink' : Sink} {bytes : Bytes} {taken : Nat} {fault : Option SinkFault} :
      0 < taken → taken ≤ bytes.length → taken ≤ sink.chunk → taken ≤ sink.room →
      Calls
        { sink with
          room := sink.room - taken
          written := sink.written ++ bytes.take taken } (bytes.drop taken) sink' fault →
      Calls sink bytes sink' fault

theorem write_eq_error {sink : Sink} {bytes : Bytes} {fault : SinkFault} (more : bytes ≠ [])
    (takes : 0 < sink.chunk) (refused : sink.write bytes = .error fault) :
    sink.room = 0 ∧ fault = sink.whenFull := by
  have long : 0 < bytes.length := List.length_pos_iff.mpr more
  simp only [write] at refused
  split at refused
  · next none =>
    cases refused
    exact ⟨by omega, rfl⟩
  · cases refused

theorem write_eq_ok {sink sink' : Sink} {bytes : Bytes} {taken : Nat}
    (took : sink.write bytes = .ok (sink', taken)) :
    taken ≤ bytes.length ∧ taken ≤ sink.chunk ∧ taken ≤ sink.room ∧
      sink' = { sink with
        room := sink.room - taken
        written := sink.written ++ bytes.take taken } := by
  simp only [write] at took
  split at took
  · cases took
  · cases took
    exact ⟨by omega, by omega, by omega, rfl⟩

/-- A sink that takes all it can with each call is one of those that take what they like. -/
theorem calls_writeAll {sink : Sink} (takes : 0 < sink.chunk) (bytes : Bytes) :
    Calls sink bytes (sink.writeAll bytes).1 (sink.writeAll bytes).2 := by
  induction sink, bytes using writeAll.induct with
  | case1 sink =>
    rw [writeAll, if_pos rfl]
    exact .done
  | case2 sink bytes more fault refused =>
    obtain ⟨room, rfl⟩ := write_eq_error more takes refused
    rw [writeAll, if_neg more]
    split
    · next refused' =>
      cases refused.symm.trans refused'
      exact .full more room
    · next took =>
      cases refused.symm.trans took
  | case3 sink bytes more sink' taken took ih =>
    -- As much as a call can take is one of the amounts that it may take.
    have some := pos_of_write took
    obtain ⟨inside, chunk, room, rfl⟩ := write_eq_ok took
    rw [writeAll, if_neg more]
    split
    · next refused =>
      cases took.symm.trans refused
    · next took' =>
      cases took.symm.trans took'
      exact .took some inside chunk room (ih takes)

/-- All calls come to the same: as much of the front as there is room for. -/
theorem Calls.result_eq {sink sink' : Sink} {bytes : Bytes} {fault : Option SinkFault}
    (calls : Calls sink bytes sink' fault) :
    (sink', fault) =
      ({ sink with
          room := sink.room - bytes.length
          written := sink.written ++ bytes.take sink.room },
        if bytes.length ≤ sink.room then none else some sink.whenFull) := by
  induction calls with
  | done => simp
  | @full sink bytes more full =>
    have long : 0 < bytes.length := List.length_pos_iff.mpr more
    rw [full, List.take_zero, List.append_nil, Nat.zero_sub, ← full, if_neg (by omega)]
  | @took sink sink' bytes taken fault some inside chunk room rest ih =>
    -- What this call takes and what the others take lie behind each other.
    have all : bytes.take taken ++ (bytes.drop taken).take (sink.room - taken) =
        bytes.take sink.room := by
      rw [← List.take_add, Nat.add_sub_cancel' room]
    have enough : bytes.length - taken ≤ sink.room - taken ↔ bytes.length ≤ sink.room := by omega
    have left : sink.room - taken - (bytes.length - taken) = sink.room - bytes.length := by omega
    rw [ih]
    simp only [List.append_assoc, all, List.length_drop, enough, left]

theorem writeAll_eq {sink : Sink} (takes : 0 < sink.chunk) (bytes : Bytes) :
    sink.writeAll bytes =
      ({ sink with
          room := sink.room - bytes.length
          written := sink.written ++ bytes.take sink.room },
        if bytes.length ≤ sink.room then none else some sink.whenFull) :=
  (calls_writeAll takes bytes).result_eq

theorem calls_iff {sink sink' : Sink} {bytes : Bytes} {fault : Option SinkFault}
    (takes : 0 < sink.chunk) :
    Calls sink bytes sink' fault ↔ sink.writeAll bytes = (sink', fault) := by
  constructor
  · intro calls
    rw [calls.result_eq, writeAll_eq takes]
  · intro written
    have calls := calls_writeAll takes bytes
    rwa [written] at calls

end Textmode.Sink
