import Textmode.Proofs.Date
import Textmode.Proofs.File
import Textmode.Proofs.Sink

/-! Records and dates written to a sink that has no room for all of their octets. It keeps as many
of the first ones as it has room for, and the writer is told exactly if some are missing.
-/

set_option autoImplicit false

namespace Textmode

namespace Sink

/-- What comes of a writer that the sink knows as `target`: as many of the first octets as there is
room for behind what the sink held, and an error exactly if these are not all. Any calls come to
this, however few octets they take at a time. -/
structure TakesStart (sink : Sink) (target : String) (octets : Bytes)
    (result : Sink × Option WriteError) : Prop where
  written : result.1.written = sink.written ++ octets.take (min sink.room octets.length)
  succeeds_iff : result.2 = none ↔ octets.length ≤ sink.room
  fails : sink.room < octets.length → result.2 = some ⟨target, sink.whenFull⟩
  calls_iff : ∀ sink' fault,
    Calls sink octets sink' fault ↔ result = (sink', fault.map (⟨target, ·⟩))

theorem takesStart_writeAll {sink : Sink} (takes : 0 < sink.chunk) (target : String)
    (octets : Bytes) :
    TakesStart sink target octets
      ((sink.writeAll octets).1, (sink.writeAll octets).2.map (⟨target, ·⟩)) := by
  have whole := writeAll_eq takes octets
  constructor
  · rw [whole, ← List.take_eq_take_min]
  · rw [whole]
    simp
  · intro short
    rw [whole]
    simp [short]
  · intro sink' fault
    have named : Function.Injective fun fault => WriteError.mk target fault :=
      fun _ _ same => (WriteError.mk.inj same).2
    rw [calls_iff takes, Prod.ext_iff, Prod.mk.injEq, (Option.map_injective named).eq_iff]

end Sink

namespace Sauce

theorem File.exists_length_strip (n : Nat) : ∃ file : Bytes, (strip file).length = n := by
  refine ⟨List.replicate n 0, ?_⟩
  have bare : ¬ endsInRecord (List.replicate n 0) := by
    rw [endsInRecord_iff]
    rintro ⟨_, marked⟩
    -- The mark has no zero in it.
    have zero := List.eq_of_mem_replicate (List.drop_subset _ _ (marked.subset List.mem_cons_self))
    exact absurd zero (by decide)
  rw [strip_of_not_endsInRecord bare, List.length_replicate]

/-- Whatever a sink has room for, it holds that much of the record that is attached to a content of
this length, or of the eight digits of a date. There is no error exactly if this is all. -/
theorem leaves_start (r : Record) (contentLength : Nat) (date : Date) {sink : Sink}
    (takes : 0 < sink.chunk) :
    (∃ record : Bytes, record.length = 1 + r.extent ∧
      (∃ file, (File.strip file).length = contentLength) ∧
      (∀ file, (File.strip file).length = contentLength →
        File.attach file r = File.strip file ++ record) ∧
      sink.TakesStart "<writer>" record (r.write contentLength sink)) ∧
    (Utf8.encode date.stamp).length = 8 ∧
      sink.TakesStart "<date>" (Utf8.encode date.stamp) (date.write sink) := by
  refine ⟨⟨r.toBytes contentLength, ?_, File.exists_length_strip contentLength, ?_,
    Sink.takesStart_writeAll takes _ _⟩, ?_, Sink.takesStart_writeAll takes _ _⟩
  · rw [r.length_toBytes, Nat.add_comm]
  · rintro file rfl
    rfl
  · exact date.length_encode_stamp

def narrowSink : Sink where
  chunk := 7
  room := 128
  whenFull := .stalled

/-- A record without comments is one octet too long for this sink. -/
theorem leaves_start_narrow :
    0 < narrowSink.chunk ∧
    (Record.write {} 3 narrowSink).1.written.length = 128 ∧
    (Record.write {} 3 narrowSink).2 = some ⟨"<writer>", .stalled⟩ ∧
    (Date.write ⟨1994, 8, 31⟩ narrowSink).1.written =
      [0x31, 0x39, 0x39, 0x34, 0x30, 0x38, 0x33, 0x31] ∧
    (Date.write ⟨1994, 8, 31⟩ narrowSink).2 = none := by
  have takes : 0 < narrowSink.chunk := by decide
  obtain ⟨⟨record, length, _, _, cut⟩, eight, whole⟩ := leaves_start {} 3 ⟨1994, 8, 31⟩ takes
  have long : record.length = 129 := length
  refine ⟨takes, ?_, cut.fails (by rw [long]; decide), ?_,
    whole.succeeds_iff.mpr (by rw [eight]; decide)⟩
  · rw [cut.written, long]
    simp [long, narrowSink]
  · rw [whole.written, eight]
    decide +kernel

end Sauce

end Textmode
