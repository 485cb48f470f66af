import Textmode.Sauce.Draft
import Textmode.Proofs.File
import Textmode.Proofs.Sink

/-! Programs that work on the metadata of a file. Whatever they attach, stack, write, strip or
edit, and in whatever order, the content of the file stays what it was.
-/

set_option autoImplicit false

namespace Textmode

def Sink.memory (held : Bytes) (room : Nat) : Sink where
  chunk := room
  room := room
  whenFull := .closed
  written := held

namespace Sauce

theorem Record.write_eq (r : Record) (contentLength : Nat) {sink : Sink} (takes : 0 < sink.chunk)
    (room : (r.toBytes contentLength).length ≤ sink.room) :
    r.write contentLength sink =
      ({ sink with
          room := sink.room - (r.toBytes contentLength).length
          written := sink.written ++ r.toBytes contentLength }, none) := by
  rw [write, sink.writeAll_eq takes, if_pos room, List.take_of_length_le room]
  rfl

namespace File

inductive Step where
  /-- Puts a record behind the content, in place of all that is there. -/
  | attach (r : Record)
  | strip
  /-- Appends what an empty file with this record looks like. -/
  | stack (r : Record)
  /-- Writes a record to the end, for a content of whatever length. -/
  | write (r : Record) (contentLength : Nat)
  /-- Reads the record and attaches it again. -/
  | rewrite
  /-- Reads the record and attaches what comes of editing it. -/
  | edit (edits : List Edit)
  deriving DecidableEq

/-- One step. A file without a record has nothing to rewrite or to edit. -/
def step (file : Bytes) : Step → Bytes
  | .attach r => attach file r
  | .strip => strip file
  | .stack r => file ++ attach [] r
  | .write r contentLength =>
    (r.write contentLength (Sink.memory file (r.extent + 1))).1.written
  | .rewrite =>
    match read? file with
    | some r => attach file r
    | none => file
  | .edit edits =>
    match read? file with
    | some r => attach file ((Draft.ofRecord r).run edits).finish
    | none => file

def run (file : Bytes) (steps : List Step) : Bytes := steps.foldl step file

theorem step_write (file : Bytes) (r : Record) (contentLength : Nat) :
    step file (.write r contentLength) = file ++ r.toBytes contentLength := by
  have room : (r.toBytes contentLength).length ≤ (Sink.memory file (r.extent + 1)).room :=
    (r.length_toBytes contentLength).le
  rw [step, r.write_eq contentLength (Nat.succ_pos r.extent) room]
  rfl

theorem strip_step (file : Bytes) (s : Step) : strip (step file s) = strip file := by
  cases s with
  | attach r => exact strip_attach file r
  | strip => exact strip_strip file
  | stack r =>
    have empty : strip [] = [] := strip_of_not_endsInRecord (by decide)
    rw [step, attach, empty, List.nil_append, strip_append_toBytes]
  | write r contentLength => rw [step_write, strip_append_toBytes]
  | rewrite =>
    rw [step]
    split
    · exact strip_attach ..
    · rfl
  | edit edits =>
    rw [step]
    split
    · exact strip_attach ..
    · rfl

theorem strip_run (file : Bytes) (steps : List Step) : strip (run file steps) = strip file := by
  induction steps generalizing file with
  | nil => rfl
  | cons s steps ih => exact (ih (step file s)).trans (strip_step file s)

/-- The content survives every run, and what stands behind it after attaching a record is what
the record itself writes, whatever was there before. -/
theorem content_of_run (file : Bytes) (steps : List Step) :
    strip (run file steps) = strip file ∧
    ∀ r : Record, ∃ record : Bytes,
      attach (run file steps) r = strip file ++ record ∧
      record.length = 1 + r.extent ∧
      (∀ sink : Sink, 0 < sink.chunk → record.length ≤ sink.room →
        r.write (strip file).length sink =
          ({ sink with
              room := sink.room - record.length
              written := sink.written ++ record }, none)) ∧
      ∀ next : Record, attach (attach (run file steps) r) next = attach (run file steps) next := by
  have content := strip_run file steps
  refine ⟨content, fun r => ⟨r.toBytes (strip file).length, ?_, ?_, ?_, ?_⟩⟩
  · rw [attach, content]
  · rw [r.length_toBytes, Nat.add_comm]
  · intro sink takes room
    exact r.write_eq _ takes room
  · intro next
    exact attach_congr (strip_attach _ r) next

end File

end Sauce

end Textmode
