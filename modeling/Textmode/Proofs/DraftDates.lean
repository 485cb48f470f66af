import Textmode.Sauce.Details
import Textmode.Proofs.Draft
import Textmode.Proofs.Rewriting

/-! The date of a draft in a file. A draft takes a date as a date or as its eight digits. Both fill
the field, so the digits come back from a file as they are, and the date with each part as near to
the one that was put as its digits allow.
-/

set_option autoImplicit false

namespace Textmode.Sauce

theorem File.date_of_read?_attach {file : Bytes} {r u : Record}
    (allowed : Slot.date.Allows r.date) (read : read? (attach file r) = some u) :
    u.date = r.date := by
  have kept := text_of_read?_attach read .date
  rwa [Slot.kept_date allowed] at kept

theorem Details.date_of_stamp {r : Record} {date : Date} (stamped : r.date = date.stamp) :
    (ofRecord r).date = some date.clamped := by
  rw [Details.date, ofRecord, stamped]
  exact date.ofBytes?_stamp

namespace Draft

theorem apply_stamp (d : Draft) (s : Text) : d.apply (.stamp s) =
    if s.length = 8 ∧ s.all Decimal.isDigit then
      .ok { d with record := { d.record with date := s } }
    else .error (.notADate s) := by
  rw [apply]
  cases read : Date.ofText? s with
  | none =>
    have unread : ¬ ∃ date, Date.ofText? s = some date := by simp [read]
    rw [if_neg (mt Date.exists_ofText?_iff.mpr unread)]
  | some date =>
    rw [if_pos (Date.exists_ofText?_iff.mp ⟨date, read⟩)]
    dsimp only
    rw [withDate, Date.stamp_of_ofText? read]

/-- Dates and eight digits stand for each other. Eight digits and nothing else are read as a date,
and that date is stamped with them. Every date has a stamp, which is read as the nearest date that
has one of its own. That date is what a file gives back of any draft that the date was put in, and
where eight digits are put, it is they that are stored. -/
theorem dates_are_stamps :
    (∀ octets, (∃ date, Date.ofBytes? octets = some date) ↔
      octets.length = 8 ∧ ∀ b ∈ octets, 0x30 ≤ b.toNat ∧ b.toNat ≤ 0x39) ∧
    (∀ octets date, Date.ofBytes? octets = some date ↔
      Utf8.encode date.stamp = octets ∧ date.clamped = date) ∧
    (∀ date : Date, date.stamp.length = 8 ∧ (∀ c ∈ date.stamp, Decimal.isDigit c) ∧
      Date.ofBytes? (Utf8.encode date.stamp) = some date.clamped) ∧
    (∀ (d : Draft) (date : Date) (file : Bytes), ∃ d' u, d.apply (.date date) = .ok d' ∧
      File.read? (File.attach file d'.finish) = some u ∧ u.date = date.stamp ∧
      (Details.ofRecord u).date = some date.clamped) ∧
    ∀ (d : Draft) (s : Text), d.apply (.stamp s) =
      if s.length = 8 ∧ s.all Decimal.isDigit then
        .ok { d with record := { d.record with date := s } }
      else .error (.notADate s) := by
  refine ⟨fun _ => Date.exists_ofBytes?_iff, fun _ _ => Date.ofBytes?_eq_some_iff,
    fun date => ⟨date.length_stamp, fun _ => Date.isDigit_of_mem_stamp, date.ofBytes?_stamp⟩, ?_,
    apply_stamp⟩
  intro d date file
  have read := File.read?_attach file (d.withDate date).finish
  have same := File.date_of_read?_attach (Slot.allows_stamp date) read
  exact ⟨_, _, rfl, read, same, Details.date_of_stamp same⟩

end Draft

end Textmode.Sauce
