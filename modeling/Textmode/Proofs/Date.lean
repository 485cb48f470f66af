import Textmode.Sauce.Date
import Textmode.Proofs.Decimal

/-! Dates made of digits. A date is stamped in eight of them, whatever year, month and day it has,
and one that was read from eight digits is stamped with them.
-/

set_option autoImplicit false

namespace Textmode

namespace Sauce.Date

theorem length_stamp (date : Date) : date.stamp.length = 8 := by
  have year : (Decimal.padded 4 (min date.year.toNat 9999)).length = 4 :=
    Decimal.length_padded (by decide) (by omega)
  have pair (n : UInt8) : (Decimal.padded 2 (min n.toNat 99)).length = 2 :=
    Decimal.length_padded (by decide) (by omega)
  rw [stamp, List.length_append, List.length_append, year, pair, pair]

theorem isDigit_of_mem_stamp {date : Date} {c : Char} (member : c ∈ date.stamp) :
    Decimal.isDigit c := by
  rw [stamp, List.mem_append, List.mem_append] at member
  rcases member with (year | month) | day
  · exact Decimal.isDigit_of_mem_padded year
  · exact Decimal.isDigit_of_mem_padded month
  · exact Decimal.isDigit_of_mem_padded day

theorem length_encode_stamp (date : Date) : (Utf8.encode date.stamp).length = 8 := by
  rw [Utf8.length_encode, Decimal.size_of_isDigit fun _ => isDigit_of_mem_stamp, length_stamp]

theorem isDigitOctet_iff {b : UInt8} : isDigitOctet b ↔ 0x30 ≤ b.toNat ∧ b.toNat ≤ 0x39 := by
  simp [isDigitOctet, UInt8.le_iff_toNat_le]

theorem number_concat (octets : Bytes) (b : UInt8) :
    number (octets ++ [b]) = 10 * number octets + (b.toNat - 0x30) := by
  rw [number, List.foldl_append]
  rfl

theorem padded_number {octets : Bytes} (some : octets ≠ [])
    (digits : ∀ b ∈ octets, isDigitOctet b) :
    Decimal.padded octets.length (number octets) = octets.map fun b => Char.ofNat b.toNat := by
  -- From the end, where one more octet is one more place.
  induction octets using List.reverseRecOn with
  | nil => exact absurd rfl some
  | append_singleton octets b ih =>
    have last : Decimal.digit (b.toNat - 0x30) = Char.ofNat b.toNat := by
      obtain ⟨low, high⟩ := isDigitOctet_iff.mp (digits b (by simp))
      rw [Decimal.digit, Nat.mod_eq_of_lt (by omega)]
      congr 1
      change 0x30 + (b.toNat - 0x30) = b.toNat
      omega
    have small : b.toNat - 0x30 < 10 := by
      obtain ⟨low, high⟩ := isDigitOctet_iff.mp (digits b (by simp))
      omega
    rw [number_concat, List.length_append, List.length_singleton, List.map_append, List.map_cons,
      List.map_nil]
    by_cases first : octets = []
    · subst first
      rw [List.length_nil, Nat.zero_add, number, List.foldl_nil, Nat.mul_zero, Nat.zero_add,
        Decimal.padded, Decimal.digits, if_pos small, last]
      rfl
    · rw [Decimal.padded_succ (List.length_pos_of_ne_nil first) small,
        ih first fun b member => digits b (List.mem_append_left _ member), last]

theorem number_lt {octets : Bytes} (digits : ∀ b ∈ octets, isDigitOctet b) :
    number octets < 10 ^ octets.length := by
  induction octets using List.reverseRecOn with
  | nil => decide
  | append_singleton octets b ih =>
    have front := ih fun b member => digits b (List.mem_append_left _ member)
    obtain ⟨low, high⟩ := isDigitOctet_iff.mp (digits b (by simp))
    rw [number_concat, List.length_append, List.length_singleton, Nat.pow_succ]
    omega

/-- A date that was read from eight digits is stamped with them. -/
theorem stamp_of_ofBytes? {octets : Bytes} {date : Date} (read : ofBytes? octets = some date) :
    octets.all isDigitOctet ∧ date.stamp = octets.map fun b => Char.ofNat b.toNat := by
  rw [ofBytes?] at read
  split at read
  · next valid =>
    obtain ⟨eight, all⟩ := valid
    cases read
    refine ⟨all, ?_⟩
    have digits (offset width : Nat) : ∀ b ∈ slice offset width octets, isDigitOctet b :=
      fun b member => List.all_eq_true.mp all b
        (List.mem_of_mem_drop (List.mem_of_mem_take member))
    have places (offset width : Nat) (inside : offset + width ≤ 8) :
        (slice offset width octets).length = width := length_slice (eight ▸ inside)
    have part (offset width : Nat) (inside : offset + width ≤ 8) (some : 0 < width) :
        Decimal.padded width (number (slice offset width octets)) =
          (slice offset width octets).map fun b => Char.ofNat b.toNat := by
      have filled : slice offset width octets ≠ [] :=
        List.ne_nil_of_length_pos ((places offset width inside).symm ▸ some)
      have read := padded_number filled (digits offset width)
      rwa [places offset width inside] at read
    have year := number_lt (digits 0 4)
    have month := number_lt (digits 4 2)
    have day := number_lt (digits 6 2)
    rw [places 0 4 (by decide)] at year
    rw [places 4 2 (by decide)] at month
    rw [places 6 2 (by decide)] at day
    -- No part is cut, as none has more digits than its place.
    rw [stamp, Int.toNat_natCast, Utf8.toNat_ofNat_of_lt (by omega),
      Utf8.toNat_ofNat_of_lt (by omega), Nat.min_eq_left (by omega), Nat.min_eq_left (by omega),
      Nat.min_eq_left (by omega), part 0 4 (by decide) (by decide), part 4 2 (by decide) (by decide),
      part 6 2 (by decide) (by decide), ← List.map_append, ← List.map_append, slice_append_slice,
      slice_append_slice, slice_self eight]
  · cases read

theorem encode_stamp_of_ofBytes? {octets : Bytes} {date : Date}
    (read : ofBytes? octets = some date) : Utf8.encode date.stamp = octets := by
  obtain ⟨all, same⟩ := stamp_of_ofBytes? read
  rw [same]
  apply Utf8.encode_map_ofNat
  intro b member
  have := isDigitOctet_iff.mp (List.all_eq_true.mp all b member)
  omega

theorem stamp_of_ofText? {t : Text} {date : Date} (read : ofText? t = some date) :
    date.stamp = t := by
  have same := congrArg Utf8.text (encode_stamp_of_ofBytes? read)
  rwa [Utf8.text_encode, Utf8.text_encode] at same

/-! ## Stamps that are read -/

theorem isDigitOctet_of_mem_encode {t : Text} (digits : ∀ c ∈ t, Decimal.isDigit c) {b : UInt8}
    (member : b ∈ Utf8.encode t) : isDigitOctet b := by
  rw [Decimal.encode_of_isDigit digits] at member
  obtain ⟨c, here, rfl⟩ := List.mem_map.mp member
  obtain ⟨low, high⟩ := Decimal.toNat_of_isDigit (digits c here)
  rw [isDigitOctet_iff, Utf8.toNat_ofNat_of_lt (by omega)]
  exact ⟨low, high⟩

theorem number_encode {t : Text} (digits : ∀ c ∈ t, Decimal.isDigit c) :
    number (Utf8.encode t) = Decimal.value t := by
  rw [Decimal.encode_of_isDigit digits]
  induction t using List.reverseRecOn with
  | nil => rfl
  | append_singleton t c ih =>
    obtain ⟨low, high⟩ := Decimal.toNat_of_isDigit (digits c (by simp))
    have front := ih fun d member => digits d (List.mem_append_left [c] member)
    rw [List.map_append, List.map_singleton, number_concat, front,
      Decimal.value_append_singleton, Utf8.toNat_ofNat_of_lt (by omega)]
    rfl

theorem number_encode_padded (places n : Nat) :
    number (Utf8.encode (Decimal.padded places n)) = n := by
  rw [number_encode fun _ => Decimal.isDigit_of_mem_padded, Decimal.value_padded]

theorem length_encode_padded {places n : Nat} (some : 0 < places) (fits : n < 10 ^ places) :
    (Utf8.encode (Decimal.padded places n)).length = places := by
  rw [Utf8.length_encode, Decimal.size_of_isDigit fun _ => Decimal.isDigit_of_mem_padded,
    Decimal.length_padded some fits]

/-- The date that is nearest in each part and has no more digits than a stamp. -/
def clamped (date : Date) : Date where
  year := max 0 (min date.year 9999)
  month := min date.month 99
  day := min date.day 99

theorem exists_ofBytes?_iff {octets : Bytes} : (∃ date, ofBytes? octets = some date) ↔
    octets.length = 8 ∧ ∀ b ∈ octets, 0x30 ≤ b.toNat ∧ b.toNat ≤ 0x39 := by
  have digits : octets.all isDigitOctet ↔ ∀ b ∈ octets, 0x30 ≤ b.toNat ∧ b.toNat ≤ 0x39 := by
    simp only [List.all_eq_true, isDigitOctet_iff]
  rw [← digits, ofBytes?]
  split
  · next valid => exact ⟨fun _ => valid, fun _ => ⟨_, rfl⟩⟩
  · next invalid =>
    constructor
    · rintro ⟨_, none⟩
      cases none
    · exact fun valid => absurd valid invalid

theorem encode_stamp (date : Date) : Utf8.encode date.stamp =
    Utf8.encode (Decimal.padded 4 (min date.year.toNat 9999)) ++
      (Utf8.encode (Decimal.padded 2 (min date.month.toNat 99)) ++
        Utf8.encode (Decimal.padded 2 (min date.day.toNat 99))) := by
  rw [stamp, Utf8.encode_append, Utf8.encode_append, List.append_assoc]

theorem ofBytes?_stamp (date : Date) : ofBytes? (Utf8.encode date.stamp) = some date.clamped := by
  have digits : (Utf8.encode date.stamp).all isDigitOctet := by
    rw [List.all_eq_true]
    exact fun b => isDigitOctet_of_mem_encode fun _ => isDigit_of_mem_stamp
  have year : (Utf8.encode (Decimal.padded 4 (min date.year.toNat 9999))).length = 4 :=
    length_encode_padded (by decide) (by omega)
  have pair (n : UInt8) : (Utf8.encode (Decimal.padded 2 (min n.toNat 99))).length = 2 :=
    length_encode_padded (by decide) (by omega)
  have nearest : ((min date.year.toNat 9999 : Nat) : Int) = max 0 (min date.year 9999) := by omega
  have least (n : UInt8) : UInt8.ofNat (min n.toNat 99) = min n 99 := by
    rw [← UInt8.toNat_inj, Utf8.toNat_ofNat_of_lt (by omega), UInt8.toNat_min]
    rfl
  rw [ofBytes?, if_pos ⟨date.length_encode_stamp, digits⟩, encode_stamp]
  -- Each part is found in its place, whatever the others are.
  rw [slice_append_left year, slice_append_right year.le, year, slice_append_left (pair _),
    slice_append_right (year.trans_le (by decide)), year, slice_append_right (pair _).le, pair,
    slice_self (pair _), number_encode_padded, number_encode_padded, number_encode_padded, nearest,
    least, least, clamped]

theorem ofBytes?_eq_some_iff {octets : Bytes} {date : Date} :
    ofBytes? octets = some date ↔ Utf8.encode date.stamp = octets ∧ date.clamped = date := by
  constructor
  · intro read
    have stamped := encode_stamp_of_ofBytes? read
    rw [← stamped, ofBytes?_stamp] at read
    exact ⟨stamped, Option.some.inj read⟩
  · rintro ⟨rfl, whole⟩
    rw [ofBytes?_stamp, whole]

theorem exists_ofText?_iff {t : Text} :
    (∃ date, ofText? t = some date) ↔ t.length = 8 ∧ t.all Decimal.isDigit := by
  rw [List.all_eq_true]
  constructor
  · rintro ⟨date, read⟩
    rw [← stamp_of_ofText? read]
    exact ⟨date.length_stamp, fun _ => isDigit_of_mem_stamp⟩
  · rintro ⟨eight, digits⟩
    apply exists_ofBytes?_iff.mpr
    rw [Utf8.length_encode, Decimal.size_of_isDigit digits]
    exact ⟨eight, fun b member => isDigitOctet_iff.mp (isDigitOctet_of_mem_encode digits member)⟩

end Sauce.Date

end Textmode
