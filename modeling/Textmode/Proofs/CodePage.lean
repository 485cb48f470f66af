import Textmode.Text.ColumnWidth
import Textmode.Proofs.Instructions
import Mathlib.Data.List.Nodup

/-! Art in code page 437. Each octet is a character of its own, and the page has nothing from ASCII
in its upper half. So the escape sequences of art are those of its octets, and it makes no
difference whether they are taken out before or after the octets are read.
-/

set_option autoImplicit false

namespace Textmode

namespace Charset

/-- The upper half of a set that tells all octets apart: as many characters as there are octets,
none of them twice and none from ASCII. -/
structure UpperHalf (high : List Nat) : Prop where
  length : high.length = 128
  beyond : ∀ n ∈ high, 0x80 ≤ n ∧ n.isValidChar
  nodup : high.Nodup

theorem upperHalf_codePage437 : UpperHalf codePage437 where
  length := rfl
  beyond := by decide +kernel
  nodup := by decide +kernel

variable {high : List Nat} {b : UInt8}

theorem toNat_singleByteChar (small : b.toNat < 0x80) :
    (singleByteChar high b).toNat = b.toNat := by
  have low : b < 0x80 := small
  rw [singleByteChar, if_pos low, Utf8.toNat_ofNat_of_valid (.inl (by omega))]

namespace UpperHalf

theorem getElem?_eq (upper : UpperHalf high) (large : 0x80 ≤ b.toNat) :
    high[b.toNat - 0x80]? = some (singleByteChar high b).toNat := by
  have notLow : ¬ b < 0x80 := Nat.not_lt.mpr large
  have inside : b.toNat - 0x80 < high.length := by
    have := b.toNat_lt
    rw [upper.length]
    omega
  have found := List.getElem?_eq_getElem inside
  have valid := (upper.beyond _ (List.mem_of_getElem? found)).2
  rw [singleByteChar, if_neg notLow, found, Option.getD_some, Utf8.toNat_ofNat_of_valid valid]

theorem le_toNat (upper : UpperHalf high) (large : 0x80 ≤ b.toNat) :
    0x80 ≤ (singleByteChar high b).toNat :=
  (upper.beyond _ (List.mem_of_getElem? (upper.getElem?_eq large))).1

theorem injective (upper : UpperHalf high) : Function.Injective (singleByteChar high) := by
  intro b other same
  have codes := congrArg Char.toNat same
  apply UInt8.toNat_inj.mp
  rcases Nat.lt_or_ge b.toNat 0x80 with small | large <;>
    rcases Nat.lt_or_ge other.toNat 0x80 with small' | large'
  · rwa [toNat_singleByteChar small, toNat_singleByteChar small'] at codes
  · rw [toNat_singleByteChar small] at codes
    have := upper.le_toNat large'
    omega
  · rw [toNat_singleByteChar small'] at codes
    have := upper.le_toNat large
    omega
  · -- The character stands in one place of the upper half only.
    have inside : b.toNat - 0x80 < high.length :=
      (List.getElem?_eq_some_iff.mp (upper.getElem?_eq large)).1
    have places := (upper.getElem?_eq large).trans (codes ▸ (upper.getElem?_eq large').symm)
    have := (List.getElem?_inj inside upper.nodup).mp places
    omega

theorem keepsCodes (upper : UpperHalf high) :
    Ansi.KeepsCodes UInt8.toNat Char.toNat (singleByteChar high) := by
  intro b
  rcases Nat.lt_or_ge b.toNat 0x80 with small | large
  · exact .inl (toNat_singleByteChar small)
  · have := upper.le_toNat large
    exact .inr (by omega)

end UpperHalf

end Charset

namespace Ansi

open Charset (decode437)

theorem Factors.bare_map {α β : Type} (letter : α → β) (f : Factors α) :
    (f.map (List.map letter)).first ++ (f.map (List.map letter)).rest.flatMap Prod.snd =
      (f.first ++ f.rest.flatMap Prod.snd).map letter := by
  simp [Factors.map, List.flatMap_map, List.map_flatMap]

/-- Every octet of code page 437 is one character, and no other octets are read as the same text.
Its escape sequences are those of the octets, none of which is beyond ASCII, and those that the
octets of the text in UTF-8 have. What the text shows is what is read from the octets without
them. -/
theorem plainText_decode437 (octets : Bytes) :
    (decode437 octets).length = octets.length ∧
    ColumnWidth.singleByte.measure (decode437 octets) = octets.length ∧
    (∀ other, decode437 other = decode437 octets ↔ other = octets) ∧
    ∃ f : Factors UInt8,
      (∀ g, Factored UInt8.toNat octets g ↔ g = f) ∧
      (∀ part ∈ f.rest, ∀ b ∈ part.1, b.toNat < 0x80) ∧
      Factored Char.toNat (decode437 octets) (f.map decode437) ∧
      Factored UInt8.toNat (Utf8.encode (decode437 octets))
        ((f.map decode437).map Utf8.encode) ∧
      plainText (decode437 octets) = decode437 (f.first ++ f.rest.flatMap Prod.snd) := by
  have upper := Charset.upperHalf_codePage437
  have apart : Function.Injective decode437 := upper.injective.list_map
  have length : (decode437 octets).length = octets.length := List.length_map _
  obtain ⟨parts, ofText⟩ := exists_factored (decode437 octets)
  -- The page keeps the codes that sequences are made of, so the octets come apart as the text does.
  obtain ⟨f, ofOctets, rfl⟩ := ofText.of_map upper.keepsCodes rfl
  refine ⟨length, length, fun other => apart.eq_iff, f, ?_, ?_, ofText, ofText.encode, ?_⟩
  · exact fun g => ⟨fun other => other.unique ofOctets, fun same => same ▸ ofOctets⟩
  · intro part here b member
    have := (ofOctets.isSequence part here).le_of_mem (List.mem_map_of_mem member)
    omega
  · rw [ofText.plainText_eq, Factors.bare_map]
    rfl

end Ansi

end Textmode
