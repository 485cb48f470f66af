import Textmode.Charset.Utf8
import Textmode.Text.ColumnWidth
import Mathlib.Algebra.Ring.Nat

/-! Columns counted in octets. A text is counted at once if its set has all of it, and character
by character if not. Both come to the same sum over its characters, so the columns of texts add up
when they are joined, whichever way each of them is counted.
-/

set_option autoImplicit false

namespace Textmode

namespace Charset

theorem map_congr_of_has {α β : Type} {octets? : Char → Option α} {f g : Char → β} {t : Text}
    (has : ∀ c ∈ t, octets? c ≠ none)
    (same : ∀ c octets, octets? c = some octets → f c = g c) : t.map f = t.map g := by
  apply List.map_congr_left
  intro c member
  obtain ⟨octets, found⟩ := Option.ne_none_iff_exists'.mp (has c member)
  exact same c octets found

/-- An encoder without state between characters: what it counts for a text is counted for its
characters, as far as its set has them all. What it counts for references is left open. -/
structure Counts (encoder : Encoder) (octets? : Char → Option Nat) : Prop where
  lacksSome_iff : ∀ t, (encoder t).lacksSome ↔ ∃ c ∈ t, octets? c = none
  octets_eq : ∀ t, (∀ c ∈ t, octets? c ≠ none) →
    (encoder t).octets = (t.map fun c => (octets? c).getD 0).sum

theorem counts_write (charset : Charset) : Counts charset.write charset.charOctets? where
  lacksSome_iff t := by
    induction t with
    | nil => simp [write]
    | cons c t ih =>
      cases found : charset.charOctets? c <;> simp [write, writeChar, found, ih]
  octets_eq t has := by
    induction t with
    | nil => rfl
    | cons c t ih =>
      obtain ⟨octets, found⟩ := Option.ne_none_iff_exists'.mp (has c List.mem_cons_self)
      rw [write, writeChar, found, ih fun d member => has d (List.mem_cons_of_mem c member),
        List.map_cons, List.sum_cons, found]
      rfl

/-! ## Encoders that write octets -/

/-- An encoder that writes the octets of each character behind those of the one before, and tells
whether its set lacks one. What it writes in that case is left open. -/
structure Stateless (encode : Text → Bytes × Bool) (octets? : Char → Option Bytes) : Prop where
  lacksSome_iff : ∀ t, (encode t).2 ↔ ∃ c ∈ t, octets? c = none
  octets_eq : ∀ t, (∀ c ∈ t, octets? c ≠ none) →
    (encode t).1 = t.flatMap fun c => (octets? c).getD []

def counted (encode : Text → Bytes × Bool) : Encoder := fun t =>
  { octets := (encode t).1.length, lacksSome := (encode t).2 }

theorem Stateless.counts {encode : Text → Bytes × Bool} {octets? : Char → Option Bytes}
    (stateless : Stateless encode octets?) :
    Counts (counted encode) fun c => (octets? c).map List.length where
  lacksSome_iff t := by
    simp only [counted, stateless.lacksSome_iff, Option.map_eq_none_iff]
  octets_eq t has := by
    simp only [ne_eq, Option.map_eq_none_iff] at has
    dsimp only [counted]
    rw [stateless.octets_eq t has, List.length_flatMap]
    refine congrArg List.sum (map_congr_of_has has ?_)
    intro c octets found
    rw [found]
    rfl

def encodeEach (octets? : Char → Option Bytes) (t : Text) : Bytes × Bool :=
  (t.flatMap fun c => (octets? c).getD (Utf8.encode (reference c)),
    t.any fun c => (octets? c).isNone)

theorem stateless_encodeEach (octets? : Char → Option Bytes) :
    Stateless (encodeEach octets?) octets? where
  lacksSome_iff t := by simp [encodeEach]
  octets_eq t has := by
    rw [encodeEach, List.flatMap_def, List.flatMap_def]
    refine congrArg List.flatten (map_congr_of_has has ?_)
    intro c octets found
    rw [found]
    rfl

def singleByteOctets? (high : List Nat) (c : Char) : Option Bytes :=
  if c.toNat < 0x80 then some [UInt8.ofNat c.toNat]
  else (high.idxOf? c.toNat).map fun place => [UInt8.ofNat (0x80 + place)]

end Charset

namespace ColumnWidth

open Charset (Encoder Counts Stateless counted encodeEach singleByteOctets?)

def columnsOf (octets? : Option Nat) (c : Char) : Nat :=
  octets?.getD ((Text.charColumns? c).getD 0)

section Counted

variable {encoder : Encoder} {octets? : Char → Option Nat}

theorem charColumns_eq (counts : Counts encoder octets?) (c : Char) :
    charColumns encoder c = columnsOf (octets? c) c := by
  have lacks : (encoder [c]).lacksSome ↔ octets? c = none := by
    rw [counts.lacksSome_iff]
    simp
  rw [charColumns]
  cases found : octets? c with
  | none =>
    rw [if_pos (lacks.mpr found)]
    rfl
  | some octets =>
    have has : octets? c ≠ none := by simp [found]
    rw [if_neg (mt lacks.mp has), counts.octets_eq [c] (by simpa using has)]
    simp [found, columnsOf]

theorem eachColumns_eq (counts : Counts encoder octets?) (t : Text) :
    eachColumns encoder t = (t.map fun c => columnsOf (octets? c) c).sum := by
  induction t with
  | nil => rfl
  | cons c t ih => rw [eachColumns, charColumns_eq counts, ih, List.map_cons, List.sum_cons]

theorem octetColumns_eq (counts : Counts encoder octets?) (t : Text) :
    octetColumns encoder t = (t.map fun c => columnsOf (octets? c) c).sum := by
  rw [octetColumns]
  -- Character by character if the set lacks one of them, or else all at once.
  split
  · exact eachColumns_eq counts t
  · next whole =>
    have has : ∀ c ∈ t, octets? c ≠ none := fun c member none =>
      whole ((counts.lacksSome_iff t).mpr ⟨c, member, none⟩)
    rw [counts.octets_eq t has]
    refine congrArg List.sum (Charset.map_congr_of_has has ?_)
    intro c octets found
    rw [found]
    rfl

theorem octetColumns_append (counts : Counts encoder octets?) (s t : Text) :
    octetColumns encoder (s ++ t) = octetColumns encoder s + octetColumns encoder t := by
  rw [octetColumns_eq counts, octetColumns_eq counts, octetColumns_eq counts, List.map_append,
    List.sum_append]

end Counted

def encode866 : Text → Bytes × Bool := encodeEach (singleByteOctets? Charset.ibm866High)

/-- The known sets are such encoders, whichever characters they have. -/
theorem measure_encoded_append (charset : Charset) (s t : Text) :
    (encoded charset).measure (s ++ t) =
      (encoded charset).measure s + (encoded charset).measure t :=
  octetColumns_append charset.counts_write s t

end ColumnWidth

end Textmode
