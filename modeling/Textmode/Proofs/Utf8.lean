import Textmode.Charset.Utf8
import Mathlib.Data.List.Basic

/-! What the reader of UTF-8 makes of octets, whether they are well formed or not. Written
text reads as itself in front of anything. A character below 0x80 is read only from the octet
of that number, so malformed octets bring no space, NUL or line feed with them.
-/

set_option autoImplicit false

namespace Textmode.Utf8

open Charset (Piece Decoder replaceMalformed)

theorem encode_append (s t : Text) : encode (s ++ t) = encode s ++ encode t := by
  simp [encode]

theorem encode_cons (c : Char) (t : Text) :
    encode (c :: t) = String.utf8EncodeChar c ++ encode t := rfl

@[simp] theorem encode_singleton (c : Char) : encode [c] = String.utf8EncodeChar c := by
  simp [encode]

@[simp] theorem size_append (s t : Text) : size (s ++ t) = size s + size t := by
  rw [← length_encode, ← length_encode, ← length_encode, encode_append, List.length_append]

theorem text_nil : text [] = [] := by simp [text, Decoder.text, Decoder.run, replaceMalformed]

theorem text_cons (b : UInt8) (rest : Bytes) :
    text (b :: rest) =
      replaceMalformed (decoder b rest).chars ++ text (rest.drop (decoder b rest).used) := by
  simp only [text, Decoder.text, replaceMalformed]
  rw [Decoder.run, List.map_append]

/-! ## Sequences of more than one octet -/

theorem Tail.ofLead?_eq_some {lead : Nat} {tail : Tail} (found : Tail.ofLead? lead = some tail) :
    (0xC2 ≤ lead ∧ lead < 0xE0 ∧ tail.count = 1 ∧ tail.low = 0x80 ∧ tail.high = 0xBF) ∨
    (0xE0 ≤ lead ∧ lead < 0xF0 ∧ tail.count = 2 ∧
      tail.low = (if lead = 0xE0 then 0xA0 else 0x80) ∧
      tail.high = if lead = 0xED then 0x9F else 0xBF) ∨
    (0xF0 ≤ lead ∧ lead < 0xF5 ∧ tail.count = 3 ∧
      tail.low = (if lead = 0xF0 then 0x90 else 0x80) ∧
      tail.high = if lead = 0xF4 then 0x8F else 0xBF) := by
  unfold Tail.ofLead? at found
  repeat' split at found
  all_goals cases found <;> grind

theorem follow_le (low high count : Nat) (octets : Bytes) :
    follow low high count octets ≤ octets.length := by
  induction octets generalizing low high count with
  | nil => cases count <;> simp [follow]
  | cons b rest ih =>
    cases count with
    | zero => simp [follow]
    | succ count =>
      have := ih 0x80 0xBF count
      unfold follow
      split
      · simpa using this
      · simp

theorem follow_eq_succ {low high count : Nat} {octets : Bytes}
    (full : follow low high (count + 1) octets = count + 1) :
    ∃ b rest, octets = b :: rest ∧ low ≤ b.toNat ∧ b.toNat ≤ high ∧
      follow 0x80 0xBF count rest = count := by
  cases octets with
  | nil => simp [follow] at full
  | cons b rest =>
    unfold follow at full
    split at full
    · next within => exact ⟨b, rest, rfl, within.1, within.2, by omega⟩
    · omega

theorem follow_cons {low high count : Nat} {b : UInt8} {rest : Bytes}
    (within : low ≤ b.toNat ∧ b.toNat ≤ high) :
    follow low high (count + 1) (b :: rest) = follow 0x80 0xBF count rest + 1 := by
  rw [follow, if_pos within]

theorem toNat_ofNat_of_valid {n : Nat} (valid : n.isValidChar) : (Char.ofNat n).toNat = n := by
  rw [Char.ofNat, dif_pos valid]
  rfl

theorem le_toNat_assemble {lead : UInt8} {tail : Tail} {octets : Bytes}
    (found : Tail.ofLead? lead.toNat = some tail)
    (full : follow tail.low tail.high tail.count octets = tail.count) :
    0x80 ≤ (assemble lead.toNat (octets.take tail.count)).toNat := by
  obtain ⟨low, high, count, least, most⟩ | ⟨low, high, count, least, most⟩ |
    ⟨low, high, count, least, most⟩ := Tail.ofLead?_eq_some found
  · rw [count] at full ⊢
    obtain ⟨b, rest, rfl, _, _, _⟩ := follow_eq_succ full
    rw [assemble, toNat_ofNat_of_valid] <;> simp [Nat.isValidChar] <;> omega
  · rw [count] at full ⊢
    obtain ⟨b, rest, rfl, bLow, bHigh, full⟩ := follow_eq_succ full
    obtain ⟨c, rest, rfl, _, _, _⟩ := follow_eq_succ full
    have bound := c.toNat_lt
    rw [assemble, toNat_ofNat_of_valid] <;> simp [Nat.isValidChar] <;> grind
  · rw [count] at full ⊢
    obtain ⟨b, rest, rfl, bLow, bHigh, full⟩ := follow_eq_succ full
    obtain ⟨c, rest, rfl, _, _, full⟩ := follow_eq_succ full
    obtain ⟨d, rest, rfl, _, _, _⟩ := follow_eq_succ full
    rw [assemble, toNat_ofNat_of_valid] <;> simp [Nat.isValidChar] <;> grind

/-- The first piece of any octets is one character: that of a single octet below 0x80, or
one from 0x80 on, which also the replacement character is. -/
theorem decoder_cases (b : UInt8) (rest : Bytes) :
    (b.toNat < 0x80 ∧ decoder b rest = .char (Char.ofNat b.toNat) 0) ∨
    ∃ found : Option Char, (decoder b rest).chars = [found] ∧
      (decoder b rest).used ≤ rest.length ∧ 0x80 ≤ (found.getD '\uFFFD').toNat := by
  by_cases small : b.toNat < 0x80
  · exact .inl ⟨small, by rw [decoder, if_pos small]⟩
  · right
    rw [decoder, if_neg small]
    cases found : Tail.ofLead? b.toNat with
    | none => exact ⟨none, rfl, Nat.zero_le _, by decide⟩
    | some tail =>
      have used := follow_le tail.low tail.high tail.count rest
      by_cases full : follow tail.low tail.high tail.count rest = tail.count
      · refine ⟨some (assemble b.toNat (rest.take tail.count)), ?_, ?_, le_toNat_assemble found full⟩
        · simp [full, Piece.char]
        · simpa [full, Piece.char] using full ▸ used
      · exact ⟨none, by simp [full, Piece.malformed], by simpa [full, Piece.malformed] using used,
          by decide⟩

/-- Induction on the pieces of any octets: single octets below 0x80, and stretches that read
as one character from 0x80 on. -/
theorem text_induction {motive : Bytes → Text → Prop} (bytes : Bytes)
    (nil : motive [] [])
    (octet : ∀ b rest, b.toNat < 0x80 → motive rest (text rest) →
      motive (b :: rest) (Char.ofNat b.toNat :: text rest))
    (stretch : ∀ octets c rest, octets ≠ [] → 0x80 ≤ c.toNat → motive rest (text rest) →
      motive (octets ++ rest) (c :: text rest)) :
    motive bytes (text bytes) := by
  match bytes with
  | [] => simpa only [text_nil] using nil
  | b :: rest =>
    rw [text_cons]
    obtain ⟨small, piece⟩ | ⟨found, one, used, large⟩ := decoder_cases b rest
    · rw [piece]
      exact octet b rest small (text_induction rest nil octet stretch)
    · -- The piece takes its octets, and the induction goes on behind them.
      rw [one]
      have split : b :: rest.take (decoder b rest).used ++ rest.drop (decoder b rest).used =
          b :: rest := by simp
      conv => lhs; rw [← split]
      exact stretch _ _ _ (List.cons_ne_nil _ _) large
        (text_induction (rest.drop (decoder b rest).used) nil octet stretch)
termination_by bytes.length
decreasing_by
  all_goals simp only [List.length_cons, List.length_drop]
  all_goals omega

theorem mem_of_mem_text {bytes : Bytes} {c : Char} (read : c ∈ text bytes) (small : c.toNat < 0x80) :
    UInt8.ofNat c.toNat ∈ bytes := by
  induction bytes using text_induction with
  | nil => simp at read
  | octet b rest bound ih =>
    obtain rfl | later := List.mem_cons.mp read
    · rw [toNat_ofNat_of_valid (.inl (by omega)), UInt8.ofNat_toNat]
      exact List.mem_cons_self
    · exact List.mem_cons_of_mem b (ih later)
  | stretch octets d rest nonempty large ih =>
    obtain rfl | later := List.mem_cons.mp read
    · omega
    · exact List.mem_append_right octets (ih later)

theorem text_eq_nil_iff {bytes : Bytes} : text bytes = [] ↔ bytes = [] := by
  constructor
  · intro empty
    cases bytes with
    | nil => rfl
    | cons b rest =>
      rw [text_cons] at empty
      obtain ⟨_, piece⟩ | ⟨found, one, _⟩ := decoder_cases b rest
      · simp [piece, Piece.char, replaceMalformed] at empty
      · simp [one, replaceMalformed] at empty
  · rintro rfl
    exact text_nil

theorem getLast?_eq_of_getLast?_text {bytes : Bytes} {c : Char}
    (last : (text bytes).getLast? = some c) (small : c.toNat < 0x80) :
    bytes.getLast? = some (UInt8.ofNat c.toNat) := by
  induction bytes using text_induction with
  | nil => simp at last
  | octet b rest bound ih =>
    cases more : (text rest).getLast? with
    | some d =>
      rw [List.getLast?_cons, more, Option.getD_some] at last
      rw [List.getLast?_cons, ih (more.trans last), Option.getD_some]
    | none =>
      have rest_nil : rest = [] := text_eq_nil_iff.mp (List.getLast?_eq_none_iff.mp more)
      rw [List.getLast?_cons, more, Option.getD_none, Option.some.injEq] at last
      subst last rest_nil
      rw [toNat_ofNat_of_valid (.inl (by omega)), UInt8.ofNat_toNat, List.getLast?_singleton]
  | stretch octets d rest nonempty large ih =>
    cases more : (text rest).getLast? with
    | some e =>
      rw [List.getLast?_cons, more, Option.getD_some] at last
      rw [List.getLast?_append, ih (more.trans last), Option.some_or]
    | none =>
      -- The stretch would be last, but it does not read as a character of one octet.
      rw [List.getLast?_cons, more, Option.getD_none, Option.some.injEq] at last
      subst last
      omega

/-! ## Written text -/

theorem decoder_of_follow {lead : UInt8} {tail : Tail} {octets rest : Bytes}
    (large : 0x80 ≤ lead.toNat) (found : Tail.ofLead? lead.toNat = some tail)
    (whole : octets.length = tail.count)
    (full : follow tail.low tail.high tail.count (octets ++ rest) = tail.count) :
    decoder lead (octets ++ rest) = .char (assemble lead.toNat octets) octets.length := by
  rw [decoder, if_neg (Nat.not_lt.mpr large), found]
  simp only [full, if_true]
  rw [← whole, List.take_left]

theorem Tail.ofLead?_two {lead : Nat} (least : 0xC2 ≤ lead) (most : lead < 0xE0) :
    Tail.ofLead? lead = some ⟨1, 0x80, 0xBF⟩ := by
  rw [Tail.ofLead?, if_neg (by omega), if_pos most]

theorem Tail.ofLead?_three {lead : Nat} (least : 0xE0 ≤ lead) (most : lead < 0xF0) :
    Tail.ofLead? lead = some
      ⟨2, if lead = 0xE0 then 0xA0 else 0x80, if lead = 0xED then 0x9F else 0xBF⟩ := by
  unfold Tail.ofLead?
  grind

theorem Tail.ofLead?_four {lead : Nat} (least : 0xF0 ≤ lead) (most : lead < 0xF5) :
    Tail.ofLead? lead = some
      ⟨3, if lead = 0xF0 then 0x90 else 0x80, if lead = 0xF4 then 0x8F else 0xBF⟩ := by
  unfold Tail.ofLead?
  grind

theorem toNat_ofNat_of_lt {n : Nat} (small : n < 256) : (UInt8.ofNat n).toNat = n := by
  simpa using small

theorem decoder_utf8EncodeChar (c : Char) :
    ∃ lead octets, String.utf8EncodeChar c = lead :: octets ∧
      ∀ rest, decoder lead (octets ++ rest) = .char c octets.length := by
  have valid : c.toNat.isValidChar := c.valid
  have back : Char.ofNat c.toNat = c := Char.ofNat_toNat c
  unfold String.utf8EncodeChar
  simp only [Char.toNat_val]
  generalize c.toNat = n at valid back
  subst back
  unfold Nat.isValidChar at valid
  have last := toNat_ofNat_of_lt (n := n % 64 + 128) (by omega)
  have third := toNat_ofNat_of_lt (n := n / 64 % 64 + 128) (by omega)
  have second := toNat_ofNat_of_lt (n := n / 4096 % 64 + 128) (by omega)
  -- One to four octets, by the size of the code. All but the first carry six of its bits.
  split
  · refine ⟨_, _, rfl, fun rest => ?_⟩
    rw [decoder, toNat_ofNat_of_lt (by omega), if_pos (by omega)]
    rfl
  split
  · refine ⟨_, _, rfl, fun rest => ?_⟩
    have lead := toNat_ofNat_of_lt (n := n / 64 % 32 + 192) (by omega)
    rw [decoder_of_follow (by omega) (Tail.ofLead?_two (by omega) (by omega)) rfl]
    · refine congrArg (Piece.char · _) (congrArg Char.ofNat ?_)
      simp only [lead, last, List.foldl_cons, List.foldl_nil, List.length_singleton,
        Nat.reduceShiftRight]
      omega
    · rw [List.singleton_append, follow_cons (by dsimp only; omega)]
      rfl
  split
  · refine ⟨_, _, rfl, fun rest => ?_⟩
    have lead := toNat_ofNat_of_lt (n := n / 4096 % 16 + 224) (by omega)
    rw [decoder_of_follow (by omega) (Tail.ofLead?_three (by omega) (by omega)) rfl]
    · refine congrArg (Piece.char · _) (congrArg Char.ofNat ?_)
      simp only [lead, third, last, List.foldl_cons, List.foldl_nil, List.length_cons,
        List.length_nil, Nat.reduceAdd, Nat.reduceShiftRight]
      omega
    · rw [List.cons_append, follow_cons (by grind), List.singleton_append, follow_cons (by omega)]
      rfl
  · refine ⟨_, _, rfl, fun rest => ?_⟩
    have lead := toNat_ofNat_of_lt (n := n / 262144 % 8 + 240) (by omega)
    rw [decoder_of_follow (by omega) (Tail.ofLead?_four (by omega) (by omega)) rfl]
    · refine congrArg (Piece.char · _) (congrArg Char.ofNat ?_)
      simp only [lead, second, third, last, List.foldl_cons, List.foldl_nil, List.length_cons,
        List.length_nil, Nat.reduceAdd, Nat.reduceShiftRight]
      omega
    · rw [List.cons_append, follow_cons (by grind), List.cons_append, follow_cons (by omega),
        List.singleton_append, follow_cons (by omega)]
      rfl

/-- An octet below 0x80 among a character's octets is all of them. -/
theorem utf8EncodeChar_eq_of_mem {c : Char} {b : UInt8} (member : b ∈ String.utf8EncodeChar c)
    (small : b.toNat < 0x80) : String.utf8EncodeChar c = [b] ∧ c = Char.ofNat b.toNat := by
  unfold String.utf8EncodeChar at member ⊢
  simp only [Char.toNat_val] at member ⊢
  split at member
  · next one =>
    rw [List.mem_singleton] at member
    subst member
    rw [if_pos one, toNat_ofNat_of_lt (by omega), Char.ofNat_toNat]
    exact ⟨rfl, rfl⟩
  -- Every longer sequence has only octets from 0x80 on.
  all_goals
    repeat' split at member
    all_goals
      simp only [List.mem_cons, List.not_mem_nil, or_false] at member
      rcases member with rfl | rfl | rfl | rfl
    all_goals
      rw [toNat_ofNat_of_lt (by omega)] at small
      omega

theorem utf8EncodeChar_ofNat {b : UInt8} (small : b.toNat < 0x80) :
    String.utf8EncodeChar (Char.ofNat b.toNat) = [b] := by
  have code := toNat_ofNat_of_valid (n := b.toNat) (.inl (by omega))
  rw [String.utf8EncodeChar, Char.toNat_val, code, if_pos (by omega), UInt8.ofNat_toNat]

theorem mem_of_mem_encode {t : Text} {b : UInt8} (member : b ∈ encode t) (small : b.toNat < 0x80) :
    Char.ofNat b.toNat ∈ t := by
  obtain ⟨c, here, octet⟩ := List.mem_flatMap.mp member
  exact (utf8EncodeChar_eq_of_mem octet small).2 ▸ here

theorem encode_eq_replicate_iff {t : Text} {b : UInt8} (small : b.toNat < 0x80) :
    encode t = List.replicate (size t) b ↔ ∀ c ∈ t, c = Char.ofNat b.toNat := by
  rw [List.eq_replicate_iff, length_encode]
  constructor
  · rintro ⟨_, filling⟩ c member
    obtain ⟨octet, here⟩ := List.exists_mem_of_ne_nil _ (String.utf8EncodeChar_ne_nil (c := c))
    obtain rfl := filling octet (List.mem_flatMap.mpr ⟨c, member, here⟩)
    exact (utf8EncodeChar_eq_of_mem here small).2
  · intro filling
    refine ⟨rfl, ?_⟩
    intro octet member
    obtain ⟨c, here, inside⟩ := List.mem_flatMap.mp member
    rw [filling c here, utf8EncodeChar_ofNat small] at inside
    exact List.mem_singleton.mp inside

/-! ## Octets below 0x80 -/

theorem encode_map_ofNat {octets : Bytes} (small : ∀ b ∈ octets, b.toNat < 0x80) :
    encode (octets.map fun b => Char.ofNat b.toNat) = octets := by
  induction octets with
  | nil => rfl
  | cons b octets ih =>
    rw [List.map_cons, encode_cons, utf8EncodeChar_ofNat (small b List.mem_cons_self),
      List.singleton_append, ih fun c member => small c (List.mem_cons_of_mem b member)]

theorem utf8EncodeChar_of_small {c : Char} (small : c.toNat < 0x80) :
    String.utf8EncodeChar c = [UInt8.ofNat c.toNat] := by
  rw [String.utf8EncodeChar, Char.toNat_val, if_pos (by omega)]

theorem encode_of_small {t : Text} (small : ∀ c ∈ t, c.toNat < 0x80) :
    encode t = t.map fun c => UInt8.ofNat c.toNat := by
  induction t with
  | nil => rfl
  | cons c t ih =>
    rw [encode_cons, utf8EncodeChar_of_small (small c List.mem_cons_self), List.singleton_append,
      List.map_cons, ih fun d member => small d (List.mem_cons_of_mem c member)]

theorem map_toNat_encode {t : Text} (small : ∀ c ∈ t, c.toNat < 0x80) :
    (encode t).map UInt8.toNat = t.map Char.toNat := by
  rw [encode_of_small small, List.map_map]
  apply List.map_congr_left
  intro c member
  have := small c member
  exact toNat_ofNat_of_lt (by omega)

theorem size_eq_length {t : Text} (small : ∀ c ∈ t, c.toNat < 0x80) : size t = t.length := by
  rw [← length_encode, ← List.length_map UInt8.toNat, map_toNat_encode small, List.length_map]

/-- Octets below 0x80 in front of a text are characters in front of it. -/
theorem exists_isPrefix_of_small {octets : Bytes} {t : Text} (front : octets <+: encode t)
    (small : ∀ b ∈ octets, b.toNat < 0x80) :
    ∃ s, s <+: t ∧ encode s = octets ∧ ∀ c ∈ s, c.toNat < 0x80 := by
  induction octets generalizing t with
  | nil => exact ⟨[], List.nil_prefix, rfl, fun c member => absurd member List.not_mem_nil⟩
  | cons b octets ih =>
    cases t with
    | nil => exact absurd (List.prefix_nil.mp front) (List.cons_ne_nil b octets)
    | cons c t =>
      obtain ⟨lead, more, written⟩ := List.exists_cons_of_ne_nil
        (String.utf8EncodeChar_ne_nil (c := c))
      have one := small b List.mem_cons_self
      rw [encode_cons, written, List.cons_append, List.cons_prefix_cons] at front
      obtain ⟨rfl, later⟩ := front
      obtain ⟨alone, same⟩ := utf8EncodeChar_eq_of_mem (written ▸ List.mem_cons_self) one
      obtain rfl := (List.cons.inj (written.symm.trans alone)).2
      obtain ⟨s, before, rfl, low⟩ := ih later fun d member =>
        small d (List.mem_cons_of_mem b member)
      refine ⟨c :: s, (List.cons_prefix_cons).mpr ⟨rfl, before⟩, ?_, ?_⟩
      · rw [encode_cons, alone, List.singleton_append]
      · intro d member
        rcases List.mem_cons.mp member with rfl | inside
        · rw [same, toNat_ofNat_of_valid (.inl (by omega))]
          exact one
        · exact low d inside

/-! ## Reading what was written -/

theorem text_encode_append (t : Text) (rest : Bytes) : text (encode t ++ rest) = t ++ text rest := by
  induction t with
  | nil => rfl
  | cons c t ih =>
    obtain ⟨lead, octets, written, read⟩ := decoder_utf8EncodeChar c
    rw [encode_cons, written, List.append_assoc, List.cons_append, text_cons, read]
    simp only [Piece.char, replaceMalformed, List.drop_left, ih, List.map_cons, List.map_nil,
      Option.getD_some, List.cons_append, List.nil_append]

@[simp] theorem text_encode (t : Text) : text (encode t) = t := by
  simpa [text_nil] using text_encode_append t []

end Textmode.Utf8
