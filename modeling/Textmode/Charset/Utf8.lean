import Textmode.Charset.Decoder

/-! UTF-8. Reading never fails: the longest start of a sequence that could have been
completed counts as one malformed stretch, and an octet that starts nothing as another. -/

set_option autoImplicit false

namespace Textmode.Utf8

open Charset (Piece Decoder)

def encode (t : Text) : Bytes := t.flatMap String.utf8EncodeChar

def size : Text → Nat
  | [] => 0
  | c :: t => c.utf8Size + size t

theorem length_encode (t : Text) : (encode t).length = size t := by
  induction t with
  | nil => rfl
  | cons c t ih =>
    rw [encode, List.flatMap_cons, List.length_append, String.length_utf8EncodeChar]
    exact congrArg (c.utf8Size + ·) ih

/-- How a sequence goes on after its first octet: by so many octets, the next one of which
lies between two bounds. The bounds keep out overlong forms, surrogates and what is
beyond the last code point. -/
structure Tail where
  count : Nat
  low : Nat
  high : Nat
  deriving Repr, DecidableEq

def Tail.ofLead? (lead : Nat) : Option Tail :=
  if lead < 0xC2 then none
  else if lead < 0xE0 then some ⟨1, 0x80, 0xBF⟩
  else if lead = 0xE0 then some ⟨2, 0xA0, 0xBF⟩
  else if lead = 0xED then some ⟨2, 0x80, 0x9F⟩
  else if lead < 0xF0 then some ⟨2, 0x80, 0xBF⟩
  else if lead = 0xF0 then some ⟨3, 0x90, 0xBF⟩
  else if lead < 0xF4 then some ⟨3, 0x80, 0xBF⟩
  else if lead = 0xF4 then some ⟨3, 0x80, 0x8F⟩
  else none

def follow (low high : Nat) : Nat → Bytes → Nat
  | count + 1, b :: rest =>
    if low ≤ b.toNat ∧ b.toNat ≤ high then follow 0x80 0xBF count rest + 1 else 0
  | _, _ => 0

def assemble (lead : Nat) (tail : Bytes) : Char :=
  Char.ofNat (tail.foldl (fun n b => n * 64 + b.toNat % 64) (lead % (0x40 >>> tail.length)))

def decoder : Decoder := fun lead rest =>
  if lead.toNat < 0x80 then .char (Char.ofNat lead.toNat) 0
  else match Tail.ofLead? lead.toNat with
    | none => .malformed 0
    | some tail =>
      let used := follow tail.low tail.high tail.count rest
      if used = tail.count then .char (assemble lead.toNat (rest.take used)) used
      else .malformed used

def text (bytes : Bytes) : Text := Decoder.text decoder bytes

end Textmode.Utf8
