import Textmode.Charset.Utf8

/-! Strings of JSON: written between double quotes with escapes, and read back.

A string can be read for its text or only passed over. Passing over asks less of it: half
of a surrogate pair stands for no character, but it is well-formed. -/

set_option autoImplicit false

namespace Textmode.Json

/-- The first rule that a text breaks, read from left to right. -/
inductive Fault where
  | endOfText
  | malformed
  /-- Well-formed so far, but not what was asked for. -/
  | wrongShape
  deriving DecidableEq, Repr

inductive Purpose where
  | use
  | pass
  deriving DecidableEq, Repr

def hexDigit (n : Nat) : Char := Char.ofNat (if n < 10 then 0x30 + n else 0x57 + n)

def hexValue? (c : Char) : Option Nat :=
  if '0' ≤ c ∧ c ≤ '9' then some (c.toNat - 0x30)
  else if 'a' ≤ c ∧ c ≤ 'f' then some (c.toNat - 0x57)
  else if 'A' ≤ c ∧ c ≤ 'F' then some (c.toNat - 0x37)
  else none

def escape (c : Char) : Text :=
  if c = '"' then ['\\', '"']
  else if c = '\\' then ['\\', '\\']
  else if c = '\x08' then ['\\', 'b']
  else if c = '\t' then ['\\', 't']
  else if c = '\n' then ['\\', 'n']
  else if c = '\x0c' then ['\\', 'f']
  else if c = '\r' then ['\\', 'r']
  else if c.toNat < 0x20 then
    ['\\', 'u', '0', '0', hexDigit (c.toNat / 16), hexDigit (c.toNat % 16)]
  else [c]

def quote (t : Text) : Text := '"' :: t.flatMap escape ++ ['"']

/-- The number of four hexadecimal digits. Less than four octets are too few for it,
whatever they are. -/
def fourHex : Text → Except Fault (Nat × Text)
  | a :: b :: c :: d :: rest =>
    match hexValue? a, hexValue? b, hexValue? c, hexValue? d with
    | some a, some b, some c, some d => .ok (((a * 16 + b) * 16 + c) * 16 + d, rest)
    | _, _, _, _ => .error .malformed
  | t => .error (if Utf8.size t < 4 then .endOfText else .malformed)

def lowSurrogate (high : Nat) : Text → Except Fault (Text × Text)
  | [] | ['\\'] => .error .endOfText
  | '\\' :: 'u' :: rest =>
    match fourHex rest with
    | .error fault => .error fault
    | .ok (low, rest) =>
      if 0xDC00 ≤ low ∧ low ≤ 0xDFFF then
        .ok ([Char.ofNat (0x10000 + (high - 0xD800) * 0x400 + (low - 0xDC00))], rest)
      else .error .malformed
  | _ => .error .malformed

def unicodeEscape (purpose : Purpose) (t : Text) : Except Fault (Text × Text) :=
  match fourHex t with
  | .error fault => .error fault
  | .ok (n, rest) =>
    if purpose = .pass then .ok ([], rest)
    else if n < 0xD800 ∨ 0xDFFF < n then .ok ([Char.ofNat n], rest)
    else if n < 0xDC00 then lowSurrogate n rest
    else .error .malformed

def unescape (purpose : Purpose) : Text → Except Fault (Text × Text)
  | [] => .error .endOfText
  | '"' :: rest => .ok (['"'], rest)
  | '\\' :: rest => .ok (['\\'], rest)
  | '/' :: rest => .ok (['/'], rest)
  | 'b' :: rest => .ok (['\x08'], rest)
  | 'f' :: rest => .ok (['\x0c'], rest)
  | 'n' :: rest => .ok (['\n'], rest)
  | 'r' :: rest => .ok (['\r'], rest)
  | 't' :: rest => .ok (['\t'], rest)
  | 'u' :: rest => unicodeEscape purpose rest
  | _ => .error .malformed

theorem fourHex_shorter {t rest : Text} {n : Nat} (h : fourHex t = .ok (n, rest)) :
    rest.length < t.length := by
  unfold fourHex at h
  split at h
  · split at h
    · simp only [Except.ok.injEq, Prod.mk.injEq] at h
      simp only [← h.2, List.length_cons]
      omega
    · simp at h
  · simp at h

theorem lowSurrogate_shorter {t cs rest : Text} {high : Nat}
    (h : lowSurrogate high t = .ok (cs, rest)) : rest.length < t.length := by
  unfold lowSurrogate at h
  split at h
  · simp at h
  · simp at h
  · split at h
    · simp at h
    · next eq =>
      have := fourHex_shorter eq
      split at h
      · simp only [Except.ok.injEq, Prod.mk.injEq] at h
        simp only [← h.2, List.length_cons]
        omega
      · simp at h
  · simp at h

theorem unicodeEscape_shorter {purpose : Purpose} {t cs rest : Text}
    (h : unicodeEscape purpose t = .ok (cs, rest)) : rest.length < t.length := by
  unfold unicodeEscape at h
  split at h
  · simp at h
  · next eq =>
    have first := fourHex_shorter eq
    split at h
    · simp only [Except.ok.injEq, Prod.mk.injEq] at h
      exact h.2 ▸ first
    · split at h
      · simp only [Except.ok.injEq, Prod.mk.injEq] at h
        exact h.2 ▸ first
      · split at h
        · exact Nat.lt_trans (lowSurrogate_shorter h) first
        · simp at h

theorem unescape_shorter {purpose : Purpose} {t cs rest : Text}
    (h : unescape purpose t = .ok (cs, rest)) : rest.length < t.length := by
  unfold unescape at h
  split at h
  case h_1 | h_11 => simp at h
  case h_10 => exact Nat.lt_succ_of_lt (unicodeEscape_shorter h)
  all_goals
    simp only [Except.ok.injEq, Prod.mk.injEq] at h
    simp only [← h.2, List.length_cons]
    omega

def unquote (purpose : Purpose) : Text → Except Fault (Text × Text)
  | [] => .error .endOfText
  | '"' :: rest => .ok ([], rest)
  | '\\' :: t =>
    match _h : unescape purpose t with
    | .error fault => .error fault
    | .ok (cs, t) => (unquote purpose t).map fun (more, rest) => (cs ++ more, rest)
  | c :: t =>
    if c.toNat < 0x20 then .error .malformed
    else (unquote purpose t).map fun (more, rest) => (c :: more, rest)
termination_by t => t.length
decreasing_by
  · have := unescape_shorter _h
    simp only [List.length_cons]
    omega
  · simp

theorem unquote_shorter {purpose : Purpose} {t text rest : Text}
    (h : unquote purpose t = .ok (text, rest)) : rest.length < t.length := by
  fun_induction unquote purpose t generalizing text rest with
  | case1 => simp at h
  | case2 tail =>
    simp only [Except.ok.injEq, Prod.mk.injEq] at h
    simp [← h.2]
  | case3 => simp at h
  | case4 t cs t' eq ih =>
    cases found : unquote purpose t' with
    | error fault => simp [found, Except.map] at h
    | ok result =>
      simp only [found, Except.map, Except.ok.injEq, Prod.mk.injEq] at h
      have := ih found
      have := unescape_shorter eq
      simp only [← h.2, List.length_cons]
      omega
  | case5 => simp at h
  | case6 c t _ _ _ ih =>
    cases found : unquote purpose t with
    | error fault => simp [found, Except.map] at h
    | ok result =>
      simp only [found, Except.map, Except.ok.injEq, Prod.mk.injEq] at h
      have := ih found
      simp only [← h.2, List.length_cons]
      omega

end Textmode.Json
