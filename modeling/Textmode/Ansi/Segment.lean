import Textmode.Text.Blank

/-! Art text in segments: runs of plain text and the escape sequences between them. A
sequence takes as much as it can, but never a character that could not belong to it, so an
unfinished one ends where the next thing begins. -/

set_option autoImplicit false

namespace Textmode.Ansi

def esc : Char := '\x1b'

def codeIn (low high : Nat) (c : Char) : Bool := low ≤ c.toNat && c.toNat ≤ high

def isPlain (c : Char) : Bool := c ≠ esc

/-- Parameters and intermediate characters of a control sequence. -/
def isParameter (c : Char) : Bool := codeIn 0x20 0x3F c

def isFinal (c : Char) : Bool := codeIn 0x40 0x7E c

def isSingle (c : Char) : Bool := codeIn 0x20 0x7E c

/-- What of the text belongs to an escape sequence whose escape character stands in front
of it, and what does not. -/
def splitTail : Text → Text × Text
  | [] => ([], [])
  | c :: t =>
    if c = '[' then
      match t.dropWhile isParameter with
      | [] => ('[' :: t.takeWhile isParameter, [])
      | f :: rest =>
        if isFinal f then ('[' :: t.takeWhile isParameter ++ [f], rest)
        else ('[' :: t.takeWhile isParameter, f :: rest)
    else if isSingle c then ([c], t)
    else ([], c :: t)

theorem splitTail_append (t : Text) : (splitTail t).1 ++ (splitTail t).2 = t := by
  unfold splitTail
  split
  · rfl
  · next c t =>
    have whole := List.takeWhile_append_dropWhile (p := isParameter) (l := t)
    split
    · next bracket =>
      split
      · next h => simpa [bracket, h] using whole
      · next h =>
        rw [h] at whole
        split <;> simp [bracket, whole]
    · split <;> simp

inductive Segment where
  | run (t : Text)
  /-- An escape sequence, without its escape character. -/
  | escape (tail : Text)
  deriving DecidableEq, Repr

namespace Segment

def text : Segment → Text
  | run t => t
  | escape tail => esc :: tail

def split : Text → List Segment
  | [] => []
  | c :: t =>
    if c = esc then escape (splitTail t).1 :: split (splitTail t).2
    else run (c :: t.takeWhile isPlain) :: split (t.dropWhile isPlain)
termination_by t => t.length
decreasing_by
  · have := congrArg List.length (splitTail_append t)
    simp only [List.length_append] at this
    simp only [List.length_cons]
    omega
  · have := (List.dropWhile_suffix (l := t) isPlain).length_le
    simp only [List.length_cons]
    omega

theorem flatMap_text_split (t : Text) : (split t).flatMap text = t := by
  fun_induction split t with
  | case1 => rfl
  | case2 t ih => simp [ih, text, splitTail_append]
  | case3 c t _ ih => simp [text, ih, List.takeWhile_append_dropWhile]

end Segment

end Textmode.Ansi
