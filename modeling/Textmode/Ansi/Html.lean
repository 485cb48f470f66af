import Textmode.Ansi.Pen

/-! Art as HTML. Each run of text becomes a run of HTML in the style of the pen it was
shown with. Words that blink are marked one by one, so that the blanks between them stay
still. -/

set_option autoImplicit false

namespace Textmode.Ansi.Html

def entity (c : Char) : Text :=
  if c = '&' then ['&', 'a', 'm', 'p', ';']
  else if c = '<' then ['&', 'l', 't', ';']
  else if c = '>' then ['&', 'g', 't', ';']
  else if c = '"' then ['&', 'q', 'u', 'o', 't', ';']
  else if c = '\'' then ['&', '#', 'x', '2', '7', ';']
  else [c]

def escape (t : Text) : Text := t.flatMap entity

inductive Piece where
  | still (t : Text)
  | blinking (t : Text)
  deriving DecidableEq, Repr

structure Run where
  style : List Property
  pieces : List Piece
  deriving DecidableEq, Repr

/-- A space alone ends a word; other blanks can stand within one. -/
def isWord (c : Char) : Bool := c ≠ ' '

def stretches : Text → List Text
  | [] => []
  | c :: t =>
    if Text.isBlank c then
      (c :: t.takeWhile Text.isBlank) :: stretches (t.dropWhile Text.isBlank)
    else (c :: t.takeWhile isWord) :: stretches (t.dropWhile isWord)
termination_by t => t.length
decreasing_by
  · have := (List.dropWhile_suffix (l := t) Text.isBlank).length_le
    simp only [List.length_cons]
    omega
  · have := (List.dropWhile_suffix (l := t) isWord).length_le
    simp only [List.length_cons]
    omega

def Piece.ofStretch (t : Text) : Piece := if t.all Text.isBlank then still t else blinking t

def Run.of (pen : Pen) (t : Text) : Run where
  style := pen.style
  pieces := if pen.blink then (stretches t).map Piece.ofStretch else [.still t]

def runs (pen : Pen) : List Instruction → Except RoleError (List Run)
  | [] => .ok []
  | i :: is => do
    let next ← pen.apply i
    let more ← runs next is
    match i with
    | .text t => return Run.of pen t :: more
    | _ => return more

def Piece.toHtml : Piece → Text
  | still t => escape t
  | blinking t => "<span class='blink'>".toList ++ escape t ++ "</span>".toList

def Run.toHtml (run : Run) : Text :=
  if run.style = [] then run.pieces.flatMap Piece.toHtml
  else
    "<span style='".toList ++ styleText run.style ++ "'>".toList ++
      run.pieces.flatMap Piece.toHtml ++ "</span>".toList

def render (is : List Instruction) : Except RoleError Text :=
  (runs {} is).map (·.flatMap Run.toHtml)

/-- The notices of all instructions that are followed before one that cannot be. -/
def renderNotices (is : List Instruction) : List Notice :=
  (is.takeWhile Instruction.isPaintable).filterMap Instruction.notice?

end Textmode.Ansi.Html
