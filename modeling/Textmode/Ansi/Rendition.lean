import Textmode.Ansi.Instruction
import Textmode.Ansi.Segment
import Textmode.Decimal

/-! Rendition sequences: a bracket, numbers between semicolons, and an `m`. Each number is
an instruction, except that a colour beyond the palette takes several. Every other escape
sequence is an instruction that is not understood. -/

set_option autoImplicit false

namespace Textmode.Ansi

namespace Rendition

def numbersText? : Text → Option Text
  | [] => none
  | c :: t =>
    if c = '[' ∧ t.getLast? = some 'm' ∧ t.dropLast.all (fun c => Decimal.isDigit c || c = ';')
    then some t.dropLast
    else none

def maxNumber : Nat := 65535

/-- The numbers of a sequence. A missing number is a zero; none may be above 65535. -/
def numbers? (written : Text) : Option (List Nat) :=
  if ((written.splitOn ';').map Decimal.value).all (· ≤ maxNumber) then
    some ((written.splitOn ';').map Decimal.value)
  else none

/-- A colour after the number that announces one: `5` and a palette entry, or `2` and three
parts of a mixture. Gives the numbers after it as well. -/
def extended? : List Nat → Option (Color × List Nat)
  | 5 :: code :: rest => if code ≤ 255 then some (.indexed (UInt8.ofNat code), rest) else none
  | 2 :: red :: green :: blue :: rest =>
    if red ≤ 255 ∧ green ≤ 255 ∧ blue ≤ 255 then
      some (.rgb (UInt8.ofNat red) (UInt8.ofNat green) (UInt8.ofNat blue), rest)
    else none
  | _ => none

def single (n : Nat) : Instruction :=
  if 30 ≤ n ∧ n ≤ 37 then .color .foreground (.indexed (UInt8.ofNat (n - 30)))
  else if n = 39 then .color .foreground .default
  else if 40 ≤ n ∧ n ≤ 47 then .color .background (.indexed (UInt8.ofNat (n - 40)))
  else if n = 49 then .color .background .default
  else if 90 ≤ n ∧ n ≤ 97 then .color .foreground (.indexed (UInt8.ofNat (n - 90 + 8)))
  else if 100 ≤ n ∧ n ≤ 107 then .color .background (.indexed (UInt8.ofNat (n - 100 + 8)))
  else .switch (.ofCode n)

def announced? (n : Nat) : Option Role :=
  if n = 38 then some .foreground
  else if n = 48 then some .background
  else if n = 58 then some .underline
  else none

/-- The colour of underlines is read past and not chosen. -/
def choose (n : Nat) (role : Role) (color : Color) : Instruction :=
  if role = .underline then .switch (.other n) else .color role color

theorem extended?_shorter {ns rest : List Nat} {color : Color}
    (h : extended? ns = some (color, rest)) : rest.length < ns.length := by
  unfold extended? at h
  split at h
  · split at h
    · simp only [Option.some.injEq, Prod.mk.injEq] at h
      simp only [← h.2, List.length_cons]
      omega
    · simp at h
  · split at h
    · simp only [Option.some.injEq, Prod.mk.injEq] at h
      simp only [← h.2, List.length_cons]
      omega
    · simp at h
  · simp at h

/-- The instructions of the numbers of a sequence. Where a colour was announced and does
not follow, the announcement is not understood and the numbers after it stand alone. -/
def read : List Nat → List Instruction
  | [] => []
  | n :: rest =>
    match announced? n with
    | none => single n :: read rest
    | some role =>
      match _h : extended? rest with
      | none => .switch (.other n) :: read rest
      | some (color, rest') => choose n role color :: read rest'
termination_by ns => ns.length
decreasing_by
  · simp
  · simp
  · have := extended?_shorter _h
    simp only [List.length_cons]
    omega

end Rendition

def Segment.instructions : Segment → List Instruction
  | run t => [.text t]
  | escape tail =>
    match (Rendition.numbersText? tail).bind Rendition.numbers? with
    | some ns => Rendition.read ns
    | none => [.unhandled (esc :: tail)]

def instructions (t : Text) : List Instruction := (Segment.split t).flatMap Segment.instructions

end Textmode.Ansi
