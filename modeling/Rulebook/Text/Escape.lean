/-!
Escape sequences, by which a text tells a terminal what to do. They take no columns. A sequence
begins with the escape character, and what it is made of depends on the characters after that; those
that mean nothing in it are passed over. The one-character introducers are plain characters here.
-/

namespace Rulebook.Text.Escape

def escape : Char := '\x1b'

/-! ## Sequences -/

inductive Progress where
  | begun
  /-- After intermediates, without a bracket. -/
  | intermediate
  /-- After an opening bracket. -/
  | control
  /-- After the parameters of a control sequence. -/
  | controlParameter
  /-- After the intermediates of a control sequence. -/
  | controlIntermediate
  /-- After something that a control sequence cannot hold. -/
  | malformed
  /-- In a command of the operating system, which a bell may end. -/
  | command
  /-- In another string, which an escape sequence ends. -/
  | string
deriving DecidableEq, Repr, Inhabited

def isBetween (first last : Nat) (c : Char) : Bool := first ≤ c.toNat && c.toNat ≤ last

def isIntermediate (c : Char) : Bool := isBetween 0x20 0x2F c

def isParameter (c : Char) : Bool := isBetween 0x30 0x3F c

def isFinal (c : Char) : Bool := isBetween 0x40 0x7E c

def cancels (c : Char) : Bool := c = '\x18' || c = '\x1a'

namespace Progress

/-- The first character after the escape character that is not passed over: none ends the
sequence. -/
def first (c : Char) : Option Progress :=
  if c = '[' then some .control
  else if c = ']' then some .command
  else if c = 'P' || c = 'X' || c = '^' || c = '_' then some .string
  else if isIntermediate c then some .intermediate
  else if isBetween 0x30 0x7E c then none
  else some .begun

def next (progress : Progress) (c : Char) : Option Progress :=
  if c = escape then some .begun
  else if cancels c then none
  else match progress with
    | .begun => first c
    | .intermediate => if isBetween 0x30 0x7E c then none else some .intermediate
    | .control =>
      if isFinal c then none
      else if isParameter c then some .controlParameter
      else if isIntermediate c then some .controlIntermediate
      else some .control
    | .controlParameter =>
      if isFinal c then none
      else if isBetween 0x3C 0x3F c then some .malformed
      else if isIntermediate c then some .controlIntermediate
      else some .controlParameter
    | .controlIntermediate =>
      if isFinal c then none
      else if isParameter c then some .malformed
      else some .controlIntermediate
    | .malformed => if isFinal c then none else some .malformed
    | .command => if c = '\x07' then none else some .command
    | .string => some .string

end Progress

def length? (progress : Progress) : List Char → Option Nat
  | [] => none
  | c :: cs =>
    match progress.next c with
    | none => some 1
    | some next => (length? next cs).map (· + 1)

/-! ## Texts without sequences -/

/-- The characters outside of sequences, when some at the start belong to one and the character
before may be text. A sequence that is not finished takes the rest of a text that it interrupts;
elsewhere it is only the escape character. -/
def outside (interrupts : Bool) : Nat → List Char → List Char
  | _, [] => []
  | n + 1, _ :: cs => outside false n cs
  | 0, c :: cs =>
    if c = escape then
      match length? .begun cs with
      | some n => outside false n cs
      | none => if interrupts then [] else outside false 0 cs
    else c :: outside true 0 cs

def strip (s : String) : String := String.ofList (outside false 0 s.toList)

end Rulebook.Text.Escape
