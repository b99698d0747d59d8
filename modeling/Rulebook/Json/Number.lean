import Rulebook.Json.Tree
import Rulebook.Number.Shortest

/-!
JSON numbers. A number without fraction and exponent that fits 64 bits is an integer; every other
one is a 64-bit floating-point number, also `-0`. A number beyond the largest one is refused.

A floating-point number is read in three steps: its digits are gathered in an integer of 64 bits,
those that no longer fit being dropped; the integer is rounded to the format; and the result is
multiplied by, or divided by, the power of ten that is left, each step rounding once.
-/

namespace Rulebook.Json

inductive Number where
  | integer (n : Int)
  | real (x : Binary64)
deriving DecidableEq, Repr, Inhabited

/-! ## Reading -/

def greatestInteger : Nat := Nat.pow 2 64 - 1

/-- The least integer is the negative of this. -/
def greatestNegated : Nat := Nat.pow 2 63

/-- The greatest exponent that is read as it stands. -/
def greatestExponent : Nat := Nat.pow 2 31 - 1

def natOfDigits (digits : List Nat) : Nat := digits.foldl (fun n d => 10 * n + d) 0

/-- Gathers digits before the point: the number gathered and how many digits did not fit. -/
def gatherWhole (n : Nat) : List Nat → Nat × Nat
  | [] => (n, 0)
  | d :: rest =>
    if 10 * n + d ≤ greatestInteger then gatherWhole (10 * n + d) rest
    else (n, rest.length + 1)

/-- Gathers digits after the point: the number gathered and how many digits it took. -/
def gatherFraction (n : Nat) (taken : Nat) : List Nat → Nat × Nat
  | [] => (n, taken)
  | d :: rest =>
    if 10 * n + d ≤ greatestInteger then gatherFraction (10 * n + d) (taken + 1) rest
    else (n, taken)

/-- The digits of a number as `digits * 10 ^ scale`, its exponent apart. -/
def Numeral.gathered (n : Numeral) : Decimal :=
  let (whole, dropped) := gatherWhole 0 n.whole
  let (digits, taken) := gatherFraction whole 0 n.fraction
  ⟨digits, (dropped : Int) - taken⟩

/-- `x / 10 ^ k`, by steps of at most 308 powers. -/
def shrink (x : Binary64) (k : Nat) : Option Binary64 :=
  if k ≤ 308 then do
    x.scaleDown? (← Binary64.powerOfTen? k)
  else if x.isZero then some x
  else do
    shrink (← x.scaleDown? (← Binary64.powerOfTen? 308)) (k - 308)
termination_by k

/-- `x * 10 ^ k`, or nothing if it is beyond the largest number. -/
def grow (x : Binary64) (k : Nat) : Option Binary64 :=
  if k ≤ 308 then do
    x.scaleUp? (← Binary64.powerOfTen? k)
  else if x.isZero then some x
  else none

def shift (x : Binary64) (scale : Int) : Option Binary64 :=
  if 0 ≤ scale then grow x scale.toNat else shrink x (-scale).toNat

/-- A number read as a floating-point number, or nothing if it is beyond the largest one. -/
def Numeral.real? (n : Numeral) : Option Binary64 := do
  let d := n.gathered
  let x ← match n.exponent with
    | none => shift (← Binary64.ofNat? d.digits) d.scale
    | some e =>
      let k := natOfDigits e.digits
      if greatestExponent < k then
        if d.digits ≠ 0 ∧ e.negative = false then none else some (Binary64.zero false)
      else
        shift (← Binary64.ofNat? d.digits) (if e.negative then d.scale - k else d.scale + k)
  return { x with negative := n.negative }

/-- A number read as an integer, if it is spelled as one and fits. -/
def Numeral.integer? (n : Numeral) : Option Int :=
  if n.fraction = [] ∧ n.exponent = none then
    let k := natOfDigits n.whole
    if n.negative then
      if k ≠ 0 ∧ k ≤ greatestNegated then some (-(k : Int)) else none
    else if k ≤ greatestInteger then some k else none
  else none

def Number.ofNumeral? (n : Numeral) : Option Number :=
  match n.integer? with
  | some k => some (.integer k)
  | none => n.real?.map .real

/-! ## Writing -/

/-- How a decimal is laid out: positional where the exponent of its first digit is within the
bounds, otherwise one digit, a point, the others, and the exponent. -/
structure Layout where
  leastPositional : Int
  greatestPositional : Int
deriving Repr

/-- Floating-point numbers are positional from `0.00001` to below `1e+16`. -/
def realLayout : Layout := ⟨-5, 15⟩

def decimalDigits (n : Nat) : List Char := Nat.toDigits 10 n

def positional (d : Decimal) : List Char :=
  let digits := decimalDigits d.digits
  if 0 ≤ d.scale then digits ++ List.replicate d.scale.toNat '0' ++ ['.', '0']
  else if 0 ≤ d.leading then
    let whole := d.leading.toNat + 1
    digits.take whole ++ '.' :: digits.drop whole
  else '0' :: '.' :: List.replicate (-d.leading - 1).toNat '0' ++ digits

def scientific (d : Decimal) : List Char :=
  let digits := decimalDigits d.digits
  let fraction := match digits.drop 1 with
    | [] => []
    | rest => '.' :: rest
  let sign := if d.leading < 0 then '-' else '+'
  digits.take 1 ++ fraction ++ 'e' :: sign :: decimalDigits d.leading.natAbs

def Layout.write (l : Layout) (d : Decimal) : List Char :=
  if l.leastPositional ≤ d.leading ∧ d.leading ≤ l.greatestPositional then positional d
  else scientific d

def signed (negative : Bool) (digits : List Char) : List Char :=
  if negative then '-' :: digits else digits

def Number.chars : Number → List Char
  | .integer n => signed (n < 0) (decimalDigits n.natAbs)
  | .real x => signed x.negative (realLayout.write x.shortest)

def Number.text (n : Number) : String := String.ofList n.chars

end Rulebook.Json
