/-!
Finite numbers of the 64-bit binary floating-point format, as exact dyadic numbers: a sign and a
magnitude `mantissa * 2 ^ exponent`. Every result is the exact one, rounded once to the nearest
number of the format, a half to the even mantissa.
-/

namespace Rulebook

/-- A finite number of the format: `± mantissa * 2 ^ exponent`. Operations give the mantissa fewer
than 54 bits and, unless the exponent is the least one, exactly 53. -/
structure Binary64 where
  negative : Bool
  mantissa : Nat
  exponent : Int
deriving DecidableEq, Repr, Inhabited

namespace Binary64

def leastExponent : Int := -1074

def greatestExponent : Int := 971

def zero (negative : Bool) : Binary64 := ⟨negative, 0, leastExponent⟩

def isZero (x : Binary64) : Bool := x.mantissa == 0

/-- The quotient rounded to the nearest integer, a half to the even one. -/
def roundedQuotient (num den : Nat) : Nat :=
  let q := num / den
  let r := num % den
  if 2 * r < den ∨ (2 * r = den ∧ q % 2 = 0) then q else q + 1

def scaledBy (e : Int) (num den : Nat) : Nat × Nat :=
  if 0 ≤ e then (num * Nat.pow 2 e.toNat, den) else (num, den * Nat.pow 2 (-e).toNat)

def leadingBit (num den : Nat) : Int :=
  let guess : Int := (num.log2 : Int) - den.log2
  let (n, d) := scaledBy (-guess) num den
  if d ≤ n then guess else guess - 1

/-- The number nearest to a ratio, or nothing if it is beyond the largest number. -/
def ofRatio? (negative : Bool) (num den : Nat) : Option Binary64 :=
  if num = 0 then some (zero negative)
  else
    let e := max leastExponent (leadingBit num den - 52)
    let (n, d) := scaledBy (-e) num den
    let m := roundedQuotient n d
    let (m, e) := if m = Nat.pow 2 53 then (Nat.pow 2 52, e + 1) else (m, e)
    if e ≤ greatestExponent then some ⟨negative, m, e⟩ else none

def ofNat? (n : Nat) : Option Binary64 := ofRatio? false n 1

/-- The product; its sign is that of the first factor, the second one being taken as positive. -/
def scaleUp? (x y : Binary64) : Option Binary64 :=
  let (n, d) := scaledBy (x.exponent + y.exponent) (x.mantissa * y.mantissa) 1
  ofRatio? x.negative n d

def scaleDown? (x y : Binary64) : Option Binary64 :=
  let (n, d) := scaledBy (x.exponent - y.exponent) x.mantissa y.mantissa
  ofRatio? x.negative n d

def powerOfTen? (k : Nat) : Option Binary64 := ofNat? (Nat.pow 10 k)

end Binary64

end Rulebook
