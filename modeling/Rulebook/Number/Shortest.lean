import Rulebook.Number.Binary64

/-!
The shortest decimal that reads back as a number: of all decimals nearer to it than to its
neighbours, one with the fewest digits, and of those the nearest.

A number's rounding interval reaches half way to its neighbours; its ends belong to it if the
mantissa is even. For one, two, ... digits the two decimals around the number on the grid of that
many digits are tried, and the first grid with a decimal in the interval decides.
-/

namespace Rulebook

structure Decimal where
  digits : Nat
  scale : Int
deriving DecidableEq, Repr, Inhabited

namespace Decimal

def digitCount (n : Nat) : Nat := (Nat.toDigits 10 n).length

def leading (d : Decimal) : Int := d.scale + digitCount d.digits - 1

/-- The same decimal without trailing zeros in its digits, for at most `fuel` zeros. -/
def trimmed : Nat → Decimal → Decimal
  | 0, d => d
  | fuel + 1, d =>
    if d.digits ≠ 0 ∧ d.digits % 10 = 0 then trimmed fuel ⟨d.digits / 10, d.scale + 1⟩ else d

end Decimal

namespace Binary64

def scaledByTen (k : Int) (num den : Nat) : Nat × Nat :=
  if 0 ≤ k then (num * Nat.pow 10 k.toNat, den) else (num, den * Nat.pow 10 (-k).toNat)

def leadingDigit (num den : Nat) : Int :=
  if den ≤ num then (Decimal.digitCount (num / den) : Int) - 1
  else
    Int.negSucc (((List.range 400).find? fun k => den ≤ num * Nat.pow 10 (k + 1)).getD 399)

/-- Four times the mantissa, and the ends of the rounding interval in the same unit: a quarter of
the last place. Below a power of two the numbers are twice as dense. -/
def interval (x : Binary64) : Nat × Nat × Nat :=
  let below := if x.mantissa = Nat.pow 2 52 ∧ leastExponent < x.exponent then 1 else 2
  (4 * x.mantissa - below, 4 * x.mantissa, 4 * x.mantissa + 2)

def readsBack (x : Binary64) (d : Decimal) : Bool :=
  let (low, _, high) := x.interval
  let (n, e) := scaledByTen d.scale d.digits 1
  -- `d` is `n / e`; the unit of the interval is `2 ^ (exponent - 2)`
  let (n, e) := scaledBy (2 - x.exponent) n e
  if x.mantissa % 2 = 0 then low * e ≤ n && n ≤ high * e else low * e < n && n < high * e

/-- The best of the two decimals around a positive number on the grid of `10 ^ scale`: the one that
reads back, the nearer if both do, the even one at a tie. -/
def onGrid? (x : Binary64) (scale : Int) : Option Decimal :=
  let (n, d) := scaledBy x.exponent x.mantissa 1
  let (n, d) := scaledByTen (-scale) n d
  let q := n / d
  let r := n % d
  let lower : Decimal := ⟨q, scale⟩
  let upper : Decimal := ⟨q + 1, scale⟩
  match x.readsBack lower, x.readsBack upper with
  | true, true =>
    if 2 * r < d ∨ (2 * r = d ∧ q % 2 = 0) then some lower else some upper
  | true, false => some lower
  | false, true => some upper
  | false, false => none

/-- The shortest decimal that reads back as the magnitude of a number. Seventeen digits suffice for
every number of the format. -/
def shortest (x : Binary64) : Decimal :=
  if x.isZero then ⟨0, 0⟩
  else
    let (n, d) := scaledBy x.exponent x.mantissa 1
    let first := leadingDigit n d
    match (List.range 17).findSome? fun (k : Nat) => x.onGrid? (first - k) with
    | some decimal => decimal.trimmed 20
    | none => ⟨0, 0⟩

end Binary64

end Rulebook
