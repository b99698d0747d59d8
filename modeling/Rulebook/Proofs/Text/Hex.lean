import Rulebook.Text.Hex

/-!
Four digits denote the value that they are made from, in either case.
-/

namespace Rulebook.Text.Hex

theorem value?_upper : ∀ n < 16, value? (upper n) = some n := by decide

theorem value?_lower : ∀ n < 16, value? (lower n) = some n := by decide

theorem four?_digits {digit : Nat → Char} (hdigit : ∀ n < 16, value? (digit n) = some n) {n : Nat}
    (h : n < 65536) :
    four? (digit (n / 4096 % 16)) (digit (n / 256 % 16)) (digit (n / 16 % 16)) (digit (n % 16)) =
      some n := by
  have hplace (k : Nat) : value? (digit (k % 16)) = some (k % 16) :=
    hdigit _ (Nat.mod_lt _ (by decide))
  simp only [four?, hplace, bind, Option.bind, pure, Option.some.injEq]
  omega

end Rulebook.Text.Hex
