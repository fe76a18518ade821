import CratePlan.Json.Basic

/-!
# The binary number nearest to a decimal

A decimal that is compared with others counts as the number of 64 bits nearest to
it: 53 binary digits and a power of two that is not below `2 ^ (-1074)`. Where two
are equally near, the one with an even last digit is taken. Decimals that are too
small for the range count as zero, and the sign of zero does not count.

`roundQuotient_within` says that rounding moves a quotient by half a unit at most.
-/

namespace CratePlan

/-- The whole number nearest to a quotient; of two, the even one. -/
def roundQuotient (num den : Nat) : Nat :=
  let below := num / den
  let rest := num % den
  if 2 * rest < den || (2 * rest == den && below % 2 == 0) then below else below + 1

/-- The rounded quotient is off by half a unit at most. -/
theorem roundQuotient_within (num den : Nat) (h : 0 < den) :
    2 * num ≤ 2 * (den * roundQuotient num den) + den ∧
      2 * (den * roundQuotient num den) ≤ 2 * num + den := by
  have hSum := Nat.div_add_mod num den
  have hRest := Nat.mod_lt num h
  have hNext : den * (num / den + 1) = den * (num / den) + den := Nat.mul_succ ..
  simp only [roundQuotient]
  split <;> rename_i hNear <;>
    simp only [Bool.or_eq_true, Bool.and_eq_true, decide_eq_true_eq, beq_iff_eq] at hNear <;>
    omega

/-- A number with a sign, binary digits and a power of two. -/
structure Binary where
  negative : Bool
  mantissa : Nat
  exponent : Int
deriving Repr, DecidableEq, Inhabited

namespace Binary

/-- Zero. -/
def zero : Binary := ⟨false, 0, 0⟩

/-- The least power of two. -/
def leastExponent : Int := -1074

/-- The number with 53 binary digits at most that is nearest to a quotient. -/
def ofQuotient (negative : Bool) (num den : Nat) : Binary :=
  let guess : Int := (num.log2 : Int) - den.log2 - 52
  let scaled (exponent : Int) : Nat × Nat :=
    (num * Nat.pow 2 (-exponent).toNat, den * Nat.pow 2 exponent.toNat)
  let short := (scaled guess).1 < (scaled guess).2 * Nat.pow 2 52
  let exponent := max leastExponent (if short then guess - 1 else guess)
  let mantissa := roundQuotient (scaled exponent).1 (scaled exponent).2
  if mantissa == 0 then zero
  else if mantissa == Nat.pow 2 53 then ⟨negative, Nat.pow 2 52, exponent + 1⟩
  else ⟨negative, mantissa, exponent⟩

end Binary

namespace Decimal

/-- The number of 64 bits that is nearest to a decimal. -/
def nearest (value : Decimal) : Binary :=
  let places : Int := (toString value.digits).length + value.exponent
  if value.digits == 0 || places < -330 then .zero
  else
    .ofQuotient value.negative (value.digits * Nat.pow 10 value.exponent.toNat)
      (Nat.pow 10 (-value.exponent).toNat)

end Decimal

end CratePlan
