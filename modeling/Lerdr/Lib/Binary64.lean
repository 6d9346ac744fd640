/-
# Lib.Binary64 — reading a decimal as an IEEE-754 double, in integer arithmetic.

`ofDecimal` is correctly rounded (nearest, ties to even, gradual underflow, overflow to infinity),
the contract of every conforming decimal-to-binary reader. A finite magnitude is kept as
`m · 2^e`; `integer?` says when it is a whole number and which. Signs are left to the caller: a
double and its negation round alike.
-/
import Mathlib.Data.Nat.Log
import Mathlib.Tactic

namespace Lib.Binary64

/-- `n / d` rounded to the nearest integer, ties to even. -/
def roundHalfEven (n d : Nat) : Nat :=
  let q := n / d
  let r := n % d
  if 2 * r < d then q else if d < 2 * r then q + 1 else if q % 2 = 0 then q else q + 1

/-- `⌊log₂ (n / d)⌋` for positive `n` and `d`. -/
def exponent (n d : Nat) : Int :=
  let k : Int := (Nat.log2 n : Int) - Nat.log2 d
  if d * 2 ^ k.toNat ≤ n * 2 ^ (-k).toNat then k else k - 1

/-- The magnitude of a double: `m · 2^e`, or infinite. -/
inductive Magnitude where
  | finite (m : Nat) (e : Int)
  | infinite
  deriving DecidableEq, Repr

/-- The double nearest to `n / d`. The exponent is clamped at the subnormal `2^-1074`; anything
that rounds past `(2^53 - 1) · 2^971` is infinite. -/
def ofRatio (n d : Nat) : Magnitude :=
  if n = 0 then .finite 0 0
  else
    let e := max (exponent n d - 52) (-1074)
    let m := roundHalfEven (n * 2 ^ (-e).toNat) (d * 2 ^ e.toNat)
    if 971 < e ∨ (e = 971 ∧ 2 ^ 53 ≤ m) then .infinite else .finite m e

/-- The double nearest to `digits · 10^exp10`. -/
def ofDecimal (digits : Nat) (exp10 : Int) : Magnitude :=
  ofRatio (digits * 10 ^ exp10.toNat) (10 ^ (-exp10).toNat)

/-- The value of a finite whole magnitude; `none` for a fraction or an infinity. -/
def Magnitude.integer? : Magnitude → Option Nat
  | .infinite => none
  | .finite m e =>
    if m % 2 ^ (-e).toNat = 0 then some (m * 2 ^ e.toNat / 2 ^ (-e).toNat) else none

/-- The whole part of a finite magnitude. -/
def Magnitude.floor? : Magnitude → Option Nat
  | .infinite => none
  | .finite m e => some (m * 2 ^ e.toNat / 2 ^ (-e).toNat)

/-- Equality of values: `m · 2^e` may be written in more than one way. -/
def Magnitude.sameValue : Magnitude → Magnitude → Bool
  | .infinite, .infinite => true
  | .finite m e, .finite m' e' =>
    m * 2 ^ e.toNat * 2 ^ (-e').toNat == m' * 2 ^ e'.toNat * 2 ^ (-e).toNat
  | _, _ => false

theorem roundHalfEven_one (n : Nat) : roundHalfEven n 1 = n := by
  simp [roundHalfEven, Nat.mod_one]

theorem exponent_one {n : Nat} (hn : n ≠ 0) : exponent n 1 = Nat.log2 n := by
  have hlog : Nat.log2 1 = 0 := by decide
  simp [exponent, hlog, Nat.log2_self_le hn]

/-- **Whole numbers below `2^53` are read exactly.** -/
theorem integer?_ofRatio_one {n : Nat} (h : n < 2 ^ 53) : (ofRatio n 1).integer? = some n := by
  by_cases hn : n = 0
  · subst hn
    decide
  · have hlog : Nat.log2 n < 53 := (Nat.log2_lt hn).mpr h
    obtain ⟨k, hk⟩ : ∃ k : Nat, k = 52 - Nat.log2 n := ⟨_, rfl⟩
    have he : max (exponent n 1 - 52) (-1074) = -(k : Int) := by
      rw [exponent_one hn]
      omega
    have hneg : (-(-(k : Int))).toNat = k := by simp
    have hpos : (-(k : Int)).toNat = 0 := by simp
    have hfin : ¬ (971 < -(k : Int) ∨ (-(k : Int) = 971 ∧ 2 ^ 53 ≤ n * 2 ^ k)) := by omega
    simp only [ofRatio, if_neg hn, he, hneg, hpos, pow_zero, roundHalfEven_one,
      if_neg hfin, Magnitude.integer?, Nat.mul_mod_left, if_true, mul_one,
      Nat.mul_div_cancel _ (Nat.two_pow_pos k)]

/-- Plain digits below `2^53` are read exactly. -/
theorem integer?_ofDecimal_zero {n : Nat} (h : n < 2 ^ 53) :
    (ofDecimal n 0).integer? = some n := by
  simpa [ofDecimal] using integer?_ofRatio_one h

-- `2^63 - 1` is not a double: it is read as `2^63`.
example : (ofDecimal 9223372036854775807 0).integer? = some (2 ^ 63) := by decide

end Lib.Binary64
