/-
The range of binary64 numbers. A rational has a nearest binary64 number
unless it is too large: from half a unit beyond the largest finite number on,
which is `2 ^ 1024 - 2 ^ 970`, rounding overflows (`Binary64.ofRat?_isSome_iff`).

The significand of a quotient has 53 bits, so its exponent is fixed by the two
powers of two around the quotient (`exists_exponent`), and overflow is a
matter of the exponent, except at the highest exponent of a finite number,
where it is a matter of rounding up to the next power of two.
-/
import FormScript.Number.Binary64
import Mathlib.Algebra.Order.Field.Power
import Mathlib.Algebra.Order.Ring.Unbundled.Rat
import Mathlib.Tactic.FieldSimp
import Mathlib.Tactic.Linarith
import Mathlib.Tactic.Positivity
import Mathlib.Tactic.Ring

namespace FormScript.Binary64

-- =============================================================== rounding

/-- A whole number that the quotient reaches is reached by rounding it. -/
theorem le_roundDiv {k n d : Nat} (hd : 0 < d) (h : k * d ≤ n) :
    k ≤ roundDiv n d := by
  have hk : k ≤ n / d := (Nat.le_div_iff_mul_le hd).2 h
  unfold roundDiv
  dsimp only
  split_ifs <;> omega

/-- Below an even number, rounding reaches it from the half before it on. -/
theorem roundDiv_eq_succ_iff {k n d : Nat} (hd : 0 < d) (hodd : k % 2 = 1)
    (h : n < (k + 1) * d) :
    roundDiv n d = k + 1 ↔ (2 * k + 1) * d ≤ 2 * n := by
  have hq : n / d ≤ k := Nat.lt_succ_iff.1 ((Nat.div_lt_iff_lt_mul hd).2 h)
  have hn : d * (n / d) + n % d = n := Nat.div_add_mod n d
  have hr : n % d < d := Nat.mod_lt n hd
  unfold roundDiv
  dsimp only
  rcases Nat.lt_or_eq_of_le hq with hlt | heq
  · have hmul : d * (n / d + 1) ≤ d * k := Nat.mul_le_mul_left d hlt
    constructor
    · intro hround
      split_ifs at hround <;> omega
    · intro hhalf
      nlinarith
  · rw [heq] at hn ⊢
    have hhalf : (2 * k + 1) * d ≤ 2 * n ↔ d ≤ 2 * (n % d) := by
      constructor <;> intro hle <;> nlinarith
    rw [hhalf]
    split_ifs <;> omega

-- =============================================================== exponents

/-- A scaled quotient is the quotient over the power of two. -/
theorem scaled_spec (num : Nat) {den : Nat} (hden : 0 < den) (exponent : Int) :
    0 < (scaled num den exponent).2
      ∧ ((scaled num den exponent).1 : ℚ) / (scaled num den exponent).2
          = (num : ℚ) / den / 2 ^ exponent := by
  cases exponent with
  | ofNat e =>
      refine ⟨Nat.mul_pos hden (Nat.pow_pos (by decide)), ?_⟩
      simp [scaled, div_div]
  | negSucc e =>
      refine ⟨hden, ?_⟩
      simp [scaled, zpow_negSucc]
      ring

/-- A multiple of the denominator compares to the numerator of a scaled
quotient as it does to the quotient. -/
theorem mul_le_scaled_iff (num : Nat) {den : Nat} (hden : 0 < den)
    (exponent : Int) (k : Nat) :
    k * (scaled num den exponent).2 ≤ (scaled num den exponent).1
      ↔ (k : ℚ) * 2 ^ exponent ≤ (num : ℚ) / den := by
  obtain ⟨hpos, heq⟩ := scaled_spec num hden exponent
  have hd : (0 : ℚ) < (scaled num den exponent).2 := by exact_mod_cast hpos
  have htwo : (0 : ℚ) < 2 ^ exponent := by positivity
  rw [← le_div_iff₀ htwo, ← heq, le_div_iff₀ hd]
  exact_mod_cast Iff.rfl

/-- A power of two in units of another one. -/
theorem two_pow_mul_zpow (k : Nat) (exponent : Int) :
    ((2 ^ k : Nat) : ℚ) * 2 ^ exponent = 2 ^ (exponent + k) := by
  rw [zpow_add₀ (by decide), zpow_natCast, mul_comm, Nat.cast_pow, Nat.cast_ofNat]

/-- A quotient lies between the powers of two that the lengths of its
numerator and its denominator say. -/
theorem quotient_bounds {num den : Nat} (hnum : num ≠ 0) (hden : den ≠ 0) :
    (2 : ℚ) ^ ((num.log2 : Int) - den.log2 - 1) < (num : ℚ) / den
      ∧ (num : ℚ) / den < 2 ^ ((num.log2 : Int) - den.log2 + 1) := by
  have hd : (0 : ℚ) < den := by exact_mod_cast Nat.pos_of_ne_zero hden
  have two_ne : (2 : ℚ) ≠ 0 := by decide
  have num_low : (2 : ℚ) ^ num.log2 ≤ num := by exact_mod_cast Nat.log2_self_le hnum
  have num_high : (num : ℚ) < 2 ^ (num.log2 + 1) := by exact_mod_cast Nat.lt_log2_self
  have den_low : (2 : ℚ) ^ den.log2 ≤ den := by exact_mod_cast Nat.log2_self_le hden
  have den_high : (den : ℚ) < 2 ^ (den.log2 + 1) := by exact_mod_cast Nat.lt_log2_self
  constructor
  · rw [lt_div_iff₀ hd]
    calc (2 : ℚ) ^ ((num.log2 : Int) - den.log2 - 1) * den
        < 2 ^ ((num.log2 : Int) - den.log2 - 1) * 2 ^ (den.log2 + 1) := by gcongr
      _ = 2 ^ num.log2 := by
          rw [← zpow_natCast, ← zpow_add₀ two_ne, ← zpow_natCast]
          congr 1
          push_cast
          ring
      _ ≤ num := num_low
  · rw [div_lt_iff₀ hd]
    calc (num : ℚ) < 2 ^ (num.log2 + 1) := num_high
      _ = 2 ^ ((num.log2 : Int) - den.log2 + 1) * 2 ^ den.log2 := by
          rw [← zpow_natCast, ← zpow_natCast, ← zpow_add₀ two_ne]
          congr 1
          push_cast
          ring
      _ ≤ 2 ^ ((num.log2 : Int) - den.log2 + 1) * den := by gcongr

/-- The exponent of a quotient leaves it a significand of 53 bits, unless
that exponent is too low. -/
theorem exists_exponent {num den : Nat} (hnum : num ≠ 0) (hden : den ≠ 0) :
    ∃ exponent : Int, exponentFor num den = max exponent minExponent
      ∧ (2 : ℚ) ^ (exponent + 52) ≤ (num : ℚ) / den
      ∧ (num : ℚ) / den < 2 ^ (exponent + 53) := by
  obtain ⟨hlow, hhigh⟩ := quotient_bounds hnum hden
  let guess : Int := (num.log2 : Int) - den.log2 - fractionBits
  have hfor : exponentFor num den
      = max (if (scaled num den guess).1
          < (scaled num den guess).2 * Nat.pow 2 fractionBits
        then guess - 1 else guess) minExponent := rfl
  have hguess : (num.log2 : Int) - den.log2 = guess + 52 := by
    show _ = (num.log2 : Int) - den.log2 - (52 : Nat) + 52
    omega
  have hcompare : (scaled num den guess).2 * Nat.pow 2 fractionBits
      ≤ (scaled num den guess).1 ↔ 2 ^ (guess + 52) ≤ (num : ℚ) / den := by
    have hpow : ((2 ^ 52 : Nat) : ℚ) * 2 ^ guess = 2 ^ (guess + 52) := two_pow_mul_zpow 52 guess
    rw [← hpow, Nat.mul_comm]
    exact mul_le_scaled_iff num (Nat.pos_of_ne_zero hden) guess (2 ^ 52)
  rw [hguess] at hlow hhigh
  split_ifs at hfor with hless
  · -- the guess is one too high
    refine ⟨guess - 1, hfor, ?_, ?_⟩
    · rw [show guess - 1 + 52 = guess + 52 - 1 by omega]
      exact hlow.le
    · rw [show guess - 1 + 53 = guess + 52 by omega]
      exact lt_of_not_ge fun hle => absurd (hcompare.2 hle) (Nat.not_le.2 hless)
  · refine ⟨guess, hfor, hcompare.1 (Nat.not_lt.1 hless), ?_⟩
    rw [show guess + 53 = guess + 52 + 1 by omega]
    exact hhigh

-- =============================================================== overflow

/-- An exponent field is that of a finite number up to the exponent 971. -/
theorem ofNormal?_eq_none_iff {negative : Bool} {significand : Nat} {exponent : Int} :
    ofNormal? negative significand exponent = none ↔ 972 ≤ exponent := by
  have hspecial : specialField = 2047 := rfl
  unfold ofNormal?
  dsimp only
  split_ifs <;> simp only [true_iff, false_iff] <;> omega

/-- Overflow is a matter of the exponent, except for one exponent: there it is
a matter of rounding up to the next power of two. -/
theorem ofQuotient?_eq_none_iff (negative : Bool) (num den : Nat) :
    ofQuotient? negative num den = none
      ↔ Nat.pow 2 fractionBits ≤ significandFor num den
        ∧ (972 ≤ exponentFor num den
          ∨ exponentFor num den = 971
            ∧ significandFor num den = Nat.pow 2 (fractionBits + 1)) := by
  unfold ofQuotient?
  dsimp only
  split_ifs with hsmall hcarry
  · simp only [false_iff]
    omega
  · rw [ofNormal?_eq_none_iff]
    omega
  · rw [ofNormal?_eq_none_iff]
    omega

/-- A significand reaches the numbers that the quotient reaches, in units of
its exponent. -/
theorem le_significandFor {num den k : Nat} (hden : 0 < den)
    (h : (k : ℚ) * 2 ^ exponentFor num den ≤ (num : ℚ) / den) :
    k ≤ significandFor num den :=
  le_roundDiv (scaled_spec num hden _).1 ((mul_le_scaled_iff num hden _ k).2 h)

/-- A significand that the quotient does not exceed is rounded up to the next
even one from the half before it on. -/
theorem significandFor_eq_succ_iff {num den k : Nat} (hden : 0 < den) (hodd : k % 2 = 1)
    (h : (num : ℚ) / den < (k + 1 : Nat) * 2 ^ exponentFor num den) :
    significandFor num den = k + 1
      ↔ ((2 * k + 1 : Nat) : ℚ) * 2 ^ (exponentFor num den - 1) ≤ (num : ℚ) / den := by
  generalize hexponent : exponentFor num den = exponent at h ⊢
  obtain ⟨hpos, heq⟩ := scaled_spec num hden exponent
  have hless : (scaled num den exponent).1 < (k + 1) * (scaled num den exponent).2 := by
    by_contra hge
    have hreached := (mul_le_scaled_iff num hden exponent (k + 1)).1 (Nat.le_of_not_lt hge)
    exact absurd hreached (not_le.2 h)
  have hround := roundDiv_eq_succ_iff hpos hodd hless
  unfold significandFor
  rw [hexponent, hround]
  have htwo : (0 : ℚ) < 2 ^ exponent := by positivity
  have hd : (0 : ℚ) < (scaled num den exponent).2 := by exact_mod_cast hpos
  have hnum : (num : ℚ) / den
      = (scaled num den exponent).1 / (scaled num den exponent).2 * 2 ^ exponent := by
    rw [heq, div_mul_cancel₀ _ htwo.ne']
  rw [hnum, zpow_sub_one₀ (by decide), div_mul_eq_mul_div, le_div_iff₀ hd]
  have hscale : ((2 * k + 1 : Nat) : ℚ) * (2 ^ exponent * 2⁻¹) * (scaled num den exponent).2
      ≤ (scaled num den exponent).1 * 2 ^ exponent
      ↔ ((2 * k + 1 : Nat) : ℚ) * (scaled num den exponent).2
          ≤ 2 * (scaled num den exponent).1 := by
    constructor <;> intro hle <;> nlinarith
  rw [hscale]
  exact_mod_cast Iff.rfl

/-- The number from which on rounding overflows, half a unit beyond the largest
finite number, in half units. -/
theorem overflow_eq :
    (2 : ℚ) ^ 1024 - 2 ^ 970 = ((2 * (2 ^ 53 - 1) + 1 : Nat) : ℚ) * 2 ^ ((971 : Int) - 1) := by
  have hpow : (2 : ℚ) ^ ((971 : Int) - 1) = 2 ^ 970 := zpow_natCast 2 970
  have hsplit : (2 : ℚ) ^ 1024 = 2 ^ 54 * 2 ^ 970 := pow_add 2 54 970
  rw [hpow, hsplit]
  generalize (2 : ℚ) ^ 970 = unit
  norm_num
  ring

/-- It lies between the last two powers of two. -/
theorem overflow_bounds :
    (2 : ℚ) ^ (1023 : Int) < 2 ^ 1024 - 2 ^ 970
      ∧ (2 : ℚ) ^ 1024 - 2 ^ 970 < 2 ^ (1024 : Int) := by
  have hlow : (2 : ℚ) ^ (1023 : Int) = 2 ^ 1023 := zpow_natCast 2 1023
  have hhigh : (2 : ℚ) ^ (1024 : Int) = 2 ^ 1024 := zpow_natCast 2 1024
  have hdouble : (2 : ℚ) ^ 1024 = 2 ^ 1023 * 2 := pow_succ 2 1023
  have hunit : (2 : ℚ) ^ 970 < 2 ^ 1023 := pow_lt_pow_right₀ (by decide) (by decide)
  have hpos : (0 : ℚ) < 2 ^ 970 := pow_pos (by decide) 970
  rw [hlow, hhigh, hdouble]
  generalize (2 : ℚ) ^ 1023 = top at hunit ⊢
  generalize (2 : ℚ) ^ 970 = unit at hunit hpos ⊢
  constructor <;> linarith

/-- Where rounding a quotient overflows. -/
theorem ofQuotient?_eq_none_iff_le (negative : Bool) {num den : Nat}
    (hnum : num ≠ 0) (hden : den ≠ 0) :
    ofQuotient? negative num den = none
      ↔ (2 : ℚ) ^ 1024 - 2 ^ 970 ≤ (num : ℚ) / den := by
  obtain ⟨exponent, hfor, hlow, hhigh⟩ := exists_exponent hnum hden
  have hpos : 0 < den := Nat.pos_of_ne_zero hden
  have hmin : minExponent = -1074 := rfl
  have hnormal : exponentFor num den = exponent →
      Nat.pow 2 fractionBits ≤ significandFor num den := by
    intro heq
    refine le_significandFor hpos ?_
    rw [heq]
    exact (two_pow_mul_zpow 52 exponent).trans_le hlow
  rw [ofQuotient?_eq_none_iff]
  rcases lt_trichotomy exponent 971 with hless | heq | hmore
  · -- below a power of two that does not overflow
    have hsmall : (2 : ℚ) ^ (exponent + 53) ≤ 2 ^ (1023 : Int) :=
      zpow_le_zpow_right₀ (by decide) (by omega)
    have hquotient := (hhigh.trans_le hsmall).trans overflow_bounds.1
    constructor
    · rintro ⟨-, hexponent⟩
      omega
    · intro hle
      exact absurd hle (not_le.2 hquotient)
  · -- one exponent: what matters is whether rounding carries
    have hexponent : exponentFor num den = 971 := by omega
    have hlast : Nat.pow 2 (fractionBits + 1) = 2 ^ 53 - 1 + 1 := rfl
    have hbelow : (num : ℚ) / den < ((2 ^ 53 - 1 + 1 : Nat) : ℚ) * 2 ^ exponentFor num den := by
      rw [hexponent, ← heq]
      exact hhigh.trans_eq (two_pow_mul_zpow 53 exponent).symm
    have hcarry := significandFor_eq_succ_iff hpos (by decide) hbelow
    rw [hexponent, ← overflow_eq] at hcarry
    rw [hlast, hcarry, hexponent]
    constructor
    · rintro ⟨-, hmore | ⟨-, hle⟩⟩
      · omega
      · exact hle
    · intro hle
      exact ⟨hnormal (hexponent.trans heq.symm), .inr ⟨rfl, hle⟩⟩
  · -- from the next power of two on
    have hexponent : exponentFor num den = exponent := by omega
    have hlarge : (2 : ℚ) ^ (1024 : Int) ≤ 2 ^ (exponent + 52) :=
      zpow_le_zpow_right₀ (by decide) (by omega)
    constructor
    · intro _
      exact (overflow_bounds.2.trans_le (hlarge.trans hlow)).le
    · intro _
      exact ⟨hnormal hexponent, .inl (by omega)⟩

/-- A rational has a nearest finite binary64 number unless it is too large. -/
theorem ofRat?_isSome_iff (q : ℚ) :
    (ofRat? q).isSome ↔ |q| < 2 ^ 1024 - 2 ^ 970 := by
  rw [Option.isSome_iff_ne_none, ← not_le, not_iff_not]
  unfold ofRat?
  split_ifs with hzero
  · have hpos : (0 : ℚ) < 2 ^ 1024 - 2 ^ 970 :=
      (zpow_pos (by decide) 1023).trans overflow_bounds.1
    rw [Rat.num_eq_zero.1 hzero, abs_zero]
    simpa using hpos
  · rw [ofQuotient?_eq_none_iff_le _ (Int.natAbs_ne_zero.2 hzero) q.den_nz]
    have habs : (q.num.natAbs : ℚ) / q.den = |q| := by
      rw [Rat.abs_def, Rat.divInt_eq_div, Int.cast_natCast, Int.cast_natCast]
    rw [habs]

end FormScript.Binary64
