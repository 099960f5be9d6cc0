import ChannelGraph.Decimal.Shortest
import Mathlib.Algebra.Order.Field.Power
import Mathlib.Algebra.Order.Field.Rat
import Mathlib.Tactic.FieldSimp
import Mathlib.Tactic.Linarith
import Mathlib.Tactic.NormNum
import Mathlib.Tactic.Positivity
import Mathlib.Tactic.Ring

/-!
# What rounds to a number

Quotients, decimals and integers are rounded by arithmetic on natural numbers; what that does is
said here about rational numbers. A rational that lies in the interval of a number is rounded to it
(`ofRatio_eq`, `ofDecimal_eq`), and whatever comes out of a rounding has the one form in which
numbers are kept (`isKept_ofRatio`, `isKept_ofDecimal`, `isKept_ofInt`).

Both rest on the exponent that is chosen for a quotient, which is that of the power of two below it
(`log2Ratio_spec`), and on the rounding of the scaled quotient to an integer (`roundDiv_eq`).
-/

namespace ChannelGraph

namespace Binary64

variable {num den m : Nat} {e k : Int} {q : ℚ}

/-! ### Numbers in the form in which they are kept -/

/-- A significand and an exponent in the one form in which a finite number is kept: the significand
is as large as possible, or the exponent is the smallest. -/
structure Kept (m : Nat) (e : Int) : Prop where
  /-- The exponent is not too small. -/
  minExponent_le : minExponent ≤ e
  /-- The exponent is not too large. -/
  le_maxExponent : e ≤ maxExponent
  /-- The significand has at most 53 bits. -/
  lt_twice : m < 2 * topBit
  /-- The significand has 53 bits unless the exponent is the smallest. -/
  topBit_le : topBit ≤ m ∨ e = minExponent

/-- A number in the form in which it is kept. -/
def IsKept : Binary64 → Prop
  | finite _ m e => Kept m e
  | _ => True

/-- Zero is kept with the smallest exponent. -/
theorem isKept_zero (negative : Bool) : (zero negative).IsKept where
  minExponent_le := le_refl _
  le_maxExponent := by decide
  lt_twice := by decide
  topBit_le := .inr rfl

/-! ### Powers of natural numbers -/

theorem two_zpow_pos (k : Int) : (0 : ℚ) < 2 ^ k :=
  zpow_pos (by norm_num) k

/-- A quotient of powers of two is the power of the difference. -/
theorem two_pow_div_two_pow {a b : Nat} (h : (a : Int) - b = k) : (2 : ℚ) ^ a / 2 ^ b = 2 ^ k := by
  rw [← h, zpow_sub₀ two_ne_zero, zpow_natCast, zpow_natCast]

/-- A power with any exponent is a quotient of two powers of natural numbers, one of which is
one. -/
theorem natPow_div_natPow (b : Nat) (k : Int) :
    ((Nat.pow b k.toNat : Nat) : ℚ) / (Nat.pow b (-k).toNat : Nat) = (b : ℚ) ^ k := by
  rcases le_total 0 k with hk | hk
  · obtain ⟨n, rfl⟩ := Int.eq_ofNat_of_zero_le hk
    have hneg : (-(n : Int)).toNat = 0 := by omega
    rw [hneg, Int.toNat_natCast, zpow_natCast]
    show ((b ^ n : Nat) : ℚ) / ((b ^ 0 : Nat) : ℚ) = _
    rw [pow_zero, Nat.cast_one, div_one, Nat.cast_pow]
  · obtain ⟨n, hn⟩ := Int.eq_ofNat_of_zero_le (Int.neg_nonneg.2 hk)
    have hpos : k.toNat = 0 := by omega
    rw [hpos, hn, Int.toNat_natCast, ← neg_neg k, hn, zpow_neg, zpow_natCast]
    show ((b ^ 0 : Nat) : ℚ) / ((b ^ n : Nat) : ℚ) = _
    rw [pow_zero, Nat.cast_one, one_div, Nat.cast_pow]

theorem natPow_pos {b : Nat} (hb : 0 < b) (n : Nat) : 0 < Nat.pow b n :=
  Nat.pow_pos hb

/-- A quotient that is compared with a power of a natural number. -/
theorem zpow_le_div_iff {b : Nat} (hb : 0 < b) (hden : 0 < den) :
    (b : ℚ) ^ k ≤ (num : ℚ) / den ↔
      den * Nat.pow b k.toNat ≤ num * Nat.pow b (-k).toNat := by
  have hlow : (0 : ℚ) < (Nat.pow b (-k).toNat : Nat) := Nat.cast_pos.2 (natPow_pos hb _)
  rw [← natPow_div_natPow, div_le_div_iff₀ hlow (Nat.cast_pos.2 hden), mul_comm]
  exact_mod_cast Iff.rfl

/-! ### The power of two below a quotient -/

/-- The search for an exponent takes the difference of the logarithms or one less, whichever sign
the difference has. -/
theorem log2Ratio_eq (num den : Nat) : log2Ratio num den =
    let k : Int := (Nat.log2 num : Int) - (Nat.log2 den : Int)
    if den * Nat.pow 2 k.toNat ≤ num * Nat.pow 2 (-k).toNat then k else k - 1 := by
  unfold log2Ratio
  dsimp only
  generalize (Nat.log2 num : Int) - (Nat.log2 den : Int) = k
  have hfits : (if 0 ≤ k then den * Nat.pow 2 k.toNat ≤ num
      else den ≤ num * Nat.pow 2 (-k).toNat) ↔
      den * Nat.pow 2 k.toNat ≤ num * Nat.pow 2 (-k).toNat := by
    split
    · rename_i hk
      have hneg : (-k).toNat = 0 := by omega
      rw [hneg]
      show _ ↔ _ ≤ num * 1
      rw [Nat.mul_one]
    · rename_i hk
      have hpos : k.toNat = 0 := by omega
      rw [hpos]
      show _ ↔ den * 1 ≤ _
      rw [Nat.mul_one]
  simp only [hfits]

/-- The exponent that is found for a quotient is that of the largest power of two below it. -/
theorem log2Ratio_spec (hnum : 0 < num) (hden : 0 < den) :
    (2 : ℚ) ^ log2Ratio num den ≤ num / den ∧ (num : ℚ) / den < 2 ^ (log2Ratio num den + 1) := by
  have hdenq : (0 : ℚ) < den := Nat.cast_pos.2 hden
  have hnumLow : (2 : ℚ) ^ Nat.log2 num ≤ num := by exact_mod_cast Nat.log2_self_le hnum.ne'
  have hnumHigh : (num : ℚ) < 2 ^ (Nat.log2 num + 1) := by exact_mod_cast Nat.lt_log2_self
  have hdenLow : (2 : ℚ) ^ Nat.log2 den ≤ den := by exact_mod_cast Nat.log2_self_le hden.ne'
  have hdenHigh : (den : ℚ) < 2 ^ (Nat.log2 den + 1) := by exact_mod_cast Nat.lt_log2_self
  generalize hk : (Nat.log2 num : Int) - (Nat.log2 den : Int) = k
  -- the difference of the logarithms is right or too large by one
  have hlow : (2 : ℚ) ^ (k - 1) ≤ num / den := by
    have hdifference : (Nat.log2 num : Int) - (Nat.log2 den + 1 : Nat) = k - 1 := by omega
    rw [← two_pow_div_two_pow hdifference]
    exact div_le_div₀ (Nat.cast_nonneg _) hnumLow hdenq hdenHigh.le
  have hhigh : (num : ℚ) / den < 2 ^ (k + 1) := by
    have hdifference : (Nat.log2 num + 1 : Nat) - (Nat.log2 den : Int) = k + 1 := by omega
    rw [← two_pow_div_two_pow hdifference]
    exact div_lt_div₀ hnumHigh hdenLow (by positivity) (by positivity)
  rw [log2Ratio_eq, hk]
  dsimp only
  split
  · rename_i hfits
    exact ⟨(zpow_le_div_iff (by decide) hden).2 hfits, hhigh⟩
  · rename_i hfits
    refine ⟨hlow, ?_⟩
    rw [sub_add_cancel]
    exact not_le.1 fun hle ↦ hfits ((zpow_le_div_iff (by decide) hden).1 hle)

/-! ### Rounding to an integer -/

/-- A quotient at most one half away from an integer is rounded to it; at one half away the integer
has to be even. -/
theorem roundDiv_eq (hden : 0 < den) (hlow : (m : ℚ) - 1 / 2 ≤ num / den)
    (hhigh : (num : ℚ) / den ≤ m + 1 / 2)
    (hodd : m % 2 = 1 → (m : ℚ) - 1 / 2 < num / den ∧ (num : ℚ) / den < m + 1 / 2) :
    roundDiv num den = m := by
  have hdenq : (0 : ℚ) < den := Nat.cast_pos.2 hden
  have hlow' : 2 * (den * m) ≤ 2 * num + den := by
    rw [le_div_iff₀ hdenq] at hlow
    have : (2 : ℚ) * (den * m) ≤ 2 * num + den := by linarith
    exact_mod_cast this
  have hhigh' : 2 * num ≤ 2 * (den * m) + den := by
    rw [div_le_iff₀ hdenq] at hhigh
    have : (2 : ℚ) * num ≤ 2 * (den * m) + den := by linarith
    exact_mod_cast this
  have hodd' : m % 2 = 1 → 2 * (den * m) < 2 * num + den ∧ 2 * num < 2 * (den * m) + den := by
    intro hm
    obtain ⟨hl, hh⟩ := hodd hm
    rw [lt_div_iff₀ hdenq] at hl
    rw [div_lt_iff₀ hdenq] at hh
    have hl' : (2 : ℚ) * (den * m) < 2 * num + den := by linarith
    have hh' : (2 : ℚ) * num < 2 * (den * m) + den := by linarith
    exact ⟨by exact_mod_cast hl', by exact_mod_cast hh'⟩
  have hsplit : den * (num / den) + num % den = num := Nat.div_add_mod num den
  have hrest : num % den < den := Nat.mod_lt num hden
  -- the integer is the quotient without its fraction, or the next one
  have hle : num / den ≤ m := by
    by_contra hlt
    have := Nat.mul_le_mul_left den (Nat.succ_le_of_lt (not_le.1 hlt))
    rw [Nat.mul_succ] at this
    omega
  have hge : m ≤ num / den + 1 := by
    by_contra hlt
    have := Nat.mul_le_mul_left den (Nat.succ_le_of_lt (not_le.1 hlt))
    rw [Nat.mul_succ, Nat.mul_succ] at this
    omega
  unfold roundDiv
  dsimp only
  rcases Nat.eq_or_lt_of_le hle with heq | hlt
  · rw [← heq] at hlow' hhigh' hodd' ⊢
    split
    · rfl
    · split
      · omega
      · omega
  · obtain rfl : m = num / den + 1 := by omega
    rw [Nat.mul_succ] at hlow' hhigh' hodd'
    split
    · omega
    · split
      · rfl
      · omega

/-- A quotient is not rounded below an integer that it is not below. -/
theorem le_roundDiv (hden : 0 < den) (h : (m : ℚ) ≤ num / den) : m ≤ roundDiv num den := by
  have hm : m ≤ num / den := by
    rw [le_div_iff₀ (Nat.cast_pos.2 hden)] at h
    exact (Nat.le_div_iff_mul_le hden).2 (by exact_mod_cast h)
  unfold roundDiv
  dsimp only
  split
  · exact hm
  · split <;> omega

/-- A quotient is not rounded above an integer that it is not above. -/
theorem roundDiv_le (hden : 0 < den) (h : (num : ℚ) / den ≤ m) : roundDiv num den ≤ m := by
  have hm : num ≤ den * m := by
    rw [div_le_iff₀ (Nat.cast_pos.2 hden), mul_comm] at h
    exact_mod_cast h
  have hsplit : den * (num / den) + num % den = num := Nat.div_add_mod num den
  unfold roundDiv
  dsimp only
  rcases Nat.lt_or_ge (num / den) m with hlt | hge
  · split
    · omega
    · split <;> omega
  · -- a quotient that is not below the integer is the integer
    have hmul := Nat.mul_le_mul_left den hge
    have hrest : num % den = 0 := by omega
    have hq : num / den ≤ m := Nat.le_of_mul_le_mul_left (by omega) hden
    rw [hrest, if_pos hden]
    exact hq

/-! ### Rounding to a number -/

/-- The quotient in units of a power of two. -/
theorem scaled_eq (hden : 0 < den) (e : Int) :
    ((num * Nat.pow 2 (-e).toNat : Nat) : ℚ) / (den * Nat.pow 2 e.toNat : Nat) =
      (num : ℚ) / den / 2 ^ e := by
  have hpow := natPow_div_natPow 2 e
  have hhigh : ((Nat.pow 2 e.toNat : Nat) : ℚ) ≠ 0 :=
    Nat.cast_ne_zero.2 (natPow_pos (by decide) _).ne'
  have hlow : ((Nat.pow 2 (-e).toNat : Nat) : ℚ) ≠ 0 :=
    Nat.cast_ne_zero.2 (natPow_pos (by decide) _).ne'
  have hdenq : (den : ℚ) ≠ 0 := Nat.cast_ne_zero.2 hden.ne'
  rw [Nat.cast_ofNat] at hpow
  rw [← hpow]
  push_cast
  field_simp

/-- The exponent of two that a quotient is rounded with, unless it is rounded up to the next power
of two. -/
def exponentOf (num den : Nat) : Int :=
  max (log2Ratio num den - 52) minExponent

/-- Rounding to a number with the scaling made uniform: one formula for exponents of both signs. -/
theorem ofRatio_eq_ite (negative : Bool) (hnum : 0 < num) :
    ofRatio negative num den =
      let e := exponentOf num den
      let m := roundDiv (num * Nat.pow 2 (-e).toNat) (den * Nat.pow 2 e.toNat)
      if m = 2 * topBit then
        if maxExponent < e + 1 then infinity negative else finite negative topBit (e + 1)
      else if maxExponent < e then infinity negative else finite negative m e := by
  have hm (e : Int) : (if 0 ≤ e then roundDiv num (den * Nat.pow 2 e.toNat)
      else roundDiv (num * Nat.pow 2 (-e).toNat) den) =
      roundDiv (num * Nat.pow 2 (-e).toNat) (den * Nat.pow 2 e.toNat) := by
    split
    · rename_i he
      have hneg : (-e).toNat = 0 := by omega
      rw [hneg]
      show _ = roundDiv (num * 1) _
      rw [Nat.mul_one]
    · rename_i he
      have hpos : e.toNat = 0 := by omega
      rw [hpos]
      show _ = roundDiv _ (den * 1)
      rw [Nat.mul_one]
  rw [ofRatio, if_neg hnum.ne']
  dsimp only
  rw [hm, exponentOf]
  split
  · rfl
  · rfl

/-- The smallest significand of 53 bits as a power of two. -/
theorem topBit_eq : ((topBit : Nat) : ℚ) = 2 ^ (52 : Int) := by
  norm_num [topBit]

/-- The quotient in units of a power of two is below the last power that fits a significand exactly
if the exponent in its value is small enough. -/
theorem div_zpow_lt_iff (hnum : 0 < num) (hden : 0 < den) (n : Nat) :
    (num : ℚ) / den / 2 ^ e < 2 ^ (n : Int) ↔ log2Ratio num den < n + e := by
  obtain ⟨hlow, hhigh⟩ := log2Ratio_spec hnum hden
  rw [div_lt_iff₀ (two_zpow_pos e), ← zpow_add₀ two_ne_zero]
  constructor
  · intro h
    exact (zpow_lt_zpow_iff_right₀ one_lt_two).1 (hlow.trans_lt h)
  · intro h
    exact hhigh.trans_le ((zpow_le_zpow_iff_right₀ one_lt_two).2 (by omega))

/-- The number that a quotient is rounded to is in the form in which numbers are kept. -/
theorem isKept_ofRatio (negative : Bool) (num : Nat) (hden : 0 < den) :
    (ofRatio negative num den).IsKept := by
  rcases Nat.eq_zero_or_pos num with rfl | hnum
  · exact isKept_zero negative
  rw [ofRatio_eq_ite negative hnum]
  dsimp only
  generalize he : exponentOf num den = e
  have hden' : 0 < den * Nat.pow 2 e.toNat := Nat.mul_pos hden (natPow_pos (by decide) _)
  have hmin : minExponent ≤ e := he ▸ le_max_right _ _
  have hle : log2Ratio num den - 52 ≤ e := he ▸ le_max_left _ _
  -- the exponent is the least for which the quotient has at most 53 bits, if it is not at its limit
  have hbelow : roundDiv (num * Nat.pow 2 (-e).toNat) (den * Nat.pow 2 e.toNat) ≤ 2 * topBit := by
    refine roundDiv_le hden' ?_
    have hlt := (div_zpow_lt_iff (e := e) hnum hden 53).2 (by push_cast; omega)
    rw [scaled_eq hden]
    refine hlt.le.trans (le_of_eq ?_)
    norm_num [topBit]
  have hleast : topBit ≤ roundDiv (num * Nat.pow 2 (-e).toNat) (den * Nat.pow 2 e.toNat) ∨
      e = minExponent := by
    rcases eq_or_ne e minExponent with heq | hne
    · exact .inr heq
    · refine .inl (le_roundDiv hden' ?_)
      have hge := mt (div_zpow_lt_iff (e := e) hnum hden 52).1
        (by unfold exponentOf at he; push_cast; omega)
      rw [scaled_eq hden, topBit_eq]
      exact not_lt.1 hge
  split
  · split
    · trivial
    · exact ⟨by omega, by omega, by decide, .inl (le_refl _)⟩
  · split
    · trivial
    · exact ⟨hmin, by omega, by omega, hleast⟩

/-! ### Intervals -/

/-- A rational lies in the interval of what rounds to `significand * 2 ^ exponent`. The ends of the
interval belong to it if the significand is even. -/
structure RoundsTo (m : Nat) (e : Int) (q : ℚ) : Prop where
  /-- It is not below the interval. -/
  low : ((interval m e).1 : ℚ) * 2 ^ (e - 2) ≤ q
  /-- It is not above the interval. -/
  high : q ≤ (interval m e).2.2 * 2 ^ (e - 2)
  /-- It is not an end of the interval if the significand is odd. -/
  odd : m % 2 = 1 → (interval m e).1 * 2 ^ (e - 2) < q ∧ q < (interval m e).2.2 * 2 ^ (e - 2)

namespace RoundsTo

/-- The distance of the lower end of the interval from the number, in units of the last place. -/
theorem low_eq (hm : 0 < m) : ((interval m e).1 : ℚ) * 2 ^ (e - 2) =
    (m - if m = topBit ∧ minExponent < e then 1 / 4 else 1 / 2) * 2 ^ e := by
  have hpow : (2 : ℚ) ^ (e - 2) = 2 ^ e / 4 := by
    rw [zpow_sub₀ two_ne_zero]
    norm_num
  rw [hpow, interval]
  dsimp only
  split
  · rw [Nat.cast_sub (by omega)]
    push_cast
    ring
  · rw [Nat.cast_sub (by omega)]
    push_cast
    ring

/-- The upper end of the interval is half a unit of the last place above the number. -/
theorem high_eq : ((interval m e).2.2 : ℚ) * 2 ^ (e - 2) = (m + 1 / 2) * 2 ^ e := by
  have hpow : (2 : ℚ) ^ (e - 2) = 2 ^ e / 4 := by
    rw [zpow_sub₀ two_ne_zero]
    norm_num
  rw [hpow, interval]
  push_cast
  ring

/-- In units of the last place the lower end is a half or, at a power of two, a quarter below the
number. -/
theorem low_div (h : RoundsTo m e q) (hm : 0 < m) :
    (m : ℚ) - (if m = topBit ∧ minExponent < e then 1 / 4 else 1 / 2) ≤ q / 2 ^ e := by
  rw [le_div_iff₀ (two_zpow_pos e), ← low_eq hm]
  exact h.low

/-- The upper end is half a unit above it. -/
theorem high_div (h : RoundsTo m e q) : q / 2 ^ e ≤ m + 1 / 2 := by
  rw [div_le_iff₀ (two_zpow_pos e), ← high_eq]
  exact h.high

/-- In units of the last place the distance from the number is at most one half. -/
theorem half_le_div (h : RoundsTo m e q) (hm : 0 < m) : (m : ℚ) - 1 / 2 ≤ q / 2 ^ e := by
  refine le_trans ?_ (h.low_div hm)
  split <;> linarith

/-- Where the significand is odd, the ends do not belong to the interval. -/
theorem odd_div (h : RoundsTo m e q) (hm : 0 < m) (hodd : m % 2 = 1) :
    (m : ℚ) - 1 / 2 < q / 2 ^ e ∧ q / 2 ^ e < m + 1 / 2 := by
  obtain ⟨hlow, hhigh⟩ := h.odd hodd
  rw [low_eq hm, ← lt_div_iff₀ (two_zpow_pos e)] at hlow
  rw [high_eq, ← div_lt_iff₀ (two_zpow_pos e)] at hhigh
  refine ⟨lt_of_le_of_lt ?_ hlow, hhigh⟩
  split <;> linarith

/-- The interval of a number above zero lies above zero. -/
theorem pos (h : RoundsTo m e q) (hm : 0 < m) : 0 < q := by
  have hone : (1 : ℚ) ≤ m := by exact_mod_cast hm
  have hdiv : 0 < q / 2 ^ e := by
    have := h.half_le_div hm
    linarith
  exact (div_pos_iff_of_pos_right (two_zpow_pos e)).1 hdiv

/-- A quotient that is rounded to a number above zero has a numerator above zero. -/
theorem num_pos (hm : 0 < m) (h : RoundsTo m e ((num : ℚ) / den)) : 0 < num := by
  have hpos := h.pos hm
  rcases Nat.eq_zero_or_pos num with rfl | hnum
  · simp at hpos
  · exact hnum

/-- What rounds to a number is not so large that it would need a larger exponent than the next
one. -/
theorem log2Ratio_lt (hkept : Kept m e) (hnum : 0 < num) (hden : 0 < den)
    (h : RoundsTo m e ((num : ℚ) / den)) : log2Ratio num den < 53 + e := by
  refine (div_zpow_lt_iff hnum hden 53).1 ?_
  have hlt : (m : ℚ) + 1 ≤ ((2 * topBit : Nat) : ℚ) := by exact_mod_cast hkept.lt_twice
  have htop : ((2 * topBit : Nat) : ℚ) = 2 ^ ((53 : Nat) : Int) := by norm_num [topBit]
  rw [← htop]
  have := h.high_div
  linarith

/-- A quotient in the interval of a number is rounded with the exponent of that number, unless it is
just below the power of two that it is rounded to: there the next smaller exponent is used. -/
theorem exponentOf_cases (hkept : Kept m e) (hm : 0 < m) (hden : 0 < den)
    (h : RoundsTo m e ((num : ℚ) / den)) :
    exponentOf num den = e ∨
      m = topBit ∧ exponentOf num den = e - 1 ∧
        (topBit : ℚ) - 1 / 4 ≤ (num : ℚ) / den / 2 ^ e ∧ (num : ℚ) / den / 2 ^ e < topBit := by
  have hnum := h.num_pos hm
  have hlog := h.log2Ratio_lt hkept hnum hden
  have hmin := hkept.minExponent_le
  rcases Classical.em (exponentOf num den = e) with heq | hne
  · exact .inl heq
  have hnotmin : minExponent < e := by
    unfold exponentOf at hne
    omega
  -- another exponent is found only where the quotient has fewer bits than the number
  have hbelow : (num : ℚ) / den / 2 ^ e < topBit := by
    rw [topBit_eq]
    refine (div_zpow_lt_iff hnum hden 52).2 ?_
    unfold exponentOf at hne
    push_cast
    omega
  have hpower : m = topBit := by
    have hle : topBit ≤ m := hkept.topBit_le.resolve_right hnotmin.ne'
    have hlt : (m : ℚ) < ((topBit + 1 : Nat) : ℚ) := by
      have := h.half_le_div hm
      push_cast
      linarith
    have : m < topBit + 1 := by exact_mod_cast hlt
    omega
  have hquarter : (topBit : ℚ) - 1 / 4 ≤ (num : ℚ) / den / 2 ^ e := by
    have := h.low_div hm
    rwa [if_pos ⟨hpower, hnotmin⟩, hpower] at this
  have hge : ¬log2Ratio num den < 51 + e := by
    refine mt (div_zpow_lt_iff hnum hden 51).2 (not_lt.2 (le_trans ?_ hquarter))
    norm_num [topBit]
  refine .inr ⟨hpower, ?_, hquarter, hbelow⟩
  unfold exponentOf at hne ⊢
  omega

/-- A quotient in the interval of a number is rounded to it. -/
theorem ofRatio_eq (hkept : Kept m e) (hm : 0 < m) (hden : 0 < den)
    (h : RoundsTo m e ((num : ℚ) / den)) (negative : Bool) :
    ofRatio negative num den = finite negative m e := by
  have hmax := hkept.le_maxExponent
  have hden' (e : Int) : 0 < den * Nat.pow 2 e.toNat := Nat.mul_pos hden (natPow_pos (by decide) _)
  rw [ofRatio_eq_ite negative (h.num_pos hm)]
  dsimp only
  obtain heq | ⟨hpower, heq, hlow, hhigh⟩ := h.exponentOf_cases hkept hm hden
  · have hround : roundDiv (num * Nat.pow 2 (-e).toNat) (den * Nat.pow 2 e.toNat) = m := by
      apply roundDiv_eq (hden' e)
      · rw [scaled_eq hden]
        exact h.half_le_div hm
      · rw [scaled_eq hden]
        exact h.high_div
      · rw [scaled_eq hden]
        exact h.odd_div hm
    have hlt := hkept.lt_twice
    rw [heq, hround, if_neg (by omega), if_neg (by omega)]
  · -- in units of the smaller exponent the quotient is at most one half below the power of two
    have hdouble : (num : ℚ) / den / 2 ^ (e - 1) = 2 * ((num : ℚ) / den / 2 ^ e) := by
      rw [zpow_sub_one₀ two_ne_zero]
      field_simp
    have hround : roundDiv (num * Nat.pow 2 (-(e - 1)).toNat) (den * Nat.pow 2 (e - 1).toNat) =
        2 * topBit := by
      apply roundDiv_eq (hden' _)
      · rw [scaled_eq hden, hdouble]
        push_cast
        linarith
      · rw [scaled_eq hden, hdouble]
        push_cast
        linarith
      · intro hodd
        omega
    rw [heq, hround, if_pos rfl, sub_add_cancel, if_neg (by omega), hpower]

end RoundsTo

/-! ### Decimals -/

/-- A number is below the power of ten with as many zeros as it has digits. -/
theorem lt_pow_digitCount (n : Nat) : n < 10 ^ digitCount n :=
  (Nat.length_toDigits_le_iff (by decide) (List.length_pos_iff.2 Nat.toDigits_ne_nil)).1 (le_refl _)

/-- A number is not below the power of ten with one zero less than it has digits. -/
theorem pow_digitCount_le {n : Nat} (hn : 0 < n) : 10 ^ (digitCount n - 1) ≤ n := by
  rcases Nat.eq_zero_or_pos (digitCount n - 1) with hone | hmore
  · rw [hone]
    exact hn
  · by_contra hlt
    have hle := (Nat.length_toDigits_le_iff (by decide) hmore).2 (not_le.1 hlt)
    unfold digitCount at hmore hle
    omega

/-- The decimal in terms of powers of ten around it. -/
theorem decimal_bounds {digits : Nat} (hdigits : 0 < digits) (place : Int) :
    (10 : ℚ) ^ (place + digitCount digits - 1) ≤ digits * 10 ^ place ∧
      (digits : ℚ) * 10 ^ place < 10 ^ (place + digitCount digits) := by
  have hten : (0 : ℚ) < 10 ^ place := zpow_pos (by norm_num) place
  have hcount : 0 < digitCount digits := List.length_pos_iff.2 Nat.toDigits_ne_nil
  have hlow : ((10 ^ (digitCount digits - 1) : Nat) : ℚ) ≤ digits :=
    Nat.cast_le.2 (pow_digitCount_le hdigits)
  have hhigh : (digits : ℚ) < ((10 ^ digitCount digits : Nat) : ℚ) :=
    Nat.cast_lt.2 (lt_pow_digitCount digits)
  constructor
  · have hpow : (10 : ℚ) ^ (place + digitCount digits - 1) =
        ((10 ^ (digitCount digits - 1) : Nat) : ℚ) * 10 ^ place := by
      rw [Nat.cast_pow, Nat.cast_ofNat, ← zpow_natCast, ← zpow_add₀ (by norm_num)]
      congr 1
      omega
    rw [hpow]
    exact mul_le_mul_of_nonneg_right hlow hten.le
  · have hpow : (10 : ℚ) ^ (place + digitCount digits) =
        ((10 ^ digitCount digits : Nat) : ℚ) * 10 ^ place := by
      rw [Nat.cast_pow, Nat.cast_ofNat, ← zpow_natCast, ← zpow_add₀ (by norm_num), add_comm]
    rw [hpow]
    exact mul_lt_mul_of_pos_right hhigh hten

/-- A decimal is rounded to a number in the form in which numbers are kept. -/
theorem isKept_ofDecimal (negative : Bool) (digits : Nat) (place : Int) :
    (ofDecimal negative digits place).IsKept := by
  unfold ofDecimal
  dsimp only
  split
  · exact isKept_zero negative
  · split
    · trivial
    · split
      · exact isKept_ofRatio negative _ Nat.one_pos
      · exact isKept_ofRatio negative _ (natPow_pos (by decide) _)

/-- An integer is rounded to a number in the form in which numbers are kept. -/
theorem isKept_ofInt (n : Int) : (ofInt n).IsKept :=
  isKept_ofRatio _ _ Nat.one_pos

/-- All exponents of two that occur are small beside four hundred decimal places. -/
theorem two_zpow_lt_ten_zpow {k : Int} (hk : k < 1200) : (2 : ℚ) ^ k < 10 ^ (400 : Int) := by
  have height : (2 : ℚ) ^ ((3 : Int) * 400) ≤ 10 ^ (400 : Int) := by
    rw [zpow_mul]
    exact zpow_le_zpow_left₀ (by norm_num) (by norm_num) (by norm_num)
  exact (zpow_lt_zpow_right₀ one_lt_two hk).trans_le height

/-- A rational in the interval of a number is not so large or small that its order of magnitude
alone would decide what it rounds to. -/
theorem RoundsTo.magnitude (hkept : Kept m e) (hm : 0 < m) (h : RoundsTo m e q) :
    (10 : ℚ) ^ (-400 : Int) < q ∧ q < 10 ^ (400 : Int) := by
  have hone : (1 : ℚ) ≤ m := by exact_mod_cast hm
  have hmin := hkept.minExponent_le
  have hmax := hkept.le_maxExponent
  constructor
  · have hhalf : (2 : ℚ) ^ (e - 1) ≤ q := by
      have hlow := h.half_le_div hm
      rw [le_div_iff₀ (two_zpow_pos e)] at hlow
      rw [zpow_sub_one₀ two_ne_zero]
      refine le_trans ?_ hlow
      rw [mul_comm]
      exact mul_le_mul_of_nonneg_right (by linarith) (two_zpow_pos e).le
    have hlarge : (2 : ℚ) ^ (1 - e) < 10 ^ (400 : Int) :=
      two_zpow_lt_ten_zpow (by unfold minExponent at hmin; omega)
    refine lt_of_lt_of_le ?_ hhalf
    have hinv := inv_strictAnti₀ (two_zpow_pos (1 - e)) hlarge
    rwa [← zpow_neg, ← zpow_neg, neg_sub] at hinv
  · have hbits : (m : ℚ) + 1 ≤ 2 ^ (53 : Int) := by
      have hlt : (m : ℚ) + 1 ≤ ((2 * topBit : Nat) : ℚ) := by exact_mod_cast hkept.lt_twice
      refine hlt.trans (le_of_eq ?_)
      norm_num [topBit]
    have hhigh := h.high_div
    rw [div_le_iff₀ (two_zpow_pos e)] at hhigh
    calc q ≤ (m + 1 / 2) * 2 ^ e := hhigh
      _ ≤ 2 ^ (53 : Int) * 2 ^ e :=
        mul_le_mul_of_nonneg_right (by linarith) (two_zpow_pos e).le
      _ = 2 ^ (53 + e) := (zpow_add₀ two_ne_zero 53 e).symm
      _ < 10 ^ (400 : Int) := two_zpow_lt_ten_zpow (by unfold maxExponent at hmax; omega)

/-- A decimal in the interval of a number is rounded to it. -/
theorem RoundsTo.ofDecimal_eq {digits : Nat} {place : Int} (hkept : Kept m e) (hm : 0 < m)
    (h : RoundsTo m e (digits * 10 ^ place)) (negative : Bool) :
    ofDecimal negative digits place = finite negative m e := by
  have hdigits : 0 < digits := by
    have := h.pos hm
    rcases Nat.eq_zero_or_pos digits with rfl | hdigits
    · simp at this
    · exact hdigits
  obtain ⟨hleast, hmost⟩ := h.magnitude hkept hm
  obtain ⟨hlow, hhigh⟩ := decimal_bounds hdigits place
  -- the decimal is neither so small nor so large that it is not divided out
  have hsmall : -400 < place + digitCount digits :=
    (zpow_lt_zpow_iff_right₀ (by norm_num)).1 (hleast.trans hhigh)
  have hlarge : place + digitCount digits - 1 < 400 :=
    (zpow_lt_zpow_iff_right₀ (by norm_num)).1 (hlow.trans_lt hmost)
  unfold ofDecimal
  dsimp only
  rw [if_neg (by omega), if_neg (by omega)]
  have hpow := natPow_div_natPow 10 place
  rw [Nat.cast_ofNat] at hpow
  split
  · rename_i hplace
    refine RoundsTo.ofRatio_eq hkept hm Nat.one_pos ?_ negative
    have hneg : (-place).toNat = 0 := by omega
    rw [hneg] at hpow
    have hone : ((Nat.pow 10 0 : Nat) : ℚ) = 1 := Nat.cast_one
    rw [hone, div_one] at hpow
    rw [Nat.cast_mul, hpow, Nat.cast_one, div_one]
    exact h
  · rename_i hplace
    refine RoundsTo.ofRatio_eq hkept hm (natPow_pos (by decide) _) ?_ negative
    have hpos : place.toNat = 0 := by omega
    rw [hpos] at hpow
    have hone : ((Nat.pow 10 0 : Nat) : ℚ) = 1 := Nat.cast_one
    rw [hone, one_div] at hpow
    rw [div_eq_mul_inv, hpow]
    exact h

end Binary64

end ChannelGraph
