import ChannelGraph.Proofs.Decimal.Rounding

/-!
# The shortest decimal rounds to the number

A point of a decimal grid is accepted only if it lies in the interval of the number
(`roundsTo_of_nearestOnGrid`). On the finest of the grids that are tried, the one with seventeen
digits, the step is smaller than the interval is wide, so one of the two neighbours of the number
lies in it (`isSome_nearestOnGrid`): some grid has a point to offer, and what is chosen rounds to
the number (`roundsTo_shortest`).
-/

namespace ChannelGraph

namespace Binary64

variable {num den m c : Nat} {e place : Int} {d : Decimal}

/-! ### The power of ten below a quotient -/

/-- The exponent that is found for a quotient is that of a power of ten below it. -/
theorem zpow_log10Ratio_le (hnum : 0 < num) (hden : 0 < den) :
    (10 : ℚ) ^ log10Ratio num den ≤ num / den := by
  have hpow (k : Int) : (10 : ℚ) ^ k ≤ num / den ↔
      den * Nat.pow 10 k.toNat ≤ num * Nat.pow 10 (-k).toNat := by
    have hiff : ((10 : Nat) : ℚ) ^ k ≤ num / den ↔
        den * Nat.pow 10 k.toNat ≤ num * Nat.pow 10 (-k).toNat :=
      zpow_le_div_iff (by decide) hden
    rwa [Nat.cast_ofNat] at hiff
  unfold log10Ratio
  rw [hpow]
  split
  · -- from one on, the digits of the integral part are counted
    rename_i hle
    have hquotient : 0 < num / den := Nat.div_pos hle hden
    have hcount := pow_digitCount_le hquotient
    have hpos : ((digitCount (num / den) : Int) - 1).toNat = digitCount (num / den) - 1 := by omega
    have hneg : (-((digitCount (num / den) : Int) - 1)).toNat = 0 := by
      have : 0 < digitCount (num / den) := List.length_pos_iff.2 Nat.toDigits_ne_nil
      omega
    rw [hpos, hneg]
    calc den * Nat.pow 10 (digitCount (num / den) - 1) ≤ den * (num / den) :=
          Nat.mul_le_mul_left den hcount
      _ ≤ num := Nat.mul_div_le num den
      _ = num * Nat.pow 10 0 := (Nat.mul_one num).symm
  · -- below one, those of its inverse are, which is a power of ten or lies between two
    rename_i hlt
    have hcount : 0 < digitCount (den / num) := List.length_pos_iff.2 Nat.toDigits_ne_nil
    dsimp only
    split
    · rename_i hfits
      have hpos : (1 - (digitCount (den / num) : Int)).toNat = 0 := by omega
      have hneg : (-(1 - (digitCount (den / num) : Int))).toNat = digitCount (den / num) - 1 := by
        omega
      rw [hpos, hneg]
      exact (Nat.mul_one den).le.trans hfits
    · have hpos : (-(digitCount (den / num) : Int)).toNat = 0 := by omega
      have hneg : (-(-(digitCount (den / num) : Int))).toNat = digitCount (den / num) := by omega
      rw [hpos, hneg]
      calc den * Nat.pow 10 0 = den := Nat.mul_one den
        _ ≤ num * (den / num + 1) := (Nat.lt_mul_div_succ den hnum).le
        _ ≤ num * Nat.pow 10 (digitCount (den / num)) :=
          Nat.mul_le_mul_left num (lt_pow_digitCount (den / num))

/-! ### Points of a grid -/

/-- One step of a decimal grid, in the measure that it has in common with the interval. -/
def gridStep (e place : Int) : Nat :=
  Nat.pow 10 place.toNat * Nat.pow 2 (2 - e).toNat

/-- One quarter of the last place of a number, in the same measure. -/
def gridUnit (e place : Int) : Nat :=
  Nat.pow 2 (e - 2).toNat * Nat.pow 10 (-place).toNat

theorem gridStep_pos (e place : Int) : 0 < gridStep e place :=
  Nat.mul_pos (natPow_pos (by decide) _) (natPow_pos (by decide) _)

theorem gridUnit_pos (e place : Int) : 0 < gridUnit e place :=
  Nat.mul_pos (natPow_pos (by decide) _) (natPow_pos (by decide) _)

/-- In a common measure the step of the grid is a power of ten and the unit of the interval a power
of two. -/
theorem exists_measure (e place : Int) : ∃ D : ℚ, 0 < D ∧
    (gridStep e place : ℚ) = 10 ^ place * D ∧ (gridUnit e place : ℚ) = 2 ^ (e - 2) * D := by
  have hten := natPow_div_natPow 10 place
  have htwo := natPow_div_natPow 2 (e - 2)
  rw [neg_sub] at htwo
  rw [Nat.cast_ofNat] at hten htwo
  have hpos (b n : Nat) (hb : 0 < b) : (0 : ℚ) < (Nat.pow b n : Nat) :=
    Nat.cast_pos.2 (natPow_pos hb n)
  have h₁ := hpos 10 (-place).toNat (by decide)
  have h₂ := hpos 2 (2 - e).toNat (by decide)
  refine ⟨(Nat.pow 10 (-place).toNat : Nat) * (Nat.pow 2 (2 - e).toNat : Nat), mul_pos h₁ h₂,
    ?_, ?_⟩
  · rw [gridStep, ← hten, Nat.cast_mul]
    field_simp
  · rw [gridUnit, ← htwo, Nat.cast_mul]
    field_simp

/-- Ends of the interval are compared with decimals on a common grid of natural numbers. -/
theorem unit_le_step_iff (n c : Nat) (e place : Int) :
    n * gridUnit e place ≤ c * gridStep e place ↔ (n : ℚ) * 2 ^ (e - 2) ≤ c * 10 ^ place := by
  obtain ⟨D, hD, hstep, hunit⟩ := exists_measure e place
  rw [← Nat.cast_le (α := ℚ), Nat.cast_mul, Nat.cast_mul, hstep, hunit, ← mul_assoc, ← mul_assoc]
  exact mul_le_mul_iff_of_pos_right hD

/-- Decimals are compared with ends of the interval on a common grid of natural numbers. -/
theorem step_le_unit_iff (n c : Nat) (e place : Int) :
    c * gridStep e place ≤ n * gridUnit e place ↔ (c : ℚ) * 10 ^ place ≤ n * 2 ^ (e - 2) := by
  obtain ⟨D, hD, hstep, hunit⟩ := exists_measure e place
  rw [← Nat.cast_le (α := ℚ), Nat.cast_mul, Nat.cast_mul, hstep, hunit, ← mul_assoc, ← mul_assoc]
  exact mul_le_mul_iff_of_pos_right hD

/-- Whether a point of a grid lies in the interval of a number. -/
def onInterval (m : Nat) (e place : Int) (c : Nat) : Bool :=
  let (low, _, high) := interval m e
  if m % 2 = 0 then
    low * gridUnit e place ≤ c * gridStep e place ∧ c * gridStep e place ≤ high * gridUnit e place
  else
    low * gridUnit e place < c * gridStep e place ∧ c * gridStep e place < high * gridUnit e place

/-- The test on the grid decides whether a decimal rounds to the number. -/
theorem onInterval_iff : onInterval m e place c = true ↔ RoundsTo m e (c * 10 ^ place) := by
  have hlow := unit_le_step_iff (interval m e).1 c e place
  have hhigh := step_le_unit_iff (interval m e).2.2 c e place
  have hlow' := not_congr (step_le_unit_iff (interval m e).1 c e place)
  have hhigh' := not_congr (unit_le_step_iff (interval m e).2.2 c e place)
  rw [not_le, not_le] at hlow' hhigh'
  unfold onInterval
  dsimp only
  constructor
  · intro h
    split at h
    · rename_i heven
      obtain ⟨hl, hh⟩ := of_decide_eq_true h
      exact ⟨hlow.1 hl, hhigh.1 hh, fun hodd ↦ by omega⟩
    · obtain ⟨hl, hh⟩ := of_decide_eq_true h
      exact ⟨hlow.1 hl.le, hhigh.1 hh.le, fun _ ↦ ⟨hlow'.1 hl, hhigh'.1 hh⟩⟩
  · intro h
    split
    · exact decide_eq_true ⟨hlow.2 h.low, hhigh.2 h.high⟩
    · rename_i hodd
      obtain ⟨hl, hh⟩ := h.odd (by omega)
      exact decide_eq_true ⟨hlow'.2 hl, hhigh'.2 hh⟩

/-- The nearest decimal is found by dividing once on the grid. -/
theorem nearestOnGrid_eq (m : Nat) (e place : Int) : nearestOnGrid m e place =
    let mid := (interval m e).2.1 * gridUnit e place
    let c := mid / gridStep e place
    let below := mid - c * gridStep e place
    let above := (c + 1) * gridStep e place - mid
    let pick : Option Nat :=
      match onInterval m e place c, onInterval m e place (c + 1) with
      | true, true => if below < above ∨ (below = above ∧ c % 2 = 0) then some c else some (c + 1)
      | true, false => some c
      | false, true => some (c + 1)
      | false, false => none
    pick.map fun d ↦ ⟨d, place⟩ :=
  rfl

/-- A point of a grid is chosen only if it rounds to the number. -/
theorem roundsTo_of_nearestOnGrid (h : nearestOnGrid m e place = some d) :
    RoundsTo m e (d.digits * 10 ^ d.exponent) := by
  rw [nearestOnGrid_eq] at h
  obtain ⟨c, hpick, rfl⟩ := Option.map_eq_some_iff.1 h
  refine onInterval_iff.1 ?_
  split at hpick
  · rename_i hthis hnext
    split at hpick
    · rwa [← Option.some.inj hpick]
    · rwa [← Option.some.inj hpick]
  · rename_i hthis hnext
    rwa [← Option.some.inj hpick]
  · rename_i hthis hnext
    rwa [← Option.some.inj hpick]
  · cases hpick

/-- A grid whose step is smaller than the interval is wide has a point to offer: of the two
neighbours of the number one would be below the interval and the other one above it. -/
theorem isSome_nearestOnGrid
    (hwide : (10 : ℚ) ^ place < ((interval m e).2.2 - (interval m e).1 : Nat) * 2 ^ (e - 2)) :
    (nearestOnGrid m e place).isSome := by
  have hstep : gridStep e place <
      ((interval m e).2.2 - (interval m e).1) * gridUnit e place := by
    have hiff := not_congr (unit_le_step_iff ((interval m e).2.2 - (interval m e).1) 1 e place)
    rw [not_le, not_le, Nat.cast_one, one_mul, one_mul] at hiff
    exact hiff.2 hwide
  have hunit := gridUnit_pos e place
  have hlow : (interval m e).1 ≤ (interval m e).2.1 := Nat.sub_le _ _
  have hhigh : (interval m e).2.1 < (interval m e).2.2 := Nat.lt_add_of_pos_right Nat.two_pos
  rw [Nat.sub_mul] at hstep
  have hlow := Nat.mul_le_mul_right (gridUnit e place) hlow
  have hhigh := Nat.mul_lt_mul_of_pos_right hhigh hunit
  rw [nearestOnGrid_eq, Option.isSome_map]
  split
  · split <;> rfl
  · rfl
  · rfl
  · -- if neither neighbour were on the interval, the step between them would be as wide
    rename_i hthis hnext
    unfold onInterval at hthis hnext
    dsimp only at hthis hnext
    generalize hmid : (interval m e).2.1 * gridUnit e place = mid at *
    generalize (interval m e).1 * gridUnit e place = low at *
    generalize (interval m e).2.2 * gridUnit e place = high at *
    have hbelow : mid / gridStep e place * gridStep e place ≤ mid := Nat.div_mul_le_self _ _
    have habove : mid < (mid / gridStep e place + 1) * gridStep e place := by
      rw [Nat.mul_comm]
      exact Nat.lt_mul_div_succ mid (gridStep_pos e place)
    rw [Nat.add_mul, Nat.one_mul] at hnext habove
    generalize mid / gridStep e place * gridStep e place = point at *
    split at hthis
    · rw [if_pos ‹_›] at hnext
      have hthis := of_decide_eq_false hthis
      have hnext := of_decide_eq_false hnext
      omega
    · rw [if_neg ‹_›] at hnext
      have hthis := of_decide_eq_false hthis
      have hnext := of_decide_eq_false hnext
      omega

/-! ### The grids that are tried -/

/-- The place of the first digit of a number. -/
def topPlace (m : Nat) (e : Int) : Int :=
  if 0 ≤ e then log10Ratio (m * Nat.pow 2 e.toNat) 1 else log10Ratio m (Nat.pow 2 (-e).toNat)

/-- The first place that is tried is not above the number. -/
theorem zpow_topPlace_le (hm : 0 < m) (e : Int) : (10 : ℚ) ^ topPlace m e ≤ m * 2 ^ e := by
  have hpow := natPow_div_natPow 2 e
  have hone : ((Nat.pow 2 0 : Nat) : ℚ) = 1 := Nat.cast_one
  rw [Nat.cast_ofNat] at hpow
  unfold topPlace
  split
  · rename_i he
    have hneg : (-e).toNat = 0 := by omega
    rw [hneg, hone, div_one] at hpow
    refine (zpow_log10Ratio_le (Nat.mul_pos hm (natPow_pos (by decide) _)) Nat.one_pos).trans ?_
    rw [Nat.cast_mul, hpow, Nat.cast_one, div_one]
  · rename_i he
    have hpos : e.toNat = 0 := by omega
    rw [hpos, hone, one_div] at hpow
    refine (zpow_log10Ratio_le hm (natPow_pos (by decide) _)).trans ?_
    rw [div_eq_mul_inv, hpow]

/-- The interval is as wide as the last place, or three quarters of it where the numbers below are
twice as dense. -/
theorem interval_width (hm : 0 < m) : (interval m e).2.2 - (interval m e).1 =
    if m = topBit ∧ minExponent < e then 3 else 4 := by
  unfold interval
  dsimp only
  split <;> omega

/-- Seventeen digits are enough: the step of their grid is smaller than the interval is wide. -/
theorem finest_step_lt (hkept : Kept m e) (hm : 0 < m) : (10 : ℚ) ^ (topPlace m e - 16) <
    ((interval m e).2.2 - (interval m e).1 : Nat) * 2 ^ (e - 2) := by
  have hstep : (10 : ℚ) ^ (topPlace m e - 16) * 10 ^ (16 : Int) ≤ m * 2 ^ e := by
    rw [← zpow_add₀ (by norm_num), sub_add_cancel]
    exact zpow_topPlace_le hm e
  have hpow : (2 : ℚ) ^ (e - 2) = 2 ^ e / 4 := by
    rw [zpow_sub₀ two_ne_zero]
    norm_num
  have hplace := two_zpow_pos e
  rw [interval_width hm, hpow]
  split
  · rename_i hedge
    have hbits : (m : ℚ) = 2 ^ 52 := by
      rw [hedge.1]
      norm_num [topBit]
    rw [hbits] at hstep
    norm_num at hstep ⊢
    linarith
  · have hbits : (m : ℚ) ≤ 2 ^ 53 := by
      have hlt := hkept.lt_twice
      unfold topBit at hlt
      have : m ≤ 2 ^ 53 := by
        have : 2 * Nat.pow 2 52 = 2 ^ 53 := by decide
        omega
      exact_mod_cast this
    have hvalue : (m : ℚ) * 2 ^ e ≤ 2 ^ 53 * 2 ^ e := mul_le_mul_of_nonneg_right hbits hplace.le
    norm_num at hstep hvalue ⊢
    linarith

/-- The shortest decimal of a number rounds to it. -/
theorem roundsTo_shortest (hkept : Kept m e) (hm : 0 < m) :
    RoundsTo m e ((shortest m e).digits * 10 ^ (shortest m e).exponent) := by
  have hfinest : topPlace m e - (16 : Nat) ∈ (List.range 17).map fun n : Nat ↦ topPlace m e - n :=
    List.mem_map.2 ⟨16, by decide, rfl⟩
  have hsome : (nearestOnGrid m e (topPlace m e - (16 : Nat))).isSome :=
    isSome_nearestOnGrid (finest_step_lt hkept hm)
  have heq : shortest m e = (((List.range 17).map fun n : Nat ↦ topPlace m e - n).findSome?
      (nearestOnGrid m e)).getD ⟨m, e⟩ := rfl
  rw [heq]
  cases hfound : ((List.range 17).map fun n : Nat ↦ topPlace m e - n).findSome?
      (nearestOnGrid m e) with
  | none =>
    rw [List.findSome?_eq_none_iff] at hfound
    rw [hfound _ hfinest] at hsome
    cases hsome
  | some d =>
    obtain ⟨place, -, hplace⟩ := List.exists_of_findSome?_eq_some hfound
    exact roundsTo_of_nearestOnGrid hplace

end Binary64

end ChannelGraph
