import ChannelGraph.Decimal.Numeral
import ChannelGraph.Decimal.Written
import ChannelGraph.Proofs.Decimal.Shortest
import Mathlib.Data.List.TakeWhile

/-!
# Runs of decimal digits

A run of digits denotes a natural number; runs behind each other denote it place by place
(`value_append`), and the digits of a number denote the number (`value_toDigits`). The digits that
are written for a number leave out the zeros at the end of its shortest decimal, so with the place
of the first of them they denote a decimal that rounds to the number
(`Binary64.roundsTo_scientific`).
-/

namespace ChannelGraph

namespace Numeral

variable {cs ds : List Char}

/-- A run of digits. -/
def IsRun (cs : List Char) : Prop :=
  ∀ c ∈ cs, c.isDigit = true

theorem IsRun.append (hcs : IsRun cs) (hds : IsRun ds) : IsRun (cs ++ ds) := by
  intro c hc
  rcases List.mem_append.1 hc with hc | hc
  · exact hcs c hc
  · exact hds c hc

theorem isRun_replicate (n : Nat) : IsRun (List.replicate n '0') := by
  intro c hc
  rw [List.eq_of_mem_replicate hc]
  rfl

/-- A number is written as a run of digits. -/
theorem isRun_toDigits (n : Nat) : IsRun (Nat.toDigits 10 n) :=
  fun _ hc ↦ Nat.isDigit_of_mem_toDigits (by decide) (by decide) hc

theorem isRun_takeWhile (cs : List Char) : IsRun (cs.takeWhile Char.isDigit) :=
  fun _ hc ↦ List.mem_takeWhile_imp hc

/-- Reading back the digits of a number gives the number. -/
theorem value_toDigits (n : Nat) : value (Nat.toDigits 10 n) = n :=
  Nat.ofDigitChars_toDigits (by decide) (by decide)

/-- More digits multiply what was read by a power of ten. -/
theorem value_append (cs ds : List Char) :
    value (cs ++ ds) = value cs * 10 ^ ds.length + value ds := by
  have hsplit : value (cs ++ ds) = Nat.ofDigitChars 10 ds (value cs) := List.foldl_append
  rw [hsplit, Nat.ofDigitChars_eq_ofDigitChars_zero, Nat.mul_comm]
  rfl

/-- Zeros denote zero. -/
theorem value_replicate (n : Nat) : value (List.replicate n '0') = 0 := by
  induction n with
  | zero => rfl
  | succ n ih =>
    rw [List.replicate_succ', value_append, ih]
    rfl

/-- Zeros in front of a run do not matter. -/
theorem value_replicate_append (n : Nat) (cs : List Char) :
    value (List.replicate n '0' ++ cs) = value cs := by
  rw [value_append, value_replicate, Nat.zero_mul, Nat.zero_add]

/-- Every zero behind a run multiplies its number by ten. -/
theorem value_append_replicate (n : Nat) (cs : List Char) :
    value (cs ++ List.replicate n '0') = value cs * 10 ^ n := by
  rw [value_append, value_replicate, List.length_replicate, Nat.add_zero]

/-- A number with k digits is below the k-th power of ten. -/
theorem value_lt (h : IsRun cs) : value cs < 10 ^ cs.length := by
  induction cs using List.reverseRecOn with
  | nil => exact Nat.one_pos
  | append_singleton cs c ih =>
    have hcs : value cs < 10 ^ cs.length := ih fun d hd ↦ h d (List.mem_append_left _ hd)
    have hc : value [c] < 10 := by
      have hdigit : 48 ≤ c.toNat ∧ c.toNat ≤ 57 := Char.isDigit_iff_toNat.1
        (h c (List.mem_append_right _ (List.mem_singleton.2 rfl)))
      show 10 * 0 + (c.toNat - 0x30) < 10
      omega
    rw [value_append, List.length_append, List.length_singleton, Nat.pow_succ]
    omega

/-! ### Numerals that are not too long -/

/-- A natural number whose numeral is not too long to be read. -/
def Readable (n : Nat) : Prop :=
  (Nat.toDigits 10 n).length ≤ digitLimit

/-- A number below a power of ten within the limit on digits can be read. -/
theorem readable_of_lt {n k : Nat} (hk : 0 < k) (hlimit : k ≤ digitLimit) (hn : n < 10 ^ k) :
    Readable n :=
  ((Nat.length_toDigits_le_iff (by decide) hk).2 hn).trans hlimit

/-- A sign does not change how many digits there are. -/
theorem natAbs_signed (negative : Bool) (cs : List Char) :
    (signed negative cs).natAbs = value cs := by
  cases negative with
  | false => exact Int.natAbs_natCast _
  | true => exact (Int.natAbs_neg _).trans (Int.natAbs_natCast _)

/-- A number whose numeral was read can be read. -/
theorem readable_signed (hrun : IsRun cs) (hne : cs ≠ []) (hlimit : cs.length ≤ digitLimit)
    (negative : Bool) : Readable (signed negative cs).natAbs := by
  rw [natAbs_signed]
  exact readable_of_lt (List.length_pos_iff.2 hne) hlimit (value_lt hrun)

/-! ### Leading zeros -/

/-- The digits of a positive number do not start with a zero. -/
theorem head_toDigits_ne {n : Nat} (hn : 0 < n) (cs : List Char) :
    Nat.toDigits 10 n ≠ '0' :: cs := by
  intro heq
  have hrun := isRun_toDigits n
  rw [heq] at hrun
  have hvalue : value cs = n := by
    rw [← value_toDigits n, heq, ← List.singleton_append, value_append]
    show _ = 0 * 10 ^ cs.length + value cs
    rw [Nat.zero_mul, Nat.zero_add]
  have hlt := value_lt fun c hc ↦ hrun c (List.mem_cons_of_mem _ hc)
  have hle := Binary64.pow_digitCount_le hn
  rw [Binary64.digitCount, heq, List.length_cons, Nat.add_sub_cancel] at hle
  omega

end Numeral

namespace Binary64

open Numeral (IsRun value)

/-- The digits that are written for a positive number: some, not starting with a zero. -/
structure WrittenDigits (digits : List Char) : Prop where
  /-- They are digits. -/
  isRun : IsRun digits
  /-- There are some. -/
  ne_nil : digits ≠ []
  /-- The first one is not zero. -/
  head_ne : ∀ ds, digits ≠ '0' :: ds

/-- Without the zeros at its end a decimal has the same value. -/
theorem scientific_spec {d : Decimal} (hd : 0 < d.digits) :
    WrittenDigits (scientific d).1 ∧
      (value (scientific d).1 : ℚ) * 10 ^ ((scientific d).2 + 1 - (scientific d).1.length) =
        d.digits * 10 ^ d.exponent := by
  -- the digits of the number are those that are kept and some zeros
  obtain ⟨n, hn⟩ : ∃ n, Nat.toDigits 10 d.digits =
      (scientific d).1 ++ List.replicate n '0' := by
    have hall : ∀ c ∈ (Nat.toDigits 10 d.digits).reverse.takeWhile (· = '0'), c = '0' :=
      fun c hc ↦ by simpa using List.mem_takeWhile_imp hc
    obtain ⟨n, hzeros⟩ : ∃ n, (Nat.toDigits 10 d.digits).reverse.takeWhile (· = '0') =
        List.replicate n '0' :=
      ⟨_, List.eq_replicate_iff.2 ⟨rfl, hall⟩⟩
    refine ⟨n, ?_⟩
    show _ = ((Nat.toDigits 10 d.digits).reverse.dropWhile (· = '0')).reverse ++ _
    rw [← List.reverse_replicate, ← hzeros, ← List.reverse_append,
      List.takeWhile_append_dropWhile, List.reverse_reverse]
  have htop : (scientific d).2 = d.exponent + ((scientific d).1.length + n : Nat) - 1 := by
    show d.exponent + ((Nat.toDigits 10 d.digits).length : Int) - 1 = _
    rw [hn, List.length_append, List.length_replicate]
  have hvalue : value (scientific d).1 * 10 ^ n = d.digits := by
    rw [← Numeral.value_append_replicate, ← hn, Numeral.value_toDigits]
  refine ⟨⟨?_, ?_, ?_⟩, ?_⟩
  · intro c hc
    refine Numeral.isRun_toDigits d.digits c ?_
    rw [hn]
    exact List.mem_append_left _ hc
  · intro hnil
    rw [hnil] at hvalue
    have : value [] * 10 ^ n = 0 := Nat.zero_mul _
    omega
  · intro ds hds
    rw [hds, List.cons_append] at hn
    exact Numeral.head_toDigits_ne hd _ hn
  · have hplace : (scientific d).2 + 1 - (scientific d).1.length = d.exponent + n := by
      rw [htop]
      push_cast
      omega
    rw [hplace, ← hvalue, zpow_add₀ (by norm_num), zpow_natCast, Nat.cast_mul, Nat.cast_pow,
      Nat.cast_ofNat]
    ring

/-- The digits that are written for a number denote a decimal that rounds to it. -/
theorem roundsTo_scientific {m : Nat} {e : Int} (hkept : Kept m e) (hm : 0 < m) :
    WrittenDigits (scientific (shortest m e)).1 ∧
      RoundsTo m e (value (scientific (shortest m e)).1 *
        10 ^ ((scientific (shortest m e)).2 + 1 - (scientific (shortest m e)).1.length)) := by
  have hround := roundsTo_shortest hkept hm
  have hdigits : 0 < (shortest m e).digits := by
    have hpos := hround.pos hm
    rcases Nat.eq_zero_or_pos (shortest m e).digits with hzero | hdigits
    · rw [hzero, Nat.cast_zero, zero_mul] at hpos
      exact absurd hpos (lt_irrefl 0)
    · exact hdigits
  obtain ⟨hwritten, hvalue⟩ := scientific_spec hdigits
  exact ⟨hwritten, hvalue ▸ hround⟩

end Binary64

end ChannelGraph
