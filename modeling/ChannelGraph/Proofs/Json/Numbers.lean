import ChannelGraph.Json.Reading
import ChannelGraph.Json.Writing
import ChannelGraph.Proofs.Decimal.Digits
import ChannelGraph.Proofs.Lists

/-!
# Numbers that were written

A number is read digit by digit, so the reader is first followed through one run of digits after the
other (`number?_eq`). What is written for an integer is read as that integer, if it does not have
too many digits (`number?_toDigits`). What is written for a floating-point number, positionally or
with an exponent, is read as a decimal that rounds to it, and so as that number (`word?_written`).
-/

namespace ChannelGraph

namespace Json

open Numeral (IsRun value signed)

variable {cs w f tail behind rest digits : List Char} {negative : Bool} {x : Option Int}

/-! ### Runs of digits in a number -/

/-- What stands behind a number does not go on with it. -/
def EndsNumber (rest : List Char) : Prop :=
  ∀ c ∈ rest.head?, c.isDigit = false ∧ c ≠ '.' ∧ c ≠ 'e' ∧ c ≠ 'E'

theorem EndsNumber.isDigit (h : EndsNumber rest) : ∀ c ∈ rest.head?, c.isDigit = false :=
  fun c hc ↦ (h c hc).1

/-- The digits in front of the point of a number. -/
structure IsWhole (w : List Char) : Prop where
  /-- They are digits. -/
  isRun : IsRun w
  /-- There are some. -/
  ne_nil : w ≠ []
  /-- Only a zero alone starts with a zero. -/
  no_zero : ∀ ds, w = '0' :: ds → ds = []
  /-- There are not too many. -/
  le_limit : w.length ≤ Numeral.digitLimit

theorem IsWhole.singleton {d : Char} (h : d.isDigit = true) : IsWhole [d] where
  isRun c hc := by rwa [List.mem_singleton.1 hc]
  ne_nil := List.cons_ne_nil d []
  no_zero _ hds := (List.cons.inj hds).2.symm
  le_limit := Nat.le_of_ble_eq_true rfl

/-- A number is read as its whole digits, then its fraction, then its exponent. -/
theorem number?_eq (hw : IsWhole w) (htail : ∀ c ∈ tail.head?, c.isDigit = false)
    (hf : fraction? tail = some (f, behind)) (hx : exponent? behind = some (x, rest))
    (negative : Bool) : number? negative (w ++ tail) =
      some (if f.isEmpty ∧ x.isNone then int (signed negative w)
        else float (.ofDecimal negative (value (w ++ f)) (x.getD 0 - f.length)), rest) := by
  have htake := takeWhile_append_of_head hw.isRun htail
  have hdrop := dropWhile_append_of_head hw.isRun htail
  unfold number?
  dsimp only
  rw [htake, hdrop]
  cases w with
  | nil => exact absurd rfl hw.ne_nil
  | cons d ds =>
    have hzero : ¬(d = '0' ∧ !ds.isEmpty) := by
      rintro ⟨rfl, hds⟩
      rw [hw.no_zero ds rfl] at hds
      cases hds
    have hlimit : ¬Numeral.digitLimit < (d :: ds).length := Nat.not_lt.2 hw.le_limit
    dsimp only
    rw [if_neg hzero, if_neg hlimit, hf]
    dsimp only
    rw [hx]
    dsimp only
    split <;> rfl

theorem fraction?_point (hf : IsRun f) (hne : f ≠ [])
    (hrest : ∀ c ∈ rest.head?, c.isDigit = false) :
    fraction? ('.' :: (f ++ rest)) = some (f, rest) := by
  show (if ((f ++ rest).takeWhile Char.isDigit).isEmpty then none
    else some ((f ++ rest).takeWhile Char.isDigit, (f ++ rest).dropWhile Char.isDigit)) = _
  rw [takeWhile_append_of_head hf hrest, dropWhile_append_of_head hf hrest,
    if_neg (by simpa using hne)]

theorem fraction?_none (h : ∀ c ∈ cs.head?, c ≠ '.') : fraction? cs = some ([], cs) := by
  cases cs with
  | nil => rfl
  | cons c cs =>
    unfold fraction?
    split
    · rename_i heq
      cases heq
      exact absurd rfl (h '.' rfl)
    · rfl

theorem exponent?_none (h : EndsNumber rest) : exponent? rest = some (none, rest) := by
  cases rest with
  | nil => rfl
  | cons c cs =>
    obtain ⟨-, -, he, hE⟩ := h c rfl
    unfold exponent?
    split
    · rename_i heq
      cases heq
      exact absurd rfl he
    · rename_i heq
      cases heq
      exact absurd rfl hE
    · rfl

/-- A written exponent with zeros in front of its digits, and what stands behind it. -/
def exponentChars (n : Nat) (top : Int) (rest : List Char) : List Char :=
  'e' :: (if top < 0 then '-' else '+') ::
    (List.replicate n '0' ++ Nat.toDigits 10 top.natAbs ++ rest)

/-- A written exponent is read as it was. -/
theorem exponent?_exponentChars (hrest : EndsNumber rest) (n : Nat) (top : Int) :
    exponent? (exponentChars n top rest) = some (some top, rest) := by
  have hrun : IsRun (List.replicate n '0' ++ Nat.toDigits 10 top.natAbs) :=
    (Numeral.isRun_replicate n).append (Numeral.isRun_toDigits _)
  have hvalue : value (List.replicate n '0' ++ Nat.toDigits 10 top.natAbs) = top.natAbs := by
    rw [Numeral.value_replicate_append, Numeral.value_toDigits]
  have hsign : Numeral.splitSign ((if top < 0 then '-' else '+') ::
      (List.replicate n '0' ++ Nat.toDigits 10 top.natAbs ++ rest)) =
      (decide (top < 0), List.replicate n '0' ++ Nat.toDigits 10 top.natAbs ++ rest) := by
    by_cases h : top < 0
    · rw [if_pos h, decide_eq_true h]
      rfl
    · rw [if_neg h, decide_eq_false h]
      rfl
  have hsigned : signed (decide (top < 0)) (List.replicate n '0' ++ Nat.toDigits 10 top.natAbs) =
      top := by
    rw [signed, hvalue]
    by_cases h : top < 0
    · rw [decide_eq_true h]
      show -(top.natAbs : Int) = top
      omega
    · rw [decide_eq_false h]
      show (top.natAbs : Int) = top
      omega
  show (signedExponent? _).map _ = _
  unfold signedExponent?
  rw [hsign]
  dsimp only
  rw [takeWhile_append_of_head hrun hrest.isDigit, dropWhile_append_of_head hrun hrest.isDigit,
    if_neg (by simp [Nat.toDigits_ne_nil]), hsigned]
  rfl

/-! ### Integers -/

/-- The digits of a natural number are read as that number, if they are not too many. -/
theorem number?_toDigits {n : Nat} (hn : Numeral.Readable n)
    (hrest : EndsNumber rest) (negative : Bool) :
    number? negative (Nat.toDigits 10 n ++ rest) =
      some (int (if negative then -(n : Int) else n), rest) := by
  have hwhole : IsWhole (Nat.toDigits 10 n) := by
    refine ⟨Numeral.isRun_toDigits n, Nat.toDigits_ne_nil, fun ds hds ↦ ?_, hn⟩
    rcases Nat.eq_zero_or_pos n with rfl | hpos
    · exact (List.cons.inj hds).2.symm
    · exact absurd hds (Numeral.head_toDigits_ne hpos ds)
  rw [number?_eq hwhole hrest.isDigit (fraction?_none fun c hc ↦ (hrest c hc).2.1)
    (exponent?_none hrest), signed, Numeral.value_toDigits]
  rfl

/-! ### Floating-point numbers -/

open Binary64 (WrittenDigits positional withExponent)

/-- A number with a fraction but without an exponent. -/
theorem number?_point (hw : IsWhole w) (hf : IsRun f) (hne : f ≠ []) (hrest : EndsNumber rest)
    (negative : Bool) : number? negative (w ++ '.' :: (f ++ rest)) =
      some (float (.ofDecimal negative (value (w ++ f)) (-f.length)), rest) := by
  have htail : ∀ c ∈ ('.' :: (f ++ rest)).head?, c.isDigit = false := by
    rintro c hc
    obtain rfl := Option.some.inj hc
    rfl
  rw [number?_eq hw htail (fraction?_point hf hne hrest.isDigit) (exponent?_none hrest),
    if_neg (by simp [hne]), Option.getD_none, zero_sub]

/-- The digits that are written in front of the point, which may end in zeros that were added. -/
theorem isWhole_take {width n : Nat} (hd : WrittenDigits digits) (hpos : 0 < width)
    (hwidth : width ≤ Numeral.digitLimit) (hle : width ≤ (digits ++ List.replicate n '0').length) :
    IsWhole ((digits ++ List.replicate n '0').take width) := by
  have hrun := hd.isRun.append (Numeral.isRun_replicate n)
  have hlength := List.length_take_of_le hle
  refine ⟨fun c hc ↦ hrun c (List.mem_of_mem_take hc), fun hnil ↦ ?_, fun ds hds ↦ ?_, by omega⟩
  · rw [hnil] at hlength
    exact hpos.ne hlength
  · -- the first of them is the first digit, which is not a zero
    obtain ⟨d, ds', hdigits⟩ := List.exists_cons_of_ne_nil hd.ne_nil
    obtain ⟨k, rfl⟩ := Nat.exists_eq_succ_of_ne_zero hpos.ne'
    rw [hdigits, List.cons_append, List.take_succ_cons] at hds
    rw [(List.cons.inj hds).1] at hdigits
    exact absurd hdigits (hd.head_ne ds')

/-- Digits with a point among them, or with a zero behind the point, are read as the integer that
they denote without the point, divided by a power of ten. -/
theorem number?_take_drop {width : Nat} (hw : IsWhole (digits.take width)) (hrun : IsRun digits)
    (hrest : EndsNumber rest) (negative : Bool) : ∃ D P,
      number? negative (digits.take width ++ '.' ::
          ((if (digits.drop width).isEmpty then ['0'] else digits.drop width) ++ rest)) =
        some (float (.ofDecimal negative D P), rest) ∧
      (D : ℚ) * 10 ^ P = value digits * 10 ^ (-((digits.length - width : Nat) : Int)) := by
  by_cases hnil : digits.drop width = []
  · have hle := List.drop_eq_nil_iff.1 hnil
    have hnone : digits.length - width = 0 := by omega
    rw [List.take_of_length_le hle] at hw ⊢
    rw [hnil, if_pos List.isEmpty_nil]
    refine ⟨_, _, number?_point hw (Numeral.isRun_replicate 1) (by simp) hrest negative, ?_⟩
    have hone : value (digits ++ List.replicate 1 '0') = value digits * 10 :=
      Numeral.value_append_replicate 1 digits
    rw [hone, hnone, List.length_replicate]
    push_cast
    rw [zpow_neg_one]
    field_simp
  · have hfraction : IsRun (digits.drop width) := fun c hc ↦ hrun c (List.mem_of_mem_drop hc)
    rw [if_neg (by simpa using hnil)]
    refine ⟨_, _, number?_point hw hfraction hnil hrest negative, ?_⟩
    rw [List.take_append_drop, List.length_drop]

/-- What is written positionally is read as a decimal of the same value. -/
theorem number?_positional {top : Int} (hd : WrittenDigits digits) (htop : top < Numeral.digitLimit)
    (hrest : EndsNumber rest) (negative : Bool) : ∃ D P,
      number? negative (positional digits top ++ rest) =
        some (float (.ofDecimal negative D P), rest) ∧
      (D : ℚ) * 10 ^ P = value digits * 10 ^ (top + 1 - digits.length) := by
  unfold positional
  split
  · -- below one, zeros stand between the point and the digits
    rename_i hneg
    have hrun := (Numeral.isRun_replicate (-top - 1).toNat).append hd.isRun
    refine ⟨_, _, number?_point (.singleton rfl) hrun (by simp [hd.ne_nil]) hrest negative, ?_⟩
    have hvalue : value (['0'] ++ (List.replicate (-top - 1).toNat '0' ++ digits)) = value digits :=
      (Numeral.value_replicate_append 1 _).trans (Numeral.value_replicate_append _ digits)
    rw [hvalue, List.length_append, List.length_replicate]
    congr 2
    push_cast
    omega
  · -- from one on, zeros fill the digits up to the point
    rename_i hpos
    dsimp only
    generalize hwidth : top.toNat + 1 = width
    have hwhole : IsWhole ((digits ++ List.replicate (width - digits.length) '0').take width) := by
      refine isWhole_take hd (by omega) (by omega) ?_
      rw [List.length_append, List.length_replicate]
      omega
    obtain ⟨D, P, hread, hDP⟩ := number?_take_drop hwhole
      (hd.isRun.append (Numeral.isRun_replicate _)) hrest negative
    refine ⟨D, P, ?_, ?_⟩
    · rw [List.append_assoc, List.cons_append]
      exact hread
    · have hplace : top + 1 - digits.length = ((width - digits.length : Nat) : Int) +
          -((digits.length + (width - digits.length) - width : Nat) : Int) := by
        omega
      rw [hDP, Numeral.value_append_replicate, List.length_append, List.length_replicate, hplace,
        zpow_add₀ (by norm_num), zpow_natCast]
      push_cast
      ring

/-- A number with an exponent. -/
theorem number?_exponent {top : Int} {n : Nat} (hw : IsWhole w)
    (hhead : ∀ c ∈ tail.head?, c.isDigit = false) (hrest : EndsNumber rest)
    (hf : fraction? tail = some (f, exponentChars n top rest)) (negative : Bool) :
    number? negative (w ++ tail) =
      some (float (.ofDecimal negative (value (w ++ f)) (top - f.length)), rest) := by
  rw [number?_eq hw hhead hf (exponent?_exponentChars hrest n top), if_neg (by simp),
    Option.getD_some]

/-- What is written with an exponent is read as a decimal of the same value. -/
theorem number?_withExponent {top : Int} (hd : WrittenDigits digits) (hrest : EndsNumber rest)
    (negative : Bool) (width : Nat) : ∃ D P,
      number? negative (withExponent width digits top ++ rest) =
        some (float (.ofDecimal negative D P), rest) ∧
      (D : ℚ) * 10 ^ P = value digits * 10 ^ (top + 1 - digits.length) := by
  generalize hn : width - (Nat.toDigits 10 top.natAbs).length = n
  have hmark : ∀ c ∈ (exponentChars n top rest).head?, c.isDigit = false ∧ c ≠ '.' := by
    rintro c hc
    obtain rfl := Option.some.inj hc
    decide
  -- a single digit has no point behind it
  match digits, hd with
  | [], hd => exact absurd rfl hd.ne_nil
  | [d], hd =>
    have hchars : withExponent width [d] top ++ rest = [d] ++ exponentChars n top rest := by
      simp [withExponent, exponentChars, hn]
    rw [hchars]
    refine ⟨_, _, number?_exponent (.singleton (hd.isRun d (List.mem_singleton.2 rfl)))
      (fun c hc ↦ (hmark c hc).1) hrest (fraction?_none fun c hc ↦ (hmark c hc).2) negative, ?_⟩
    rw [List.append_nil]
    congr 2
    simp
  | d :: d' :: ds, hd =>
    have hchars : withExponent width (d :: d' :: ds) top ++ rest =
        [d] ++ '.' :: ((d' :: ds) ++ exponentChars n top rest) := by
      simp [withExponent, exponentChars, hn]
    have hpoint : ∀ c ∈ ('.' :: ((d' :: ds) ++ exponentChars n top rest)).head?,
        c.isDigit = false := by
      rintro c hc
      obtain rfl := Option.some.inj hc
      rfl
    have hrun : IsRun (d' :: ds) := fun c hc ↦ hd.isRun c (List.mem_cons_of_mem _ hc)
    rw [hchars]
    refine ⟨_, _, number?_exponent (.singleton (hd.isRun d List.mem_cons_self)) hpoint hrest
      (fraction?_point hrun (by simp) fun c hc ↦ (hmark c hc).1) negative, ?_⟩
    rw [List.singleton_append]
    congr 2
    simp only [List.length_cons]
    push_cast
    ring

/-- What is written for a positive number behind its sign is read as that number. -/
theorem number?_body {m : Nat} {e : Int} (hkept : Binary64.Kept m e) (hm : 0 < m)
    (hrest : EndsNumber rest) (negative : Bool) :
    number? negative ((if
        floatFormat.minPositional ≤ (Binary64.scientific (Binary64.shortest m e)).2 ∧
        (Binary64.scientific (Binary64.shortest m e)).2 ≤ floatFormat.maxPositional then
      positional (Binary64.scientific (Binary64.shortest m e)).1
        (Binary64.scientific (Binary64.shortest m e)).2
      else withExponent floatFormat.exponentWidth (Binary64.scientific (Binary64.shortest m e)).1
        (Binary64.scientific (Binary64.shortest m e)).2) ++ rest) =
      some (float (.finite negative m e), rest) := by
  obtain ⟨hwritten, hround⟩ := Binary64.roundsTo_scientific hkept hm
  generalize (Binary64.scientific (Binary64.shortest m e)).1 = digits at *
  generalize (Binary64.scientific (Binary64.shortest m e)).2 = top at *
  split
  · rename_i htop
    have hlimit : top < Numeral.digitLimit := by
      have hmost : top ≤ 15 := htop.2
      unfold Numeral.digitLimit
      omega
    obtain ⟨D, P, hread, hvalue⟩ := number?_positional hwritten hlimit hrest negative
    rw [hread, Binary64.RoundsTo.ofDecimal_eq hkept hm (hvalue ▸ hround)]
  · obtain ⟨D, P, hread, hvalue⟩ := number?_withExponent hwritten hrest negative _
    rw [hread, Binary64.RoundsTo.ofDecimal_eq hkept hm (hvalue ▸ hround)]

/-! ### Numbers among words -/

/-- A number starts with a digit. -/
theorem exists_digit_of_number? {r : Json × List Char} (h : number? negative cs = some r) :
    ∃ c ds, cs = c :: ds ∧ c.isDigit = true := by
  cases cs with
  | nil => cases h
  | cons c ds =>
    refine ⟨c, ds, rfl, ?_⟩
    by_contra hc
    unfold number? at h
    rw [List.takeWhile_cons_of_neg hc] at h
    cases h

theorem ne_nil_of_number? {r : Json × List Char} (h : number? negative (cs ++ rest) = some r)
    (hrest : EndsNumber rest) : cs ≠ [] := by
  rintro rfl
  obtain ⟨c, ds, rfl, hc⟩ := exists_digit_of_number? h
  have hdigit := (hrest c rfl).1
  rw [hc] at hdigit
  cases hdigit

theorem word?_of_number? {r : Json × List Char} (h : number? false cs = some r) :
    word? cs = some r := by
  obtain ⟨c, ds, rfl, hc⟩ := exists_digit_of_number? h
  unfold word?
  split
  case h_8 => exact h
  all_goals
    rename_i heq
    cases heq
    exact absurd hc (by decide)

theorem word?_of_number?_neg {r : Json × List Char} (h : number? true cs = some r) :
    word? ('-' :: cs) = some r := by
  obtain ⟨c, ds, rfl, hc⟩ := exists_digit_of_number? h
  unfold word?
  split
  case h_6 =>
    rename_i heq
    cases heq
    exact absurd hc (by decide)
  case h_7 =>
    rename_i heq
    cases heq
    exact h
  case h_8 =>
    rename_i hne
    exact absurd rfl (hne _)
  all_goals
    rename_i heq
    cases heq

/-- What is written for an integer without too many digits is read as that integer. -/
theorem word?_toString {n : Int} (hn : Numeral.Readable n.natAbs)
    (hrest : EndsNumber rest) : (toString n).toList ≠ [] ∧
      word? ((toString n).toList ++ rest) = some (int n, rest) := by
  cases n with
  | ofNat n =>
    have hchars : (toString (Int.ofNat n)).toList = Nat.toDigits 10 n := by
      rw [Int.toString_eq_repr, Int.repr, Nat.repr_eq_ofList_toDigits, String.toList_ofList]
    rw [hchars]
    exact ⟨Nat.toDigits_ne_nil, word?_of_number? (number?_toDigits hn hrest false)⟩
  | negSucc n =>
    have hchars : (toString (Int.negSucc n)).toList = '-' :: Nat.toDigits 10 (n + 1) := by
      rw [Int.toString_eq_repr, Int.repr, Nat.repr_eq_ofList_toDigits, String.toList_append,
        String.toList_ofList, String.toList_ofList]
      rfl
    rw [hchars]
    exact ⟨List.cons_ne_nil _ _, word?_of_number?_neg (number?_toDigits hn hrest true)⟩

/-- What is written for a finite number is read as that number. -/
theorem word?_written {m : Nat} {e : Int} (hkept : Binary64.Kept m e) (hrest : EndsNumber rest)
    (negative : Bool) : ((Binary64.finite negative m e).written floatFormat).toList ≠ [] ∧
      word? (((Binary64.finite negative m e).written floatFormat).toList ++ rest) =
        some (float (.finite negative m e), rest) := by
  obtain ⟨body, hbody, hread⟩ : ∃ body : List Char,
      ((Binary64.finite negative m e).written floatFormat).toList =
        (if negative then ['-'] else []) ++ body ∧
      number? negative (body ++ rest) = some (float (.finite negative m e), rest) := by
    have hsign : (if negative then "-" else "").toList = if negative then ['-'] else [] := by
      cases negative <;> rfl
    unfold Binary64.written
    dsimp only
    rcases Nat.eq_zero_or_pos m with rfl | hm
    · refine ⟨['0', '.', '0'], ?_, ?_⟩
      · rw [if_pos rfl, String.toList_append, hsign]
        rfl
      · have he : e = Binary64.minExponent :=
          hkept.topBit_le.resolve_left (by decide)
        rw [he]
        exact number?_point (.singleton rfl) (Numeral.isRun_replicate 1) (by simp) hrest negative
    · refine ⟨_, ?_, number?_body hkept hm hrest negative⟩
      rw [if_neg hm.ne', String.toList_append, hsign, String.toList_ofList]
  rw [hbody]
  cases negative with
  | false => exact ⟨ne_nil_of_number? hread hrest, word?_of_number? hread⟩
  | true => exact ⟨List.cons_ne_nil _ _, word?_of_number?_neg hread⟩

end Json

end ChannelGraph
