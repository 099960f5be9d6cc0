/-!
# Hexadecimal numerals of fixed width

Numerals with lower-case digits, as escapes write them: `hexDigits w n` are the last `w` digits of
`n`, and they denote `n` modulo `16 ^ w` (`ofHexDigits?_hexDigits`).
-/

namespace ChannelGraph.Text

/-- The digit of a number below sixteen. -/
def hexDigit (n : Nat) : Char :=
  if n < 10 then Char.ofNat (0x30 + n) else Char.ofNat (0x61 + (n - 10))

/-- The number of a digit, in either case. -/
def hexValue? (c : Char) : Option Nat :=
  let n := c.toNat
  if 0x30 ≤ n ∧ n ≤ 0x39 then some (n - 0x30)
  else if 0x61 ≤ n ∧ n ≤ 0x66 then some (n - 0x61 + 10)
  else if 0x41 ≤ n ∧ n ≤ 0x46 then some (n - 0x41 + 10)
  else none

/-- The digits of the numbers below sixteen are read back. -/
theorem hexValue?_hexDigit {n : Nat} (h : n < 16) : hexValue? (hexDigit n) = some n := by
  have hall : ∀ m ∈ List.range 16, hexValue? (hexDigit m) = some m := by decide
  exact hall n (List.mem_range.2 h)

/-- The last `width` digits of a number, most significant first. -/
def hexDigits : Nat → Nat → List Char
  | 0, _ => []
  | width + 1, n => hexDigits width (n / 16) ++ [hexDigit (n % 16)]

/-- The number that a list of digits denotes, read after the number `acc`. -/
def ofHexDigits? (acc : Nat) : List Char → Option Nat
  | [] => some acc
  | c :: cs => (hexValue? c).bind fun d ↦ ofHexDigits? (16 * acc + d) cs

/-- Digits are read one after the other. -/
theorem ofHexDigits?_append (acc : Nat) (cs ds : List Char) :
    ofHexDigits? acc (cs ++ ds) = (ofHexDigits? acc cs).bind fun n ↦ ofHexDigits? n ds := by
  induction cs generalizing acc with
  | nil => rfl
  | cons c cs ih =>
    cases h : hexValue? c <;> simp [ofHexDigits?, h, ih]

/-- The digits of a number read back as the number, less what the width cuts off. -/
theorem ofHexDigits?_hexDigits (width n : Nat) :
    ofHexDigits? 0 (hexDigits width n) = some (n % Nat.pow 16 width) := by
  induction width generalizing n with
  | zero => simp [hexDigits, ofHexDigits?, Nat.mod_one]
  | succ width ih =>
    have hlt : n % 16 < 16 := Nat.mod_lt _ (by decide)
    simp only [hexDigits, ofHexDigits?_append, ih, Option.bind_some, ofHexDigits?,
      hexValue?_hexDigit hlt]
    have h : n % Nat.pow 16 (width + 1) = n % 16 + 16 * (n / 16 % Nat.pow 16 width) := by
      rw [show Nat.pow 16 (width + 1) = 16 * Nat.pow 16 width from Nat.mul_comm _ _, Nat.mod_mul]
    rw [h, Nat.add_comm]

end ChannelGraph.Text
