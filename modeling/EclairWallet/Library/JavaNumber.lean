import Mathlib.Algebra.Order.Ring.Int

/-!
# Reading and writing decimal integers as Java does

`Long.parseLong` and `Integer.parseInt` differ in their range only.  Both read
one optional sign and then digits, where a digit is what `Character.digit`
says: the ASCII digits and those of other scripts.
-/

namespace EclairWallet.JavaNumber

/-- `Character.digit` with radix ten. -/
structure CharacterDigit where
  digit : Char → Option Nat
  digit_of_isDigit : ∀ char, char.isDigit = true →
    digit char = some (char.toNat - '0'.toNat)
  digit_of_isAlpha : ∀ char, char.isAlpha = true → digit char = none

/-- The digits of ASCII only. -/
def asciiDigit : CharacterDigit where
  digit char :=
    if char.isDigit then some (char.toNat - '0'.toNat) else none
  digit_of_isDigit := by
    intro char isDigit
    rw [if_pos isDigit]
  digit_of_isAlpha := by
    intro char isAlpha
    rw [if_neg]
    intro isDigit
    have high : char.val ≤ '9'.val :=
      of_decide_eq_true (Bool.and_eq_true_iff.mp isDigit).2
    have low : 'A'.val ≤ char.val := by
      rcases Bool.or_eq_true_iff.mp isAlpha with upper | lower
      · exact (of_decide_eq_true upper).1
      · have small : 'a'.val ≤ char.val :=
          of_decide_eq_true (Bool.and_eq_true_iff.mp lower).1
        exact UInt32.le_trans (by decide) small
    have impossible : 'A'.val ≤ '9'.val := UInt32.le_trans low high
    exact absurd impossible (by decide)

variable (digits : CharacterDigit)

/-- Read digits after those that make up `value`. -/
def readDigits (value : Nat) : List Char → Option Nat
  | [] => some value
  | char :: rest =>
      match digits.digit char with
      | none => none
      | some digit => readDigits (10 * value + digit) rest

/-- Read digits, of which there is at least one. -/
def readSome : List Char → Option Nat
  | [] => none
  | char :: rest => readDigits digits 0 (char :: rest)

/-- Read an integer between `low` and `high`. -/
def parse (low high : Int) : List Char → Option Int
  | '-' :: rest =>
      (readSome digits rest).bind (fun value =>
        if low ≤ -(value : Int) then some (-(value : Int)) else none)
  | '+' :: rest =>
      (readSome digits rest).bind (fun value =>
        if (value : Int) ≤ high then some (value : Int) else none)
  | text =>
      (readSome digits text).bind (fun value =>
        if (value : Int) ≤ high then some (value : Int) else none)

/-- `Long.parseLong`. -/
def parseLong : List Char → Option Int :=
  parse digits (-(2 ^ 63)) (2 ^ 63 - 1)

/-- `Integer.parseInt`. -/
def parseInt : List Char → Option Int :=
  parse digits (-(2 ^ 31)) (2 ^ 31 - 1)

/-- `String.valueOf` for an integer. -/
def valueOf (value : Int) : List Char :=
  if value < 0 then '-' :: Nat.toDigits 10 value.natAbs
  else Nat.toDigits 10 value.natAbs

variable {digits}

theorem readDigits_of_isDigit {text : List Char}
    (ascii : ∀ char ∈ text, char.isDigit = true) (value : Nat) :
    readDigits digits value text = some (Nat.ofDigitChars 10 text value) := by
  induction text generalizing value with
  | nil => simp [readDigits]
  | cons char rest induction =>
      have head : char.isDigit = true := ascii char (by simp)
      have tail : ∀ later ∈ rest, later.isDigit = true := by
        intro later member
        exact ascii later (by simp [member])
      rw [readDigits, digits.digit_of_isDigit char head, Nat.ofDigitChars_cons]
      exact induction tail _

theorem isDigit_of_mem_toDigits {value : Nat} {char : Char}
    (member : char ∈ Nat.toDigits 10 value) : char.isDigit = true :=
  Nat.isDigit_of_mem_toDigits (by omega) (by omega) member

theorem parse_of_isDigit {low high : Int} {char : Char} {rest : List Char}
    (isDigit : char.isDigit = true) :
    parse digits low high (char :: rest) =
      (readSome digits (char :: rest)).bind (fun value =>
        if (value : Int) ≤ high then some (value : Int) else none) := by
  unfold parse
  split
  · rename_i written
    obtain ⟨rfl, _⟩ := List.cons.inj written
    exact absurd isDigit (by decide)
  · rename_i written
    obtain ⟨rfl, _⟩ := List.cons.inj written
    exact absurd isDigit (by decide)
  · rfl

theorem parse_of_digits {low high : Int} {text : List Char}
    (nonempty : text ≠ []) (ascii : ∀ char ∈ text, char.isDigit = true)
    (bound : (Nat.ofDigitChars 10 text 0 : Int) ≤ high) :
    parse digits low high text = some (Nat.ofDigitChars 10 text 0 : Int) := by
  obtain ⟨char, rest, rfl⟩ := List.exists_cons_of_ne_nil nonempty
  rw [parse_of_isDigit (ascii char (by simp)), readSome,
    readDigits_of_isDigit ascii, Option.bind_some, if_pos bound]

/-- What is written for a number that is not negative is read back. -/
theorem parse_valueOf {low high value : Int} (nonneg : 0 ≤ value)
    (bound : value ≤ high) :
    parse digits low high (valueOf value) = some value := by
  have same : (value.natAbs : Int) = value := Int.natAbs_of_nonneg nonneg
  have denotes : (Nat.ofDigitChars 10 (Nat.toDigits 10 value.natAbs) 0 : Int) =
      value := by
    rw [Nat.ofDigitChars_ten_toDigits, same]
  rw [valueOf, if_neg (by omega), parse_of_digits Nat.toDigits_ne_nil
    (fun _ => isDigit_of_mem_toDigits) (by rw [denotes]; exact bound),
    denotes]

/-- A number below a power of ten is written with few digits. -/
theorem length_valueOf_le {value : Int} {size : Nat} (nonneg : 0 ≤ value)
    (positive : 0 < size) (bound : value < 10 ^ size) :
    (valueOf value).length ≤ size := by
  rw [valueOf, if_neg (by omega)]
  apply (Nat.length_toDigits_le_iff (by omega) positive).mpr
  have same : (value.natAbs : Int) = value := Int.natAbs_of_nonneg nonneg
  apply Int.ofNat_lt.mp
  rw [same, Int.natCast_pow]
  exact bound

end EclairWallet.JavaNumber
