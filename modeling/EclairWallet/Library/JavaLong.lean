import Mathlib.Algebra.Order.BigOperators.Group.List
import Mathlib.Algebra.Ring.Int.Defs

/-!
# Java's integers and SQL sums

Arithmetic on `long` and casts to `int` wrap around.  A SQL sum over integers
is exact, and fails when it leaves the range of a `long`.
-/

namespace EclairWallet.JavaLong

def minValue : Int := -(2 ^ 63)

def maxValue : Int := 2 ^ 63 - 1

/-- The value is a `long`. -/
def Fits (value : Int) : Prop :=
  minValue ≤ value ∧ value ≤ maxValue

instance (value : Int) : Decidable (Fits value) :=
  inferInstanceAs (Decidable (_ ∧ _))

/-- The `long` an operation yields for a mathematical result. -/
def toLong (value : Int) : Int :=
  value.bmod (2 ^ 64)

/-- The cast `(int)`. -/
def toInt (value : Int) : Int :=
  value.bmod (2 ^ 32)

theorem toLong_of_fits {value : Int} (fits : Fits value) :
    toLong value = value := by
  obtain ⟨low, high⟩ := fits
  simp only [minValue, maxValue] at low high
  apply Int.bmod_eq_of_le
  · omega
  · omega

theorem fits_toLong (value : Int) : Fits (toLong value) := by
  have low : -(2 ^ 64 / 2) ≤ toLong value := Int.le_bmod (by decide)
  have high : toLong value < (2 ^ 64 + 1) / 2 := Int.bmod_lt (by decide)
  simp only [Fits, minValue, maxValue]
  omega

theorem toLong_add_toLong (value other : Int) :
    toLong (value + toLong other) = toLong (value + other) :=
  Int.add_bmod_bmod

/-- A summand that two sums share does not tell them apart. -/
theorem toLong_add_right_inj (shared first second : Int) :
    toLong (shared + first) = toLong (shared + second) ↔
      toLong first = toLong second :=
  Int.bmod_add_cancel_left shared

/-- Add up in a loop, `total += value`. -/
def total (values : List Int) : Int :=
  values.foldl (fun total value => toLong (total + value)) 0

/-- The loop wraps around, whatever the order. -/
theorem total_eq (values : List Int) : total values = toLong values.sum := by
  have loop : ∀ start, values.foldl
      (fun total value => toLong (total + value)) (toLong start) =
        toLong (start + values.sum) := by
    induction values with
    | nil => simp
    | cons value values induction =>
        intro start
        have added : toLong (toLong start + value) = toLong (start + value) :=
          Int.bmod_add_bmod
        rw [List.foldl_cons, added, induction (start + value), List.sum_cons,
          Int.add_assoc]
  simpa [total, toLong] using loop 0

theorem sum_map_filter {α : Type} (values : List α) (kept : α → Bool)
    (value : α → Int) :
    ((values.filter kept).map value).sum =
      (values.map (fun item => if kept item then value item else 0)).sum := by
  induction values with
  | nil => rfl
  | cons item values induction =>
      cases keeps : kept item with
      | true => simp [keeps, induction]
      | false => simp [keeps, induction]

/-- Add the values to `total`, stopping when a sum is no `long`. -/
def sumFrom (total : Int) : List Int → Option Int
  | [] => some total
  | value :: values =>
      if Fits (total + value) then sumFrom (total + value) values else none

/-- `SUM`.  The sum of no rows is null, which is read as zero. -/
def sum (values : List Int) : Option Int :=
  sumFrom 0 values

theorem sumFrom_of_nonneg {total : Int} {values : List Int}
    (start : 0 ≤ total) (nonneg : ∀ value ∈ values, 0 ≤ value)
    (bound : total + values.sum ≤ maxValue) :
    sumFrom total values = some (total + values.sum) := by
  induction values generalizing total with
  | nil => simp [sumFrom]
  | cons value values induction =>
      have head : 0 ≤ value := nonneg value (by simp)
      have tail : ∀ later ∈ values, 0 ≤ later := by
        intro later member
        exact nonneg later (by simp [member])
      have rest : 0 ≤ values.sum := List.sum_nonneg tail
      rw [List.sum_cons, ← Int.add_assoc] at bound
      have fits : Fits (total + value) := by
        constructor
        · rw [minValue]
          omega
        · omega
      rw [sumFrom, if_pos fits, induction (by omega) tail bound,
        List.sum_cons, Int.add_assoc]

/-- Values that are not negative are summed whenever their sum is a `long`. -/
theorem sum_of_nonneg {values : List Int}
    (nonneg : ∀ value ∈ values, 0 ≤ value)
    (bound : values.sum ≤ maxValue) : sum values = some values.sum := by
  have inRange : 0 + values.sum ≤ maxValue := by omega
  have summed := sumFrom_of_nonneg (Int.le_refl 0) nonneg inRange
  rwa [Int.zero_add] at summed

end EclairWallet.JavaLong
