import Mathlib.Data.List.Basic

/-!
# Byte strings

Reading fixed-size fields from the front of a byte string, comparing byte
strings without an early exit, and lower-case hexadecimal text.
-/

namespace EclairWallet.ByteString

abbrev Bytes := List UInt8

/-! ## Fixed-size fields -/

/-- Fill a zeroed buffer of `size` bytes from the front of the stream; what
the stream does not hold stays zero. -/
def fill (size : Nat) (stream : Bytes) : Bytes :=
  stream.take size ++ List.replicate (size - stream.length) 0

@[simp] theorem fill_append {size : Nat} {field rest : Bytes}
    (exactSize : field.length = size) : fill size (field ++ rest) = field := by
  have padding : size - (field ++ rest).length = 0 := by
    rw [List.length_append]
    omega
  rw [fill, padding, ← exactSize, List.take_left]
  simp

theorem fill_of_le {size : Nat} {stream : Bytes}
    (enough : size ≤ stream.length) : fill size stream = stream.take size := by
  rw [fill, Nat.sub_eq_zero_of_le enough]
  simp

@[simp] theorem fill_length (stream : Bytes) :
    fill stream.length stream = stream := by
  rw [fill_of_le (Nat.le_refl _), List.take_length]

theorem length_fill (size : Nat) (stream : Bytes) :
    (fill size stream).length = size := by
  rw [fill, List.length_append, List.length_take, List.length_replicate]
  omega

/-- A buffer that has the size of the whole, but receives its first bytes
only, holds the whole exactly when the others are zero. -/
theorem fill_take_eq_iff {bytes : Bytes} {count : Nat} :
    fill bytes.length (bytes.take count) = bytes ↔
      ∀ byte ∈ bytes.drop count, byte = 0 := by
  have bound : (bytes.take count).length ≤ bytes.length := by
    rw [List.length_take]
    exact Nat.min_le_right _ _
  have padding : bytes.length - (bytes.take count).length =
      (bytes.drop count).length := by
    rw [List.length_take, List.length_drop]
    omega
  rw [fill, List.take_of_length_le bound, padding]
  calc
    bytes.take count ++ List.replicate (bytes.drop count).length 0 = bytes ↔
        bytes.take count ++ List.replicate (bytes.drop count).length 0 =
          bytes.take count ++ bytes.drop count := by
      rw [List.take_append_drop]
    _ ↔ bytes.drop count = List.replicate (bytes.drop count).length 0 := by
      rw [List.append_cancel_left_eq, eq_comm]
    _ ↔ ∀ byte ∈ bytes.drop count, byte = 0 := by
      rw [List.eq_replicate_iff, and_iff_right rfl]

@[simp] theorem drop_append_field {size : Nat} {field rest : Bytes}
    (exactSize : field.length = size) : (field ++ rest).drop size = rest := by
  rw [← exactSize, List.drop_left]

/-! ## Comparison without an early exit -/

/-- Collect in `result` the bits in which the two byte strings differ. -/
def differences (result : UInt8) : Bytes → Bytes → UInt8
  | a :: first, b :: second => differences (result ||| (a ^^^ b)) first second
  | _, _ => result

theorem differences_eq_zero_iff {result : UInt8} {first second : Bytes}
    (sameLength : first.length = second.length) :
    differences result first second = 0 ↔ result = 0 ∧ first = second := by
  induction first generalizing result second with
  | nil =>
      cases second with
      | nil => simp [differences]
      | cons b second => simp at sameLength
  | cons a first induction =>
      cases second with
      | nil => simp at sameLength
      | cons b second =>
          have tails : first.length = second.length := by
            simpa using sameLength
          rw [differences, induction tails, UInt8.or_eq_zero_iff,
            UInt8.xor_eq_zero_iff, List.cons.injEq]
          exact and_assoc

/-! ## Hexadecimal text -/

def hexDigit (value : Nat) : Char :=
  if value < 10 then Char.ofNat (48 + value) else Char.ofNat (87 + value)

def hexValue (digit : Char) : Option Nat :=
  if 48 ≤ digit.toNat ∧ digit.toNat ≤ 57 then some (digit.toNat - 48)
  else if 97 ≤ digit.toNat ∧ digit.toNat ≤ 102 then some (digit.toNat - 87)
  else if 65 ≤ digit.toNat ∧ digit.toNat ≤ 70 then some (digit.toNat - 55)
  else none

def hexEncode (bytes : Bytes) : String :=
  String.ofList (bytes.flatMap (fun byte =>
    [hexDigit (byte.toNat / 16), hexDigit (byte.toNat % 16)]))

/-- Two digits a byte, none when the text is anything else. -/
def hexDecodeDigits : List Char → Option Bytes
  | [] => some []
  | [_] => none
  | high :: low :: digits =>
      (hexValue high).bind (fun high =>
        (hexValue low).bind (fun low =>
          (hexDecodeDigits digits).map (fun bytes =>
            UInt8.ofNat (16 * high + low) :: bytes)))

def hexDecode (text : String) : Option Bytes :=
  hexDecodeDigits text.toList

theorem hexValue_hexDigit {value : Nat} (small : value < 16) :
    hexValue (hexDigit value) = some value := by
  have digits : ∀ value : Fin 16, hexValue (hexDigit value) = some value.val := by
    decide
  exact digits ⟨value, small⟩

theorem hexDecode_hexEncode (bytes : Bytes) :
    hexDecode (hexEncode bytes) = some bytes := by
  unfold hexDecode hexEncode
  rw [String.toList_ofList]
  induction bytes with
  | nil => rfl
  | cons byte bytes induction =>
      have small : byte.toNat < 256 := byte.toNat_lt
      have high : hexValue (hexDigit (byte.toNat / 16)) =
          some (byte.toNat / 16) := by
        apply hexValue_hexDigit
        omega
      have low : hexValue (hexDigit (byte.toNat % 16)) =
          some (byte.toNat % 16) := by
        apply hexValue_hexDigit
        omega
      have halves : 16 * (byte.toNat / 16) + byte.toNat % 16 = byte.toNat := by
        omega
      simp only [List.flatMap_cons, List.cons_append, List.nil_append,
        hexDecodeDigits, high, low, induction, Option.bind_some,
        Option.map_some, halves, UInt8.ofNat_toNat]

end EclairWallet.ByteString
