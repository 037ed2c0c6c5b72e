/-
Module: NativeBridge.Proofs.Utf8RoundTrip
Purpose: A text is read back from its UTF-8 bytes, and these have a zero only for a NUL.
Main exports: Text.Utf8.decodeNext_encodeChar, Text.Utf8.decodeLossy_encode,
  Text.Utf8.zero_mem_encode
-/
import NativeBridge.Text.Utf8

namespace NativeBridge.Text.Utf8

/-!
A character has one to four bytes.  The first says how many there are and holds the highest bits of
the code point; the others hold six bits each.  The decoder asks for more than this of the second
byte, so that nothing but the shortest form of a code point that is no surrogate is read.
-/

theorem toNat_ofNat {n : Nat} (byte : n < 256) : (UInt8.ofNat n).toNat = n :=
  UInt8.toNat_ofNat_of_lt' byte

/-- The byte that holds the low six bits of a number. -/
def continuation (n : Nat) : UInt8 :=
  UInt8.ofNat (n % 0x40 + 0x80)

theorem toNat_continuation (n : Nat) : (continuation n).toNat = n % 0x40 + 0x80 := by
  apply toNat_ofNat
  omega

@[simp]
theorem isContinuation_continuation (n : Nat) : isContinuation (continuation n) = true := by
  simp only [isContinuation, UInt8.le_iff_toNat_le, toNat_continuation, Bool.and_eq_true,
    decide_eq_true_eq]
  constructor
  · exact Nat.le_add_left _ _
  · show n % 64 + 128 ≤ 191
    omega

@[simp]
theorem payload_continuation (n : Nat) : payload (continuation n) = n % 0x40 := by
  rw [payload, toNat_continuation]
  omega

/-! ### The bytes of one character -/

theorem decodeNext_one {n : Nat} (small : n < 0x80) (rest : List UInt8) :
    decodeNext (UInt8.ofNat n) rest = (Char.ofNat n, rest) := by
  have number := toNat_ofNat (n := n) (by omega)
  have first : UInt8.ofNat n < 0x80 := by
    rw [UInt8.lt_iff_toNat_lt, number]
    exact small
  rw [decodeNext, if_pos first, number]

theorem decodeNext_two {n : Nat} (lower : 0x80 ≤ n) (upper : n < 0x800) (rest : List UInt8) :
    decodeNext (UInt8.ofNat (n / 64 % 0x20 + 0xC0)) (continuation n :: rest) =
      (Char.ofNat n, rest) := by
  have number := toNat_ofNat (n := n / 64 % 0x20 + 0xC0) (by omega)
  generalize UInt8.ofNat (n / 64 % 0x20 + 0xC0) = first at number ⊢
  have decoded : first.toNat % 0x20 * 0x40 + n % 0x40 = n := by omega
  have many : ¬ first < 0x80 := by
    rw [UInt8.lt_iff_toNat_lt, number]
    show ¬ n / 64 % 32 + 192 < 128
    omega
  have two : 0xC2 ≤ first ∧ first ≤ 0xDF := by
    rw [UInt8.le_iff_toNat_le, UInt8.le_iff_toNat_le, number]
    show 194 ≤ n / 64 % 32 + 192 ∧ n / 64 % 32 + 192 ≤ 223
    omega
  simp [decodeNext, many, two, decodeTwo, decoded]

theorem decodeNext_three {n : Nat} (lower : 0x800 ≤ n) (upper : n < 0x10000)
    (scalar : n < 0xD800 ∨ 0xDFFF < n) (rest : List UInt8) :
    decodeNext (UInt8.ofNat (n / 4096 % 0x10 + 0xE0))
        (continuation (n / 64) :: continuation n :: rest) =
      (Char.ofNat n, rest) := by
  have number := toNat_ofNat (n := n / 4096 % 0x10 + 0xE0) (by omega)
  generalize UInt8.ofNat (n / 4096 % 0x10 + 0xE0) = first at number ⊢
  have decoded : first.toNat % 0x10 * 0x1000 + n / 64 % 0x40 * 0x40 + n % 0x40 = n := by omega
  have many : ¬ first < 0x80 := by
    rw [UInt8.lt_iff_toNat_lt, number]
    show ¬ n / 4096 % 16 + 224 < 128
    omega
  have more : ¬ (0xC2 ≤ first ∧ first ≤ 0xDF) := by
    rw [UInt8.le_iff_toNat_le, UInt8.le_iff_toNat_le, number]
    show ¬ (194 ≤ n / 4096 % 16 + 224 ∧ n / 4096 % 16 + 224 ≤ 223)
    omega
  have three : 0xE0 ≤ first ∧ first ≤ 0xEF := by
    rw [UInt8.le_iff_toNat_le, UInt8.le_iff_toNat_le, number]
    show 224 ≤ n / 4096 % 16 + 224 ∧ n / 4096 % 16 + 224 ≤ 239
    omega
  have second : isSecondOfThree first (continuation (n / 64)) = true := by
    rw [isSecondOfThree]
    split
    · next least =>
      have equal : first.toNat = 224 := congrArg UInt8.toNat (eq_of_beq least)
      simp only [UInt8.le_iff_toNat_le, toNat_continuation, Bool.and_eq_true, decide_eq_true_eq]
      show 160 ≤ n / 64 % 64 + 128 ∧ n / 64 % 64 + 128 ≤ 191
      omega
    · split
      · next surrogate =>
        have equal : first.toNat = 237 := congrArg UInt8.toNat (eq_of_beq surrogate)
        simp only [UInt8.le_iff_toNat_le, toNat_continuation, Bool.and_eq_true, decide_eq_true_eq]
        show 128 ≤ n / 64 % 64 + 128 ∧ n / 64 % 64 + 128 ≤ 159
        omega
      · exact isContinuation_continuation _
  simp [decodeNext, many, more, three, decodeThree, second, decoded]

theorem decodeNext_four {n : Nat} (lower : 0x10000 ≤ n) (upper : n < 0x110000)
    (rest : List UInt8) :
    decodeNext (UInt8.ofNat (n / 262144 % 0x08 + 0xF0))
        (continuation (n / 4096) :: continuation (n / 64) :: continuation n :: rest) =
      (Char.ofNat n, rest) := by
  have number := toNat_ofNat (n := n / 262144 % 0x08 + 0xF0) (by omega)
  generalize UInt8.ofNat (n / 262144 % 0x08 + 0xF0) = first at number ⊢
  have decoded : first.toNat % 0x8 * 0x40000 + n / 4096 % 0x40 * 0x1000 +
      n / 64 % 0x40 * 0x40 + n % 0x40 = n := by omega
  have many : ¬ first < 0x80 := by
    rw [UInt8.lt_iff_toNat_lt, number]
    show ¬ n / 262144 % 8 + 240 < 128
    omega
  have more : ¬ (0xC2 ≤ first ∧ first ≤ 0xDF) := by
    rw [UInt8.le_iff_toNat_le, UInt8.le_iff_toNat_le, number]
    show ¬ (194 ≤ n / 262144 % 8 + 240 ∧ n / 262144 % 8 + 240 ≤ 223)
    omega
  have most : ¬ (0xE0 ≤ first ∧ first ≤ 0xEF) := by
    rw [UInt8.le_iff_toNat_le, UInt8.le_iff_toNat_le, number]
    show ¬ (224 ≤ n / 262144 % 8 + 240 ∧ n / 262144 % 8 + 240 ≤ 239)
    omega
  have four : 0xF0 ≤ first ∧ first ≤ 0xF4 := by
    rw [UInt8.le_iff_toNat_le, UInt8.le_iff_toNat_le, number]
    show 240 ≤ n / 262144 % 8 + 240 ∧ n / 262144 % 8 + 240 ≤ 244
    omega
  have second : isSecondOfFour first (continuation (n / 4096)) = true := by
    rw [isSecondOfFour]
    split
    · next least =>
      have equal : first.toNat = 240 := congrArg UInt8.toNat (eq_of_beq least)
      simp only [UInt8.le_iff_toNat_le, toNat_continuation, Bool.and_eq_true, decide_eq_true_eq]
      show 144 ≤ n / 4096 % 64 + 128 ∧ n / 4096 % 64 + 128 ≤ 191
      omega
    · split
      · next greatest =>
        have equal : first.toNat = 244 := congrArg UInt8.toNat (eq_of_beq greatest)
        simp only [UInt8.le_iff_toNat_le, toNat_continuation, Bool.and_eq_true, decide_eq_true_eq]
        show 128 ≤ n / 4096 % 64 + 128 ∧ n / 4096 % 64 + 128 ≤ 143
        omega
      · exact isContinuation_continuation _
  simp [decodeNext, many, more, most, four, decodeFour, second, decoded]

/-- The first character of an encoded text is read back, whatever comes after it. -/
theorem decodeNext_encodeChar (c : Char) (rest : List UInt8) :
    ∃ first more, String.utf8EncodeChar c = first :: more ∧
      decodeNext first (more ++ rest) = (c, rest) := by
  have same : Char.ofNat c.val.toNat = c := Char.ofNat_toNat c
  have scalar : c.val.toNat < 0xD800 ∨ (0xDFFF < c.val.toNat ∧ c.val.toNat < 0x110000) := c.valid
  rw [String.utf8EncodeChar]
  generalize c.val.toNat = n at same scalar ⊢
  subst same
  split
  · next small => exact ⟨_, _, rfl, decodeNext_one (by omega) rest⟩
  split
  · next one two => exact ⟨_, _, rfl, decodeNext_two (by omega) (by omega) rest⟩
  split
  · next one two three =>
    exact ⟨_, _, rfl, decodeNext_three (by omega) (by omega) (by omega) rest⟩
  · next one two three => exact ⟨_, _, rfl, decodeNext_four (by omega) (by omega) rest⟩

/-! ### The bytes of a text -/

theorem decodeLossyChars_encodeChars (chars : List Char) :
    decodeLossyChars (encodeChars chars) = chars := by
  induction chars with
  | nil => simp [encodeChars, decodeLossyChars]
  | cons c chars ih =>
    obtain ⟨first, more, bytes, decoded⟩ := decodeNext_encodeChar c (encodeChars chars)
    have parted : encodeChars (c :: chars) = first :: (more ++ encodeChars chars) := by
      rw [encodeChars, List.flatMap_cons, bytes]
      rfl
    rw [parted, decodeLossyChars, decoded, ih]

/-- A text is read back from its bytes. -/
theorem decodeLossy_encode (text : String) : decodeLossy (encode text) = text := by
  rw [decodeLossy, encode, decodeLossyChars_encodeChars, String.ofList_toList]

theorem ofNat_ne_zero {n : Nat} (positive : 0 < n) (byte : n < 256) :
    (0 : UInt8) ≠ UInt8.ofNat n := by
  intro zero
  have number := congrArg UInt8.toNat zero
  rw [toNat_ofNat byte, UInt8.toNat_zero] at number
  omega

theorem zero_mem_encodeChar (c : Char) : 0 ∈ String.utf8EncodeChar c ↔ c = '\x00' := by
  have null : c = '\x00' ↔ c.val.toNat = 0 := by
    constructor
    · rintro rfl
      rfl
    · intro zero
      rw [← Char.ofNat_toNat c, Char.toNat, zero]
  rw [null, String.utf8EncodeChar]
  generalize c.val.toNat = n
  split
  · by_cases zero : n = 0
    · simp [zero]
    · simp [zero, ofNat_ne_zero (n := n) (by omega) (by omega)]
  have positive : n ≠ 0 := by omega
  have later (m : Nat) := ofNat_ne_zero (n := m % 0x40 + 0x80) (by omega) (by omega)
  split
  · have first := ofNat_ne_zero (n := n / 64 % 0x20 + 0xC0) (by omega) (by omega)
    simp only [List.mem_cons, List.not_mem_nil, positive, first, later, or_self]
  split
  · have first := ofNat_ne_zero (n := n / 4096 % 0x10 + 0xE0) (by omega) (by omega)
    simp only [List.mem_cons, List.not_mem_nil, positive, first, later, or_self]
  · have first := ofNat_ne_zero (n := n / 262144 % 0x08 + 0xF0) (by omega) (by omega)
    simp only [List.mem_cons, List.not_mem_nil, positive, first, later, or_self]

/-- There is a zero among the bytes of a text only for a NUL. -/
theorem zero_mem_encode (text : String) : 0 ∈ encode text ↔ '\x00' ∈ text.toList := by
  rw [encode, encodeChars, List.mem_flatMap]
  constructor
  · rintro ⟨c, found, zero⟩
    rwa [← (zero_mem_encodeChar c).mp zero]
  · intro found
    exact ⟨_, found, (zero_mem_encodeChar _).mpr rfl⟩

end NativeBridge.Text.Utf8
