/-
Module: NativeBridge.Text.Hexadecimal
Purpose: Words and bytes as runs of hexadecimal digits of a fixed width.
Main exports: Hexadecimal.value, Hexadecimal.read, Hexadecimal.padded, Hexadecimal.ofBytes,
  Hexadecimal.toBytes
-/
import NativeBridge.Text.Numeral

namespace NativeBridge.Text.Hexadecimal

/-!
Digits are written in lower case and read in either; what is no digit counts as zero.
-/

/-- The value of a digit. -/
def value (c : Char) : Nat :=
  if c.isDigit then c.toNat - '0'.toNat
  else if 'a' ≤ c ∧ c ≤ 'f' then c.toNat - 'a'.toNat + 10
  else if 'A' ≤ c ∧ c ≤ 'F' then c.toNat - 'A'.toNat + 10
  else 0

/-- The number that a run of digits stands for. -/
def read (text : String) : Nat :=
  text.toList.foldl (fun n c => n * 16 + value c) 0

/-- The digits of a number, with zeros in front up to a width. -/
def padded (width n : Nat) : String :=
  let digits := hexDigits n
  String.ofList (List.replicate (width - digits.length) '0') ++ digits

/-- Bytes as two digits each. -/
def ofBytes (bytes : List UInt8) : String :=
  String.join (bytes.map fun byte => padded 2 byte.toNat)

/-- The bytes of a run of digits, two for each; a digit left over is dropped. -/
def bytesOf : List Char → List UInt8
  | high :: low :: rest => UInt8.ofNat (value high * 16 + value low) :: bytesOf rest
  | _ => []

/-- The bytes of a text of digits. -/
def toBytes (text : String) : List UInt8 :=
  bytesOf text.toList

end NativeBridge.Text.Hexadecimal
