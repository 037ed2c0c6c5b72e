/-
Module: NativeBridge.Text.Numeral
Purpose: Numbers as text: hexadecimal with its mark, and bounded decimal reading.
Main exports: hexDigits, hexMarked, parseUInt32
-/

namespace NativeBridge.Text

/-- The lower-case hexadecimal digits of a number, with no leading zero. -/
def hexDigits (n : Nat) : String :=
  String.ofList (Nat.toDigits 16 n)

/-- A number in hexadecimal after the mark 0x. -/
def hexMarked (n : Nat) : String :=
  "0x" ++ hexDigits n

/-- The value of a run of decimal digits read after a value already known. -/
def decimalValue : List Char → Nat → Option Nat
  | [], value => some value
  | c :: rest, value =>
      if c.isDigit then decimalValue rest (value * 10 + (c.toNat - '0'.toNat)) else none

/-- Read a 32-bit number: an optional plus sign, then at least one decimal digit, the value below
two to the power 32. -/
def parseUInt32 (text : List Char) : Option UInt32 :=
  let digits := match text with
    | '+' :: rest => rest
    | _ => text
  match digits with
  | [] => none
  | _ =>
      match decimalValue digits 0 with
      | some n => if n < UInt32.size then some (UInt32.ofNat n) else none
      | none => none

end NativeBridge.Text
