/-
Module: NativeBridge.Text.Blank
Purpose: White space in the sense of the Unicode property White_Space, and trimming by it.
Main exports: isBlank, trimEnd, trim, isAllBlank
-/

namespace NativeBridge.Text

/-- The Unicode property White_Space. -/
def isBlank (c : Char) : Bool :=
  let n := c.toNat
  (0x9 ≤ n && n ≤ 0xD) || n == 0x20 || n == 0x85 || n == 0xA0 || n == 0x1680 ||
    (0x2000 ≤ n && n ≤ 0x200A) || n == 0x2028 || n == 0x2029 || n == 0x202F || n == 0x205F ||
    n == 0x3000

/-- Remove the white space a list of characters ends in. -/
def trimEndChars (s : List Char) : List Char :=
  (s.reverse.dropWhile isBlank).reverse

/-- Remove white space at both ends of a list of characters. -/
def trimChars (s : List Char) : List Char :=
  trimEndChars (s.dropWhile isBlank)

/-- Remove the white space a text ends in. -/
def trimEnd (text : String) : String :=
  String.ofList (trimEndChars text.toList)

/-- Remove white space at both ends of a text. -/
def trim (text : String) : String :=
  String.ofList (trimChars text.toList)

/-- Whether a text holds nothing but white space. -/
def isAllBlank (text : String) : Bool :=
  text.toList.all isBlank

end NativeBridge.Text
