/-
Module: NativeBridge.Text.Quoted
Purpose: A text between double quotes, as inspection output shows it.
Main exports: quoteChar, quote
-/
import NativeBridge.Text.Numeral
import NativeBridge.Text.Printable

namespace NativeBridge.Text

/-- One character inside quotes: five short escapes, the code point in braces for what cannot be
shown, and the character itself otherwise. -/
def quoteChar (c : Char) : List Char :=
  if c == '\x00' then ['\\', '0']
  else if c == '\t' then ['\\', 't']
  else if c == '\n' then ['\\', 'n']
  else if c == '\r' then ['\\', 'r']
  else if c == '"' then ['\\', '"']
  else if c == '\\' then ['\\', '\\']
  else if isShown c then [c]
  else ['\\', 'u', '\x7b'] ++ Nat.toDigits 16 c.toNat ++ ['\x7d']

/-- A text between double quotes, with escapes. -/
def quote (text : String) : String :=
  String.ofList ('"' :: (text.toList.flatMap quoteChar ++ ['"']))

end NativeBridge.Text
